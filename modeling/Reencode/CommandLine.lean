import Reencode.Session.Outcomes
import Reencode.Settings.LogSetup

/-!
# Command line

Asked for its version, the program prints it and does nothing else. Otherwise it sets up the log,
opens a session, serves it until the caller is done or the server fails, and closes the session in
either case.
-/
namespace Reencode.CommandLine

/-- The version of the program. -/
def version : String := "0.1.0"

/-- The line that tells the version. -/
def versionLine : String := "py-image-recompress-mcp " ++ version ++ "\n"

/-- Whether the arguments ask for the version. -/
def asksVersion (arguments : List String) : Bool :=
  arguments.head? == some "--version" || arguments.head? == some "-v"

/-- What a run of the program did: what was printed, whether the server was started and the session
closed, what the log let through, and the failure it ended with. -/
structure Run where
  output : String
  started : Bool
  closed : Bool
  records : List LogRecord
  raised : Option Failure

/-- The record of the server's start. -/
def startRecord : LogRecord := ⟨.info, "启动批量图片重新压缩 MCP 服务器"⟩

/-- A session with the settings, before anything was asked of it. -/
def openSession {S : Type} (settings : Settings) (pace : Pace) :
    Except Failure (Session S Unit) := do
  let collection ← Collection.create settings none .null pace
  return ⟨collection, settings, .initial [], [], ()⟩

/-- A run that ends before the server is started. -/
def stopped (failure : Failure) : Run := ⟨"", false, false, [], some failure⟩

/-- Serves a session; the server ends as given. -/
def serve {S : Type} (w : Surroundings S Unit) (settings : Settings)
    (ending : Except Failure Unit) : Run :=
  match openSession settings .whileWaiting, LogSetup.initial.configure settings with
  | .error e, _ => stopped e
  | _, .error e => stopped e
  | .ok session, .ok setup =>
    let (_, session) := (Session.close w).run.run session
    { output := ""
      started := true
      closed := session.collection.scheduler.closed
      records := (startRecord :: session.journal).filter setup.admits
      raised := match ending with
        | .ok _ => none
        | .error e => some e }

/-- Runs the program. -/
def run {S : Type} (w : Surroundings S Unit) (settings : Settings) (arguments : List String)
    (ending : Except Failure Unit) : Run :=
  if asksVersion arguments then ⟨versionLine, false, false, [], none⟩
  else serve w settings ending

end Reencode.CommandLine
