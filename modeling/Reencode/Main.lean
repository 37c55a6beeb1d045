import Reencode.Codec.Pictures
import Reencode.CommandLine
import Reencode.Tools.Request

/-!
# The program

The program answers requests, one a line, until its input ends. What the log lets through goes to
the error stream. With the settings' variables in the environment it starts as they say, and with
settings that make no sense it does not start.
-/
namespace Reencode.CommandLine

/-- Prints records that the log lets through. -/
def printRecords (setup : LogSetup) (records : List LogRecord) : IO Unit := do
  for r in records.filter setup.admits do
    IO.eprintln (LogSetup.logName ++ " - " ++ r.level.name ++ " - " ++ r.text)

/-- Answers lines until there are none left, and gives the session after the last one. -/
partial def answerLines (w : Surroundings Picture Unit) (setup : LogSetup)
    (input output : IO.FS.Stream) (session : Session Picture Unit) :
    IO (Session Picture Unit) := do
  let line ← input.getLine
  if line.isEmpty then return session
  let (answer, session) := Tools.answerLine w session line
  printRecords setup session.journal
  output.putStrLn answer
  output.flush
  answerLines w setup input output { session with journal := [] }

/-- Ends the program with a failure. -/
def giveUp (e : Failure) : IO UInt32 := do
  IO.eprintln e.text
  return 1

/-- Serves the standard streams. -/
def serveStreams (settings : Settings) : IO UInt32 := do
  let w : Surroundings Picture Unit :=
    { codec := Picture.codec, react := fun _ _ => pure (), patience := 64 }
  match openSession settings .whileWaiting, LogSetup.initial.configure settings with
  | .error e, _ => giveUp e
  | _, .error e => giveUp e
  | .ok session, .ok setup =>
    printRecords setup [startRecord]
    let session ← answerLines w setup (← IO.getStdin) (← IO.getStdout) session
    let (_, session) := (Session.close w).run.run session
    printRecords setup session.journal
    return 0

end Reencode.CommandLine

open Reencode in
/-- Tells the version, or serves with the settings of the environment. -/
def main (arguments : List String) : IO UInt32 := do
  if CommandLine.asksVersion arguments then
    IO.print CommandLine.versionLine
    return 0
  let environment ← Settings.variableNames.filterMapM fun name => do
    return (← IO.getEnv name).map fun value => (name, value)
  match Settings.ofEnvironment environment with
  | .error e => CommandLine.giveUp e
  | .ok settings => CommandLine.serveStreams settings
