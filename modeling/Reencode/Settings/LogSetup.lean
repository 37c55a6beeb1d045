import Reencode.Log
import Reencode.Settings.Basic

/-!
# Log set-up

The log has a level and the handlers that records go to: the console always, a rotating file if
the settings ask for one. Setting it up again changes the level and adds only handlers that are
missing. A level nobody knows is refused before anything is changed.
-/
namespace Reencode

/-- Where records go. -/
inductive LogHandler where
  | console
  | rotatingFile
deriving DecidableEq

/-- The name of a handler's kind. -/
def LogHandler.kind : LogHandler → String
  | console => "StreamHandler"
  | rotatingFile => "RotatingFileHandler"

/-- The state of the log: the least urgent level that is let through, and the handlers in the order
they were added. -/
structure LogSetup where
  level : LogLevel
  handlers : List LogHandler
deriving DecidableEq

namespace LogSetup

/-- The name of the program's log. -/
def logName : String := "py_image_recompress_mcp"

/-- Nothing set up yet. -/
def initial : LogSetup := ⟨.notSet, []⟩

/-- Adds a handler unless it is there. -/
def withHandler (s : LogSetup) (h : LogHandler) : LogSetup :=
  if h ∈ s.handlers then s else { s with handlers := s.handlers ++ [h] }

/-- Sets the log up. -/
def configure (settings : Settings) (s : LogSetup) : Except Failure LogSetup :=
  match LogLevel.ofName? settings.logLevel with
  | none => .error (.value ("Unknown level: " ++ Text.quoted settings.logLevel))
  | some level =>
    let s := { s with level }.withHandler .console
    .ok (if settings.fileLogging then s.withHandler .rotatingFile else s)

/-- The files the handlers write. -/
def files (s : LogSetup) : List String :=
  if .rotatingFile ∈ s.handlers then [Settings.logFile] else []

/-- Whether a record is let through; a log without a level lets warnings and worse through. -/
def admits (s : LogSetup) (r : LogRecord) : Bool :=
  let least := if s.level = .notSet then LogLevel.warning else s.level
  decide (least.rank ≤ r.level.rank)

/-- The log as a record: its name and level, and the handlers with what they write. -/
def toValue (s : LogSetup) : Value := .record [
  ("name", .text logName), ("level", .text s.level.name),
  ("handlers", .list (s.handlers.map fun h => .text h.kind)),
  ("formats", .list (s.handlers.map fun _ => .text Settings.logFormat)),
  ("files", .list (s.files.map .text))]

end LogSetup
end Reencode
