import Reencode.Failure

/-!
# Settings

Defaults of the program and what the environment may change of them. An empty variable counts as
unset. Variables are looked at in a fixed order and the first one that makes no sense decides what
is reported.
-/
namespace Reencode

/-- What can be set from outside. The names of the format and of the log level are unchecked; the
timeout is in seconds, and an archive that is written into a directory gets the archive name. -/
structure Settings where
  quality : Int
  format : String
  workers : Int
  settleTimeout : Binary64
  archiveName : String
  logLevel : String
  fileLogging : Bool
deriving DecidableEq

namespace Settings

/-- The settings of an empty environment. -/
def default : Settings where
  quality := 75
  format := "JPEG"
  workers := 4
  settleTimeout := Binary64.ofInt 30
  archiveName := "images.zip"
  logLevel := "INFO"
  fileLogging := false

/-! ## What cannot be changed -/

/-- The smallest zoom. -/
def minScale : Binary64 := Binary64.quotient 1 10

/-- The largest zoom. -/
def maxScale : Binary64 := Binary64.ofInt 10

/-- The factor of a turn of the wheel that enlarges. -/
def wheelIn : Binary64 := Binary64.quotient 11 10

/-- The factor of a turn of the wheel that shrinks. -/
def wheelOut : Binary64 := Binary64.quotient 9 10

/-- How hard archives are compressed. -/
def compressionLevel : Int := 6

/-- The layout of a log line. -/
def logFormat : String := "%(asctime)s - %(name)s - %(levelname)s - %(message)s"

/-- The name of the log file. -/
def logFile : String := "py_image_recompress.log"

/-- The size at which a new log file is begun. -/
def logFileSize : Nat := 10 * 1024 * 1024

/-- How many old log files are kept. -/
def logFileCount : Nat := 5

/-! ## The environment -/

/-- Words that switch something on. -/
def switchWords : List String := ["true", "1", "yes"]

/-- Reads an integer. -/
def readInt (s : String) : Except Failure Int := (readInteger s).mapError fun e => .value e.message

/-- Reads a double. -/
def readReal (s : String) : Except Failure Binary64 :=
  match Binary64.ofText? s with
  | some x => .ok x
  | none => .error (.value ("could not convert string to float: " ++ Text.quoted s))

/-- Reads a variable, keeping the default when it is unset or empty. -/
def readVariable {α : Type} (environment : List (String × String)) (name : String) (default : α)
    (read : String → Except Failure α) : Except Failure α :=
  match environment.lookup name with
  | none | some "" => .ok default
  | some s => read s

/-- The variables that are looked at. -/
def variableNames : List String := [
  "PIR_DEFAULT_QUALITY", "PIR_DEFAULT_FORMAT", "PIR_MAX_WORKERS", "PIR_SETTLE_TIMEOUT",
  "PIR_ARCHIVE_NAME", "PIR_LOG_LEVEL", "PIR_ENABLE_FILE_LOGGING"]

/-- The settings of an environment. -/
def ofEnvironment (environment : List (String × String)) : Except Failure Settings := do
  let base := Settings.default
  let quality ← readVariable environment "PIR_DEFAULT_QUALITY" base.quality readInt
  let format ← readVariable environment "PIR_DEFAULT_FORMAT" base.format (.ok ∘ Text.upper)
  let workers ← readVariable environment "PIR_MAX_WORKERS" base.workers readInt
  let settleTimeout ← readVariable environment "PIR_SETTLE_TIMEOUT" base.settleTimeout readReal
  let archiveName ← readVariable environment "PIR_ARCHIVE_NAME" base.archiveName .ok
  let logLevel ← readVariable environment "PIR_LOG_LEVEL" base.logLevel (.ok ∘ Text.upper)
  let fileLogging ← readVariable environment "PIR_ENABLE_FILE_LOGGING" base.fileLogging
    fun s => .ok (decide (Text.lower s ∈ switchWords))
  return ⟨quality, format, workers, settleTimeout, archiveName, logLevel, fileLogging⟩

/-- The settings by group and name. -/
def toValue (s : Settings) : Value := .record [
  ("recompress", .record [
    ("DEFAULT_QUALITY", .int s.quality), ("DEFAULT_FORMAT", .text s.format),
    ("MAX_WORKERS", .int s.workers), ("SETTLE_TIMEOUT", .real s.settleTimeout)]),
  ("view", .record [
    ("MIN_SCALE", .real minScale), ("MAX_SCALE", .real maxScale),
    ("WHEEL_ZOOM_IN", .real wheelIn), ("WHEEL_ZOOM_OUT", .real wheelOut)]),
  ("export", .record [
    ("ARCHIVE_NAME", .text s.archiveName), ("COMPRESSION_LEVEL", .int compressionLevel)]),
  ("logging", .record [
    ("LOG_LEVEL", .text s.logLevel), ("LOG_FORMAT", .text logFormat),
    ("ENABLE_FILE_LOGGING", .bool s.fileLogging), ("LOG_FILE_PATH", .text logFile),
    ("LOG_FILE_MAX_SIZE", .int logFileSize), ("LOG_FILE_BACKUP_COUNT", .int logFileCount)])]

end Settings
end Reencode
