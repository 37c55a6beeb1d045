/-!
# Log records

A record has a level and a text. Operations return the records they make; a program decides what
becomes of them.
-/
namespace Reencode

/-- How urgent a record is. -/
inductive LogLevel where
  | notSet
  | debug
  | info
  | warning
  | error
  | critical
deriving DecidableEq

namespace LogLevel

/-- The name of a level. -/
def name : LogLevel → String
  | notSet => "NOTSET"
  | debug => "DEBUG"
  | info => "INFO"
  | warning => "WARNING"
  | error => "ERROR"
  | critical => "CRITICAL"

/-- The position of a level among the others. -/
def rank : LogLevel → Nat
  | notSet => 0
  | debug => 1
  | info => 2
  | warning => 3
  | error => 4
  | critical => 5

/-- The words that name a level; two levels have a second one. -/
def words : List (String × LogLevel) := [
  ("CRITICAL", critical), ("FATAL", critical), ("ERROR", error), ("WARN", warning),
  ("WARNING", warning), ("INFO", info), ("DEBUG", debug), ("NOTSET", notSet)]

/-- The level a word names, in upper case only. -/
def ofName? (word : String) : Option LogLevel := words.lookup word

end LogLevel

/-- A line of the log. -/
structure LogRecord where
  level : LogLevel
  text : String
deriving DecidableEq

end Reencode
