import Reencode.Collection.Basic
import Reencode.Files.Tree

/-!
# Sessions

A session is a collection with what it lives in: settings, files, a journal of log records, and
whatever the observers remember. An act is a step of a session; an act that fails leaves behind what
it had done before.

What observers do when they are told of an event is given from outside, and may be any act: an
observer may read the session, change it and fail. A failing observer is reported in the journal and
keeps nobody else from being told.
-/
namespace Reencode

/-- A collection and what it lives in: the settings it was made with, what was logged, oldest first,
and what the observers remember. -/
structure Session (S O : Type) where
  collection : Collection S
  settings : Settings
  files : FileTree
  journal : List LogRecord
  memory : O

/-- A step of a session. -/
abbrev Act (S O α : Type) : Type := ExceptT Failure (StateM (Session S O)) α

/-- What acts rely on: what an observer does when it is told of an event, how many outcomes that
arrive while others are taken over are taken over as well, before the rest is left for the next
time, and how a quality is read that is a text but no row of digits. -/
structure Surroundings (S O : Type) where
  codec : Codec S
  react : ObserverTag → Event → Act S O Unit
  patience : Nat
  reader : IntegerReader := lenientInteger

namespace Session

variable {S O α : Type}

/-- The collection at this moment. -/
def collection? : Act S O (Collection S) := do return (← get).collection

/-- Changes the collection. -/
def change (f : Collection S → Collection S) : Act S O Unit :=
  modify fun s => { s with collection := f s.collection }

/-- Adds records to the journal. -/
def logAll (records : List LogRecord) : Act S O Unit :=
  modify fun s => { s with journal := s.journal ++ records }

/-- Adds a record to the journal. -/
def log (level : LogLevel) (text : String) : Act S O Unit := logAll [⟨level, text⟩]

/-- The value of a result, or its failure. -/
def lift : Except Failure α → Act S O α
  | .ok value => pure value
  | .error failure => throw failure

/-- Tells one observer of an event. -/
def notify (w : Surroundings S O) (event : Event) (tag : ObserverTag) : Act S O Unit :=
  tryCatch (w.react tag event) fun _ =>
    log .error (Message.operationFailed "通知观察者" event.kind.name none)

/-- Tells observers of an event, one after the other. -/
def notifyAll (w : Surroundings S O) (event : Event) : List ObserverTag → Act S O Unit
  | [] => pure ()
  | tag :: rest => do
    notify w event tag
    notifyAll w event rest

/-- Tells the observers registered at this moment of an event. -/
def emit (w : Surroundings S O) (event : Event) : Act S O Unit := do
  notifyAll w event (← collection?).observers

end Session
end Reencode
