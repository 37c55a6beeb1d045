import Reencode.Fault

/-!
# Events

What happens to a collection is told to its observers, one event after the other, in the order in
which it happens.
-/
namespace Reencode

/-- What happened. -/
inductive EventKind where
  | added
  | removed
  | cleared
  | selected
  | paramsChanged
  | outputUpdated
  | fault
deriving DecidableEq

/-- The word for what happened. -/
def EventKind.name : EventKind → String
  | added => "added"
  | removed => "removed"
  | cleared => "cleared"
  | selected => "selected"
  | paramsChanged => "params_changed"
  | outputUpdated => "output_updated"
  | fault => "fault"

/-- Something that happened, with the entry it happened to and the fault if a job failed. -/
structure Event where
  kind : EventKind
  entry : Option EntryId
  fault : Option Fault
deriving DecidableEq

namespace Event

/-- Something that happened to an entry. -/
def about (kind : EventKind) (id : EntryId) : Event := ⟨kind, some id, none⟩

/-- All entries were removed. -/
def cleared : Event := ⟨.cleared, none, none⟩

/-- Another entry, or none, was selected. -/
def selection (id : Option EntryId) : Event := ⟨.selected, id, none⟩

/-- A job of an entry failed. -/
def failed (id : EntryId) (fault : Fault) : Event := ⟨.fault, some id, some fault⟩

end Event

/-- The name of an observer. Registering a name twice registers the same observer twice. -/
structure ObserverTag where
  text : String
deriving DecidableEq

end Reencode
