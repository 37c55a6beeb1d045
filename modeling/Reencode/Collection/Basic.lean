import Reencode.Collection.Event
import Reencode.Entry.Basic
import Reencode.View.Basic
import Reencode.Work.Scheduler

/-!
# Collections

A collection holds imported images in the order they were imported, one of them selected, the
format that new ones get, the scheduler that re-encodes them, and what the preview shows. An entry
that was removed is no longer part of the collection, but is kept on the shelf, because a step that
was under way when it was removed may still have to do with it.
-/
namespace Reencode

/-- Imported images and what goes on with them. The shelf has every entry ever imported, oldest
first; `ids` are those of the entries that are still there, in the order they were imported. -/
structure Collection (S : Type) where
  scheduler : Scheduler S
  registry : Registry
  shelf : List Entry
  ids : List EntryId
  selected : Option EntryId
  globalFormat : Format
  preview : Preview
  observers : List ObserverTag

namespace Collection

variable {S : Type}

/-- A collection of nothing. -/
def empty (scheduler : Scheduler S) (globalFormat : Format) : Collection S where
  scheduler := scheduler
  registry := .empty
  shelf := []
  ids := []
  selected := none
  globalFormat := globalFormat
  preview := .initial
  observers := []

/-- Builds a collection from settings. A number of workers or a format that is not given, is zero or
is empty is taken from the settings. -/
def create (settings : Settings) (workers : Option Int) (format : Value) (pace : Pace) :
    Except Failure (Collection S) := do
  let workers := match workers with
    | none | some 0 => settings.workers
    | some n => n
  let scheduler ← Scheduler.create workers pace .empty
  let format := match format with
    | .null | .text "" => .text settings.format
    | v => v
  match Format.read format with
  | .ok f => return empty scheduler f
  | .error e => throw (.value e.message)

/-! ## Entries -/

/-- An entry of any time. -/
def find? (c : Collection S) (id : EntryId) : Option Entry := c.shelf.find? (·.id = id)

/-- Whether an entry is part of the collection. -/
def contains (c : Collection S) (id : EntryId) : Bool := decide (id ∈ c.ids)

/-- An entry of the collection. -/
def get? (c : Collection S) (id : EntryId) : Option Entry :=
  if c.contains id then c.find? id else none

/-- The entries of the collection in order. -/
def entries (c : Collection S) : List Entry := c.ids.filterMap c.find?

/-- The number of entries. -/
def size (c : Collection S) : Nat := c.ids.length

/-- The oldest entry of a name. -/
def findByName (c : Collection S) (name : String) : Option Entry := c.entries.find? (·.name = name)

/-- The selected entry. -/
def selectedEntry (c : Collection S) : Option Entry := c.selected.bind c.get?

/-- The id of the entry imported next. -/
def nextId (c : Collection S) : EntryId := EntryId.nth (c.shelf.length + 1)

/-- Puts a changed entry in the place of the one with its id. -/
def setEntry (c : Collection S) (e : Entry) : Collection S :=
  { c with shelf := c.shelf.map fun other => if other.id = e.id then e else other }

/-- Adds a new entry. -/
def insert (c : Collection S) (name : String) (data : ByteArray) (params : Params) :
    Entry × Collection S :=
  let (e, registry) := Entry.create c.nextId name data params true c.registry
  (e, { c with registry, shelf := c.shelf ++ [e], ids := c.ids ++ [e.id] })

/-- Releases an entry's bytes and drops what the scheduler keeps for it. -/
def destroy (c : Collection S) (e : Entry) : Collection S :=
  let (e, registry) := e.destroy c.registry
  { c.setEntry e with registry, scheduler := c.scheduler.forget e.id }

/-- Destroys entries one after the other. -/
def destroyAll (c : Collection S) : List EntryId → Collection S
  | [] => c
  | id :: rest =>
    match c.find? id with
    | some e => (c.destroy e).destroyAll rest
    | none => c.destroyAll rest

/-- Takes an entry out of the collection. -/
def drop (c : Collection S) (id : EntryId) : Collection S :=
  { c with ids := c.ids.filter (· ≠ id) }

/-- Selects an entry, or none; the preview starts afresh. -/
def choose (c : Collection S) (id : Option EntryId) : Collection S :=
  { c with selected := id, preview := c.preview.onSelection }

/-! ## Observers -/

/-- Registers an observer. -/
def subscribe (c : Collection S) (tag : ObserverTag) : Collection S :=
  { c with observers := c.observers ++ [tag] }

/-- Cancels the oldest registration of an observer, if it has one. -/
def unsubscribe (c : Collection S) (tag : ObserverTag) : Collection S :=
  { c with observers := c.observers.erase tag }

/-! ## Snapshots -/

/-- The collection at this moment. -/
def snapshot (c : Collection S) : CollectionSnapshot where
  entries := c.entries.map fun e => e.snapshot (decide (some e.id = c.selected))
  selected := c.selected
  globalFormat := c.globalFormat.name

end Collection
end Reencode
