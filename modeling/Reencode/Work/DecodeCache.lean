import Reencode.Codec.Basic

/-!
# Cache of decoded sources

The bytes of an entry never change, so its surface is kept for the next job. Looking up, decoding
and committing are separate steps: other jobs may run between them. Of two surfaces for one entry
the first committed wins. Once an entry is invalidated it counts as retired, and no late job may
put its surface back, until it is known that no job of it is left.

A decoding may come to no surface; that is committed too, but never found by looking up.
-/
namespace Reencode

/-- Surfaces by entry, oldest first, the entries whose surfaces must not be committed, and how many
decodings were committed. -/
structure DecodeCache (S : Type) where
  surfaces : List (EntryId × Option S)
  retired : List EntryId
  decodes : Nat

namespace DecodeCache

variable {S : Type}

/-- Nothing was decoded yet. -/
def empty : DecodeCache S := ⟨[], [], 0⟩

/-- Whether something was committed for an entry. -/
def contains (c : DecodeCache S) (id : EntryId) : Bool := (c.surfaces.lookup id).isSome

/-- Whether an entry is retired. -/
def isRetired (c : DecodeCache S) (id : EntryId) : Bool := decide (id ∈ c.retired)

/-- The number of entries with something committed. -/
def size (c : DecodeCache S) : Nat := c.surfaces.length

/-- The number of retired entries. -/
def retiredCount (c : DecodeCache S) : Nat := c.retired.length

/-- The surface of an entry. -/
def lookup (c : DecodeCache S) (id : EntryId) : Option S := (c.surfaces.lookup id).join

/-- Counts a decoding and keeps what it came to, unless the entry is retired or has been committed
before. Gives what the caller shall use. -/
def commit (c : DecodeCache S) (id : EntryId) (surface : Option S) :
    Option S × DecodeCache S :=
  let c := { c with decodes := c.decodes + 1 }
  -- Retirement keeps the surface out of the cache, but not from the caller.
  if c.isRetired id then (surface, c)
  else
    match c.surfaces.lookup id with
    | some first => (first, c)
    | none => (surface, { c with surfaces := c.surfaces ++ [(id, surface)] })

/-- Forgets an entry's surface and retires the entry. -/
def invalidate (c : DecodeCache S) (id : EntryId) : DecodeCache S :=
  { c with
    surfaces := c.surfaces.filter fun (other, _) => other ≠ id
    retired := if id ∈ c.retired then c.retired else c.retired ++ [id] }

/-- Ends an entry's retirement. -/
def releaseRetired (c : DecodeCache S) (id : EntryId) : DecodeCache S :=
  { c with retired := c.retired.filter (· ≠ id) }

/-- A surface for an entry: the one kept, or what decoding comes to. -/
def getOrDecode (codec : Codec S) (c : DecodeCache S) (id : EntryId) (data : ByteArray) :
    Attempt (Option S × DecodeCache S) :=
  match c.lookup id with
  | some surface => .ok (some surface, c)
  | none => (codec.decode data).andThen fun surface => .ok (c.commit id surface)

/-- The counts of a cache, by names. -/
def fields (c : DecodeCache S) : List (String × Value) :=
  [("size", .int c.size), ("retired", .int c.retiredCount), ("decodes", .int c.decodes)]

end DecodeCache
end Reencode
