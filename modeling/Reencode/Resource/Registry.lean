import Reencode.Log
import Reencode.Resource.Locator
import Reencode.Value.Basic

/-!
# Registry of locators

The registry knows the bytes of every live locator. A locator is created once, revoked at most
once, and never comes back, because its number is never given out again. Revoking one that is not
live does nothing but is remembered, so that it can be reported.
-/
namespace Reencode

/-- Live locators with their bytes, oldest first, how many were created and revoked, and those that
were to be revoked but were not live, in order. -/
structure Registry where
  live : List (Locator × ByteArray)
  created : Nat
  revoked : Nat
  missed : List Locator

namespace Registry

/-- Nothing was created yet. -/
def empty : Registry := ⟨[], 0, 0, []⟩

/-- The bytes of a live locator. -/
def resolve (r : Registry) (l : Locator) : Option ByteArray := r.live.lookup l

/-- Whether a locator is live. -/
def isLive (r : Registry) (l : Locator) : Bool := (r.resolve l).isSome

/-- The number of live locators. -/
def liveCount (r : Registry) : Nat := r.live.length

/-- The locator created next. -/
def next (r : Registry) : Locator := Locator.nth (r.created + 1)

/-- Creates a locator for bytes. -/
def create (r : Registry) (data : ByteArray) : Locator × Registry :=
  (r.next, { r with live := r.live ++ [(r.next, data)], created := r.created + 1 })

/-- Revokes a locator, and says whether there was one to revoke. -/
def revoke (r : Registry) (l : Locator) : Bool × Registry :=
  if r.isLive l then
    (true, { r with live := r.live.filter fun (other, _) => other ≠ l, revoked := r.revoked + 1 })
  else (false, { r with missed := r.missed ++ [l] })

/-- The record of a locator that was not live. -/
def missRecord (l : Locator) : LogRecord := ⟨.warning, "撤销未知或已撤销的定位符: " ++ l.text⟩

/-- The records of what was missed since an earlier state. -/
def recordsSince (before after : Registry) : List LogRecord :=
  (after.missed.drop before.missed.length).map missRecord

/-- The counts of a registry, by names. -/
def fields (r : Registry) : List (String × Value) :=
  [("live", .int r.liveCount), ("created", .int r.created), ("revoked", .int r.revoked)]

end Registry
end Reencode
