import Reencode.Failure
import Reencode.Resource.Registry

/-!
# Handles

A handle holds bytes and, if they are listed in a registry, the locator they are listed under.
Replacing the bytes lists the new ones under a new locator before the old one is revoked. A
released handle holds nothing, and nothing can be read from it or put into it again.
-/
namespace Reencode

/-- Bytes with or without a locator, or what is left after release. -/
inductive Handle where
  | held (data : ByteArray) (locator : Option Locator)
  | released

namespace Handle

/-- A handle whose bytes are listed in no registry. -/
def unlisted (data : ByteArray) : Handle := held data none

/-- A handle whose bytes are listed in a registry. -/
def listed (r : Registry) (data : ByteArray) : Handle × Registry :=
  (held data (some r.next), (r.create data).2)

/-- A handle, listed or not. -/
def make (isListed : Bool) (r : Registry) (data : ByteArray) : Handle × Registry :=
  if isListed then listed r data else (unlisted data, r)

/-- Whether the handle was released. -/
def isReleased : Handle → Bool
  | held .. => false
  | released => true

/-- The locator of the bytes. -/
def locator? : Handle → Option Locator
  | held _ l => l
  | released => none

/-- The number of bytes held. -/
def size : Handle → Nat
  | held data _ => data.size
  | released => 0

/-- The bytes and their locator. -/
def snapshot : Handle → Except Failure (ByteArray × Option Locator)
  | held data l => .ok (data, l)
  | released => .error (.own .released "资源已释放，无法读取" none)

/-- The bytes. -/
def read (h : Handle) : Except Failure ByteArray := h.snapshot.map (·.1)

/-- Puts other bytes in the place of those held. -/
def replace (r : Registry) (data : ByteArray) : Handle → Except Failure (Handle × Registry)
  | held _ none => .ok (held data none, r)
  | held _ (some old) =>
    let (new, r) := r.create data
    .ok (held data (some new), (r.revoke old).2)
  | released => .error (.own .released "资源已释放，无法替换" none)

/-- The registry after the handle gives up its bytes; the handle is `released` from then on. -/
def release (r : Registry) : Handle → Registry
  | held _ (some l) => (r.revoke l).2
  | _ => r

/-- The handle as text. -/
def describe (h : Handle) : String :=
  let state := match h with
    | held data _ => toString data.size ++ " bytes"
    | released => "released"
  let locator := match h.locator? with
    | some l => Text.quoted l.text
    | none => "None"
  "ResourceHandle(" ++ state ++ ", locator=" ++ locator ++ ")"

end Handle
end Reencode
