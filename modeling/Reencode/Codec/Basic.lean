import Reencode.Fault

/-!
# Codecs

A codec turns bytes into a surface and a surface into bytes of a format. What a surface is, is the
codec's affair. The library trusts a codec with nothing: it may fail in any way, decode to no
surface at all, and encode to something that is not bytes.
-/
namespace Reencode

/-- The result of asking a codec: what it logged, and a value or a failure. -/
structure Attempt (α : Type) where
  records : List LogRecord
  result : Except Failure α

namespace Attempt

variable {α β : Type}

/-- Success without a word. -/
def ok (value : α) : Attempt α := ⟨[], .ok value⟩

/-- Failure without a word. -/
def fail (failure : Failure) : Attempt α := ⟨[], .error failure⟩

/-- One attempt after another. -/
def andThen (a : Attempt α) (next : α → Attempt β) : Attempt β :=
  match a.result with
  | .error e => ⟨a.records, .error e⟩
  | .ok value => ⟨a.records ++ (next value).records, (next value).result⟩

end Attempt

/-- What encoding may come to: bytes, a text, which counts as its UTF-8 bytes, nothing, or something
that is no bytes. -/
inductive Product where
  | bytes (data : ByteArray)
  | text (s : String)
  | nothing
  | other

/-- Decoding bytes into a surface, if any, and encoding a surface for a format and a quality. -/
structure Codec (S : Type) where
  decode : ByteArray → Attempt (Option S)
  encode : Option S → Format → Int → Attempt Product

/-- What a codec was asked to do: how often to decode, and the formats and qualities it encoded for
with success, oldest first. -/
structure Usage where
  decodes : Nat
  encodes : List (Format × Int)
deriving DecidableEq

namespace Usage

/-- Nothing was asked. -/
def none : Usage := ⟨0, []⟩

/-- What was asked first and what was asked then. -/
def append (u v : Usage) : Usage := ⟨u.decodes + v.decodes, u.encodes ++ v.encodes⟩

end Usage
end Reencode
