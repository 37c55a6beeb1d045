/-!
# Prefix codes

A canonical prefix code is given by how many codewords there are of each length, and by the symbols
in the order of their codewords: shorter ones first, and numbers counting up within a length. The
first codeword of a length is twice the number after the last one of the length before.
-/
namespace Reencode

/-- A canonical prefix code: how many codewords there are of the lengths 1, 2 and so on, and the
symbols in the order of their codewords. -/
structure PrefixCode where
  counts : List Nat
  symbols : Array Nat
deriving Inhabited

namespace PrefixCode

/-- The longest codeword of a code for packed data. -/
def longest : Nat := 15

/-- The code in which symbol `i` has a codeword of the length at place `i`, none if that is zero. -/
def ofLengths (lengths : List Nat) : PrefixCode where
  counts := ((List.range longest).map fun k => lengths.count (k + 1)).reverse.dropWhile (· == 0)
    |>.reverse
  symbols := ((List.range longest).flatMap fun k =>
    lengths.zipIdx.filterMap fun (l, i) => if l = k + 1 then some i else none).toArray

/-- How much of the room for codewords is left after the lengths; nothing if there are too many. -/
def room? (counts : List Nat) : Option Nat :=
  counts.foldl (fun left n => left.bind fun l => if n ≤ 2 * l then some (2 * l - n) else none)
    (some 1)

/-- Whether every sequence of bits starts with a codeword, and with one only. -/
def isComplete (c : PrefixCode) : Bool := room? c.counts == some 0

/-- Whether there is a single codeword, of one bit. -/
def isSingle (c : PrefixCode) : Bool := c.counts == [1]

/-- Whether there is no codeword. -/
def isEmpty (c : PrefixCode) : Bool := c.counts.isEmpty

/-- Reads bits until they are a codeword and gives its symbol; gives none when they are longer than
every codeword. The numbers are the bits so far, the first codeword of their length and the number
of shorter codewords. -/
@[specialize]
def walk {m : Type → Type} [Monad m] (bit : m Nat) (symbols : Array Nat) :
    List Nat → Nat → Nat → Nat → m (Option Nat)
  | [], _, _, _ => pure none
  | n :: longer, code, first, shorter => do
    let code := 2 * code + (← bit)
    if code < first + n then return symbols[shorter + (code - first)]?
    else walk bit symbols longer code (2 * (first + n)) (shorter + n)

/-- Reads the bits of one symbol. -/
@[inline]
def decode {m : Type → Type} [Monad m] (c : PrefixCode) (bit : m Nat) : m (Option Nat) :=
  walk bit c.symbols (if c.counts.isEmpty then [0] else c.counts) 0 0 0

/-- The codeword of every symbol, with its length: pairs of symbol, length and codeword. -/
def codewords (c : PrefixCode) : List (Nat × Nat × Nat) :=
  (c.counts.zipIdx.foldl (fun (acc : List (Nat × Nat × Nat) × Nat × Nat) (n, k) =>
    let (found, first, shorter) := acc
    (found ++ (List.range n).map fun i => (c.symbols.getD (shorter + i) 0, k + 1, first + i),
      2 * (first + n), shorter + n)) ([], 0, 0)).1

end PrefixCode
end Reencode
