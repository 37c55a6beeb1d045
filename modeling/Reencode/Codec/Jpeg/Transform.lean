import Reencode.Number.Power
import Reencode.Picture.Colour

/-!
# Frequencies of blocks

A block of eight times eight samples and its frequencies. Back from frequencies the transform is the
integer one that readers agree on, with thirteen fraction bits and two passes, so that every reader
gets the same samples. Forth to frequencies there is nothing to agree on, and the transform is the
plain sum of products.
-/
namespace Reencode.Jpeg

/-- A number divided by a power of two, rounded to the nearest. -/
def descale (n : Int) (bits : Nat) : Int := (n + twoTo (bits - 1)) / twoTo bits

/-- One pass back from eight frequencies to eight sums, divided by a power of two. -/
def inversePass (f : Nat → Int) (bits : Nat) : Array Int :=
  let evenShared := (f 2 + f 6) * 4433
  let even2 := evenShared - f 6 * 15137
  let even3 := evenShared + f 2 * 6270
  let even0 := (f 0 + f 4) * 8192
  let even1 := (f 0 - f 4) * 8192
  let shared := (f 7 + f 3 + f 5 + f 1) * 9633
  let a := -(f 7 + f 1) * 7373
  let b := -(f 5 + f 3) * 20995
  let c := shared - (f 7 + f 3) * 16069
  let d := shared - (f 5 + f 1) * 3196
  let odd0 := f 7 * 2446 + a + c
  let odd1 := f 5 * 16819 + b + d
  let odd2 := f 3 * 25172 + b + c
  let odd3 := f 1 * 12299 + a + d
  #[descale (even0 + even3 + odd3) bits, descale (even1 + even2 + odd2) bits,
    descale (even1 - even2 + odd1) bits, descale (even0 - even3 + odd0) bits,
    descale (even0 - even3 - odd0) bits, descale (even1 - even2 - odd1) bits,
    descale (even1 + even2 - odd2) bits, descale (even0 + even3 - odd3) bits]

/-- The samples of a block of frequencies, row by row. -/
def inverse (frequencies : Array Int) : Array UInt8 :=
  let columns := (Array.range 8).map fun c =>
    inversePass (fun k => frequencies.getD (8 * k + c) 0) 11
  (Array.range 8).flatMap fun r =>
    (inversePass (fun k => (columns.getD k #[]).getD r 0) 18).map fun n => clipByte (n + 128)

/-- The cosine of so many sixteenths of a half turn, in 4096ths. -/
def cosine (sixteenths : Nat) : Int :=
  let k := sixteenths % 32
  let k := if 16 < k then 32 - k else k
  let quarter := #[4096, 4017, 3784, 3406, 2896, 2276, 1567, 799, 0]
  if k ≤ 8 then quarter.getD k 0 else -(quarter.getD (16 - k) 0)

/-- The weight of a sample in a frequency, in 4096ths. -/
def weight (frequency sample : Nat) : Int :=
  if frequency = 0 then 2896 else cosine ((2 * sample + 1) * frequency)

/-- The frequencies of a block of samples, row by row, in units of `2 ^ -26`. -/
def forward (samples : Array Int) : Array Int :=
  let rows := (Array.range 64).map fun i =>
    (List.range 8).foldl
      (fun (n : Int) x => n + samples.getD (i / 8 * 8 + x) 0 * weight (i % 8) x) 0
  (Array.range 64).map fun i =>
    (List.range 8).foldl (fun (n : Int) y => n + rows.getD (8 * y + i % 8) 0 * weight (i / 8) y) 0

/-- A frequency in steps of a size, rounded to the nearest. -/
def inSteps (frequency : Int) (step : Nat) : Int :=
  let unit : Int := twoTo 26 * step
  (2 * frequency + unit) / (2 * unit)

end Reencode.Jpeg
