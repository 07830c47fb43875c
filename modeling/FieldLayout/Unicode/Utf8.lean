import FieldLayout.Pattern.CharRanges

/-!
# Sets of characters in UTF-8

The encodings of the characters of a set are listed as sequences of ranges of bytes, in ascending
order. A sequence stands for all combinations of one byte from each of its ranges.

## Main definitions

* `Unicode.byteSequences`: the sequences of a set.
* `Unicode.fork`: sequences grouped by their first range.
-/

namespace FieldLayout.Unicode

/-- The bytes from one end to the other. -/
structure ByteRange where
  /-- The first byte. -/
  lo : Nat
  /-- The last byte. -/
  hi : Nat
  deriving DecidableEq, Repr, Inhabited

/-- A sequence of ranges of bytes. -/
abbrev ByteSequence : Type := List ByteRange

/-- The code points that are encoded alike: `further` bytes with six bits each follow a first byte
that holds the other bits on top of a mark. -/
structure Utf8Block where
  /-- The code points of the block. -/
  codes : CharRange
  /-- The mark of the first byte. -/
  mark : Nat
  /-- The number of bytes behind the first one. -/
  further : Nat
  deriving Repr, Inhabited

/-- The blocks, in ascending order. The surrogates between the third and the fourth have no
encoding. -/
def utf8Blocks : List Utf8Block :=
  [⟨⟨0x0, 0x7F⟩, 0x00, 0⟩, ⟨⟨0x80, 0x7FF⟩, 0xC0, 1⟩, ⟨⟨0x800, 0xD7FF⟩, 0xE0, 2⟩,
    ⟨⟨0xE000, 0xFFFF⟩, 0xE0, 2⟩, ⟨⟨0x10000, 0x10FFFF⟩, 0xF0, 3⟩]

/-- The range of all bytes behind a first byte. -/
def anyFurther : ByteRange := ⟨0x80, 0xBF⟩

/-- The sequences of the values between two ends, written as a first byte with a mark and a number
of further bytes. Where the first byte is not the same at both ends, the values with the lowest and
with the highest first byte are split off unless all combinations of further bytes occur with them.
-/
def sequencesBetween (mark : Nat) : Nat → Nat → Nat → List ByteSequence
  | 0, lo, hi => [[⟨mark + lo, mark + hi⟩]]
  | further + 1, lo, hi =>
    let unit := 64 ^ (further + 1)
    let first := lo / unit
    let last := hi / unit
    let under (lead low high : Nat) : List ByteSequence :=
      (sequencesBetween 0x80 further low high).map (⟨mark + lead, mark + lead⟩ :: ·)
    if first = last then under first (lo % unit) (hi % unit)
    else
      let lowCut := lo % unit ≠ 0
      let highCut := hi % unit ≠ unit - 1
      let start := if lowCut then first + 1 else first
      let stop := if highCut then last else last + 1
      (if lowCut then under first (lo % unit) (unit - 1) else []) ++
        (if start < stop then
          [⟨mark + start, mark + (stop - 1)⟩ :: List.replicate (further + 1) anyFurther]
        else []) ++
        (if highCut then under last 0 (hi % unit) else [])

/-- The sequences of a range of code points. -/
def rangeSequences (r : CharRange) : List ByteSequence :=
  utf8Blocks.flatMap fun b =>
    let lo := max r.lo b.codes.lo
    let hi := min r.hi b.codes.hi
    if lo ≤ hi then sequencesBetween b.mark b.further lo hi else []

/-- The sequences of a set. -/
def byteSequences (s : CharRanges) : List ByteSequence := s.ranges.flatMap rangeSequences

/-- Sequences in ascending order, grouped by their first range. -/
def fork (ss : List ByteSequence) : List (List ByteSequence) :=
  ss.splitBy fun a b => a.head? == b.head?

/-- The greatest length of an encoding. -/
def maxLength : Nat := 4

end FieldLayout.Unicode
