/-!
# Sets of characters

A set of characters is given by ranges of code points, in ascending order and with gaps between
them. The code points of surrogates are no characters. A range may run across them, but the
character behind the last one before them is the first one after them.

## Main definitions

* `CharRange`, `CharRanges`: ranges and sets.
* `CharRanges.contains`: membership.
* `CharRanges.union`, `CharRanges.inter`, `CharRanges.diff`, `CharRanges.symmDiff`,
  `CharRanges.complement`: the operations on sets.
-/

namespace FieldLayout

/-- The code points from one end to the other, both ends included. -/
structure CharRange where
  /-- The first code point. -/
  lo : Nat
  /-- The last code point. -/
  hi : Nat
  deriving DecidableEq, Repr, Inhabited

namespace CharRange

/-- Membership of a code point in a range. -/
def contains (r : CharRange) (code : Nat) : Bool := r.lo ≤ code && code ≤ r.hi

/-- The range of one code point. -/
def single (code : Nat) : CharRange := ⟨code, code⟩

/-- The range between two code points in either order. -/
def between (a b : Nat) : CharRange := ⟨min a b, max a b⟩

/-- The code point of the next character, behind the surrogates if they come next. -/
def succCode (code : Nat) : Nat := if code = 0xD7FF then 0xE000 else code + 1

/-- The code point of the character before, in front of the surrogates if they come before. -/
def predCode (code : Nat) : Nat := if code = 0xE000 then 0xD7FF else code - 1

/-- The part that two ranges have in common. -/
def inter? (r s : CharRange) : Option CharRange :=
  if max r.lo s.lo ≤ min r.hi s.hi then some ⟨max r.lo s.lo, min r.hi s.hi⟩ else none

/-- The parts of a range before and behind another one. -/
def diff (r s : CharRange) : List CharRange :=
  if r.hi < s.lo || s.hi < r.lo then [r]
  else
    (if r.lo < s.lo then [between r.lo (predCode s.lo)] else []) ++
      (if s.hi < r.hi then [between (succCode s.hi) r.hi] else [])

end CharRange

/-- A set of characters. -/
structure CharRanges where
  /-- The ranges, in ascending order. -/
  ranges : List CharRange
  deriving DecidableEq, Repr, Inhabited

namespace CharRanges

/-- The greatest code point. -/
def maxCode : Nat := 0x10FFFF

/-- Membership of a code point. -/
def containsCode (s : CharRanges) (code : Nat) : Bool := s.ranges.any (·.contains code)

/-- Membership of a character. -/
def contains (s : CharRanges) (c : Char) : Bool := s.containsCode c.toNat

/-- The empty set. -/
def empty : CharRanges := ⟨[]⟩

/-- The set of one character. -/
def single (c : Char) : CharRanges := ⟨[.single c.toNat]⟩

/-- The characters from one end to the other. -/
def between (lo hi : Char) : CharRanges := ⟨[⟨lo.toNat, hi.toNat⟩]⟩

/-- The set of all characters. -/
def all : CharRanges := ⟨[⟨0, maxCode⟩]⟩

/-! ## Union -/

/-- A range in front of ranges that start behind its start; those that touch it are joined with it.
-/
def absorb (r : CharRange) : List CharRange → List CharRange
  | [] => [r]
  | s :: rest =>
    if s.lo ≤ r.hi + 1 then absorb ⟨r.lo, max r.hi s.hi⟩ rest else r :: absorb s rest

/-- Ranges in ascending order of their starts, with those that touch each other joined. -/
def coalesce : List CharRange → List CharRange
  | [] => []
  | r :: rest => absorb r rest

/-- Ranges in ascending order of their starts, with one more range; `rest` puts further ranges,
which start behind it, between those behind it. -/
def mergeOne (r : CharRange) (rest : List CharRange → List CharRange) :
    List CharRange → List CharRange
  | [] => r :: rest []
  | t :: ts => if r.lo ≤ t.lo then r :: rest (t :: ts) else t :: mergeOne r rest ts

/-- Two lists of ranges in ascending order of their starts as one such list. -/
def merge : List CharRange → List CharRange → List CharRange
  | [] => fun ts => ts
  | r :: rs => mergeOne r (merge rs)

/-- The union of two sets. -/
def union (s t : CharRanges) : CharRanges := ⟨coalesce (merge s.ranges t.ranges)⟩

/-- The union of several sets. -/
def unions (sets : List CharRanges) : CharRanges := sets.foldl union empty

/-- The set with these code points, given in ascending order. -/
def ofCodes (codes : List Nat) : CharRanges := ⟨coalesce (codes.map .single)⟩

/-- The ranges with these ends, given pair by pair in ascending order. -/
def pairUp : List Nat → List CharRange
  | lo :: hi :: rest => ⟨lo, hi⟩ :: pairUp rest
  | _ => []

/-- The set with these ends of ranges, given pair by pair in ascending order and with gaps between
them. -/
def ofEnds (ends : List Nat) : CharRanges := ⟨pairUp ends⟩

/-! ## Other operations -/

/-- The gaps behind a range, up to the greatest code point. The gap between two ranges on both sides
of the surrogates has its ends the wrong way round; it counts as the range between these ends. -/
def gapsFrom (r : CharRange) : List CharRange → List CharRange
  | [] => if r.hi < maxCode then [.between (CharRange.succCode r.hi) maxCode] else []
  | s :: rest => .between (CharRange.succCode r.hi) (CharRange.predCode s.lo) :: gapsFrom s rest

/-- The gaps between ranges, from the least code point to the greatest. -/
def gaps : List CharRange → List CharRange
  | [] => all.ranges
  | r :: rest =>
    if 0 < r.lo then .between 0 (CharRange.predCode r.lo) :: gapsFrom r rest else gapsFrom r rest

/-- The characters that are not in a set. -/
def complement (s : CharRanges) : CharRanges := ⟨gaps s.ranges⟩

/-- The characters in both of two sets. -/
def inter (s t : CharRanges) : CharRanges :=
  ⟨s.ranges.flatMap fun r => t.ranges.filterMap r.inter?⟩

/-- The characters of a set that are not in another. -/
def diff (s t : CharRanges) : CharRanges :=
  ⟨t.ranges.foldl (fun rest r => rest.flatMap (·.diff r)) s.ranges⟩

/-- The characters in one of two sets but not in both. -/
def symmDiff (s t : CharRanges) : CharRanges := (s.union t).diff (s.inter t)

/-- The only character of a set with one character. -/
def only? (s : CharRanges) : Option Char :=
  match s.ranges with
  | [r] => if r.lo = r.hi then some (Char.ofNat r.lo) else none
  | _ => none

/-- The set holds characters of the ASCII range only. -/
def isAscii (s : CharRanges) : Bool := s.ranges.all fun r => r.hi < 128

end CharRanges

end FieldLayout
