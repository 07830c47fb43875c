import FieldLayout.Pattern.CharRanges

/-!
# White space

The characters with the property of white space.

## Main definitions

* `Unicode.whiteSpace`: the set of these characters.
-/

namespace FieldLayout.Unicode

/-- The first and the last character of each run of white space, one pair after the other. -/
def blankEnds : List Nat := [
  0x9, 0xD, 0x20, 0x20, 0x85, 0x85, 0xA0, 0xA0, 0x1680, 0x1680, 0x2000, 0x200A, 0x2028, 0x2029,
  0x202F, 0x202F, 0x205F, 0x205F, 0x3000, 0x3000]

/-- White space. -/
def whiteSpace : CharRanges := CharRanges.ofEnds blankEnds

end FieldLayout.Unicode
