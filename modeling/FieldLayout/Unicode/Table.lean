import FieldLayout.Pattern.CharRanges

/-!
# Tables of characters

A table is a text that lists code points in hexadecimal digits, in ascending order and with white
space between the entries. An entry is a code point, a first and a last one with a hyphen between
them, or a first and a last one with the distance of neighbours behind a slash. So `41-5A` stands
for the capital letters of the ASCII range, and `100-104/2` for three code points at a distance of
two.

## Main definitions

* `CharRanges.ofTable`: the set that a table lists.
-/

namespace FieldLayout

namespace Unicode

/-- The value of a hexadecimal digit. -/
def hexDigit? (c : Char) : Option Nat :=
  if '0' ≤ c ∧ c ≤ '9' then some (c.toNat - '0'.toNat)
  else if 'a' ≤ c ∧ c ≤ 'f' then some (c.toNat - 'a'.toNat + 10)
  else if 'A' ≤ c ∧ c ≤ 'F' then some (c.toNat - 'A'.toNat + 10)
  else none

/-- What has been read of a table. -/
structure TableReader where
  /-- The ranges of the finished entries, the latest first. -/
  ranges : List CharRange
  /-- The finished numbers of the entry that is being read, the latest first. -/
  numbers : List Nat
  /-- The number that is being read. -/
  value : Nat
  deriving Inhabited

namespace TableReader

/-- The start of a table. -/
def start : TableReader := ⟨[], [], 0⟩

/-- The ranges of an entry with the given numbers, the latest first, in front of others. -/
def push (numbers : List Nat) (ranges : List CharRange) : List CharRange :=
  match numbers with
  | [code] => .single code :: ranges
  | [hi, lo] => ⟨lo, hi⟩ :: ranges
  | [step, hi, lo] =>
    (List.range ((hi - lo) / step + 1)).foldl (fun rs i => .single (lo + i * step) :: rs) ranges
  | _ => ranges

/-- Reads one more character of an entry. -/
def read (t : TableReader) (c : Char) : TableReader :=
  if c = '-' || c = '/' then ⟨t.ranges, t.value :: t.numbers, 0⟩
  else ⟨t.ranges, t.numbers, 16 * t.value + (hexDigit? c).getD 0⟩

/-- The end of an entry. -/
def finish (t : TableReader) : TableReader := ⟨push (t.value :: t.numbers) t.ranges, [], 0⟩

/-- The ranges of a table, the latest first. The flag says that the text goes on inside of an entry.
-/
def readAll : Bool → TableReader → List Char → List CharRange
  | inside, t, [] => if inside then t.finish.ranges else t.ranges
  | inside, t, c :: cs =>
    if c = ' ' || c = '\n' then
      if inside then readAll false t.finish cs else readAll false t cs
    else readAll true (t.read c) cs

end TableReader

end Unicode

/-- The set that a table lists. -/
def CharRanges.ofTable (table : String) : CharRanges :=
  ⟨(Unicode.TableReader.readAll false .start table.toList).reverse⟩

end FieldLayout
