/-!
# Character sets

A field of a message holds characters of one of six sets, each named by a letter in the layout text.

## Main definitions

* `Charset`: the six sets.
* `Charset.letter`, `Charset.ofLetter?`: the letter that stands for a set, and back.
* `Charset.contains`: the characters of a set.

## Main statements

* `Charset.ofLetter?_eq_some_iff`: reading a letter and writing it are inverse to each other.
-/

namespace FieldLayout

/-- The set from which every character of a field is taken. -/
inductive Charset where
  /-- The digits `0` to `9`. -/
  | digits
  /-- The capital letters `A` to `Z`. -/
  | capitals
  /-- Capital letters and digits. -/
  | alphanumeric
  /-- Letters of both cases, digits and the marks allowed in running text. -/
  | text
  /-- The space only. -/
  | blank
  /-- Digits and the decimal comma. -/
  | decimal
  deriving DecidableEq, Repr, Inhabited

namespace Charset

/-- The letter that names a set in a layout. -/
def letter : Charset → Char
  | digits => 'n'
  | capitals => 'a'
  | alphanumeric => 'c'
  | text => 'x'
  | blank => 'e'
  | decimal => 'd'

/-- The set that a letter names. Letters are case sensitive. -/
def ofLetter? : Char → Option Charset
  | 'n' => some digits
  | 'a' => some capitals
  | 'c' => some alphanumeric
  | 'x' => some text
  | 'e' => some blank
  | 'd' => some decimal
  | _ => none

/-- The set that a text names, which has to be a single letter. -/
def ofText? (s : String) : Option Charset :=
  match s.toList with
  | [c] => ofLetter? c
  | _ => none

/-- The letter of a set as a text. -/
def name (s : Charset) : String := String.singleton s.letter

/-- A capital letter of the Latin alphabet without diacritics. -/
def isCapital (c : Char) : Bool := 'A' ≤ c && c ≤ 'Z'

/-- A decimal digit of the Latin script. -/
def isDigit (c : Char) : Bool := '0' ≤ c && c ≤ '9'

/-- A small letter of the Latin alphabet without diacritics. -/
def isSmall (c : Char) : Bool := 'a' ≤ c && c ≤ 'z'

/-- The marks that running text may hold beside letters and digits. -/
def textMarks : List Char := ['/', '-', '?', ':', '(', ')', '.', ',', '\'', '+', ' ']

/-- Membership of a character in a set. -/
def contains : Charset → Char → Bool
  | digits, c => isDigit c
  | capitals, c => isCapital c
  | alphanumeric, c => isCapital c || isDigit c
  | text, c => isCapital c || isSmall c || isDigit c || textMarks.contains c
  | blank, c => c == ' '
  | decimal, c => isDigit c || c == ','

@[simp] theorem ofLetter?_letter (s : Charset) : ofLetter? s.letter = some s := by
  cases s <;> rfl

theorem ofLetter?_eq_some_iff {c : Char} {s : Charset} : ofLetter? c = some s ↔ c = s.letter := by
  refine ⟨fun h => ?_, fun h => h ▸ ofLetter?_letter s⟩
  unfold ofLetter? at h
  split at h <;> simp_all [letter] <;> subst h <;> rfl

end Charset

end FieldLayout
