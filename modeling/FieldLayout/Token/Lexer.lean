import FieldLayout.Token

/-!
# Lexing

A layout text is first cut into runs: digits stick to digits and date letters to date letters, and
every other character stands alone. The first character of a run then decides what the run means. No
text is refused.

## Main definitions

* `Token.runs`: the cut into longest runs.
* `Token.scan`: the tokens of a text, with their byte offsets.

## Main statements

* `Token.flatten_map_text_locate`: the texts of the tokens join to the joined runs, so nothing is
  lost.
-/

namespace FieldLayout

namespace Token

/-- The letters of dates and times; `M` serves for months and for minutes. -/
def isDateLetter (c : Char) : Bool := c == 'Y' || c == 'M' || c == 'D' || c == 'H' || c == 'S'

/-- The characters that are marks with a meaning of their own. -/
def isMarkChar (c : Char) : Bool :=
  c == '!' || c == '*' || c == '[' || c == ']' || c == '(' || c == ')' || c == '<' || c == '>'

/-- Two neighbouring characters that belong to one token. -/
def sticks (a b : Char) : Bool :=
  (a.isDigit && b.isDigit) || (isDateLetter a && isDateLetter b)

/-- The longest runs of characters that stick together, in order. -/
def runs (cs : List Char) : List (List Char) := cs.splitBy sticks

/-- What a run stands for, decided by its first character. -/
def lexemeOf (first : Char) (run : List Char) : Lexeme :=
  if first.isDigit then .number (UInt32.ofNatClamp (Nat.ofDigitChars 10 run 0))
  else if isDateLetter first then .date (String.ofList run)
  else if isMarkChar first then .mark first
  else if first = 'N' then .sign
  else .plain first

/-- The tokens of consecutive runs, the first of which starts at the given offset. -/
def locate (offset : Nat) : List (List Char) → List Token
  | [] => []
  | [] :: rest => locate offset rest
  | (c :: cs) :: rest =>
    let text := String.ofList (c :: cs)
    ⟨lexemeOf c (c :: cs), text, offset⟩ :: locate (offset + text.utf8ByteSize) rest

/-- The tokens of a layout text. -/
def scan (s : String) : List Token := locate 0 (runs s.toList)

theorem flatten_map_text_locate (offset : Nat) (rs : List (List Char)) :
    ((locate offset rs).map fun t => t.text.toList).flatten = rs.flatten := by
  induction rs generalizing offset with
  | nil => rfl
  | cons r rs ih =>
    cases r with
    | nil => simp [locate, ih]
    | cons c cs => simp [locate, ih]

end Token

end FieldLayout
