import FieldLayout.Pattern.Bracket

/-!
# Symbols of a pattern

A pattern text is read as a sequence of symbols: characters, classes, edges, repetitions and the
brackets of groups. A text that starts with no symbol gives `none`.

## Main definitions

* `Symbol`: the symbols of a pattern.
* `Symbol.read`: reads the first symbol of a text.
-/

namespace FieldLayout

open Verbose

/-- A symbol of the pattern language. -/
inductive Symbol where
  /-- A character that stands for itself. An octet is one whose number was written with two digits.
  -/
  | char (c : Char) (octet : Bool)
  /-- A class of characters. -/
  | set (cls : CharClass)
  /-- Any character. -/
  | dot
  /-- A place that meets a condition. -/
  | mark (m : EdgeMark)
  /-- A repetition of what stands before it. -/
  | times (min : Nat) (max : Option Nat) (greedy : Bool)
  /-- The start of a capturing group, which may have a name. -/
  | openCapture (name : Option (List Char))
  /-- The start of a group that does not capture, with its own flags. -/
  | openPlain (change : FlagChange)
  /-- A change of flags up to the end of the group around it. -/
  | setFlags (change : FlagChange)
  /-- The end of a group. -/
  | close
  /-- The border between two alternatives. -/
  | bar
  deriving Inhabited

namespace Symbol

/-- The symbol of a glyph. -/
def ofGlyph : Glyph → Symbol
  | .char c octet => .char c octet
  | .set cls => .set cls
  | .mark m => .mark m

/-! ## Repetitions -/

/-- A repetition with its greed: a question mark behind it makes it lazy. -/
def readGreed (min : Nat) (max : Option Nat) : List Char → Symbol × List Char
  | [] => (.times min max true, [])
  | c :: cs => if c = '?' then (.times min max false, cs) else (.times min max true, c :: cs)

/-- A decimal number of 32 bits, with white space allowed on both sides. -/
def readNumber (verbose : Bool) (cs : List Char) : Option (Nat × List Char) :=
  let (digits, rest) := gather verbose Char.isDigit (cs.dropWhile isBlank)
  let value := Nat.ofDigitChars 10 digits 0
  if digits.isEmpty || UInt32.size ≤ value then none else some (value, rest.dropWhile isBlank)

/-- The counts of a repetition, behind the opening brace: one count, a least count, or a least and a
greatest count that is not smaller. -/
def readCounts (verbose : Bool) (cs : List Char) : Option (Symbol × List Char) :=
  match readNumber verbose (skip verbose cs) with
  | none => none
  | some (_, []) => none
  | some (min, c :: rest) =>
    if c = '\x7d' then some (readGreed min (some min) (skip verbose rest))
    else if c = ',' then
      match skip verbose rest with
      | [] => none
      | d :: left =>
        if d = '\x7d' then some (readGreed min none (skip verbose left))
        else
          match readNumber verbose (d :: left) with
          | some (max, e :: left) =>
            if e = '\x7d' && min ≤ max then some (readGreed min (some max) (skip verbose left))
            else none
          | _ => none
    else none

/-! ## Groups -/

/-- The flags behind `(?`, up to a colon, which starts a group, or to a closing bracket, which ends
a bare change of flags. No flag is named twice, a minus stands at most once and not at the end, and
a bare change changes something. -/
def readFlags (change : FlagChange) (minus dangling : Bool) :
    List Char → Option (Symbol × List Char)
  | [] => none
  | c :: cs =>
    if c = ':' then if dangling then none else some (.openPlain change, cs)
    else if c = ')' then
      if dangling || change.isEmpty then none else some (.setFlags change, cs)
    else if c = '-' then if minus then none else readFlags change true true cs
    else
      match Flag.ofLetter? c with
      | none => none
      | some flag =>
        if (change.lookup flag).isSome then none
        else readFlags ((flag, !minus) :: change) minus false cs

/-- The characters of the names of groups. A name starts with a letter or a low line. -/
def isNameChar (first : Bool) (c : Char) : Bool :=
  c == '_' ||
    if first then Unicode.alphabetic.contains c
    else c == '.' || c == '[' || c == ']' || Unicode.alphanumeric.contains c

/-- The name of a group, up to the closing angle bracket. -/
def readName (cs : List Char) : Option (Symbol × List Char) :=
  match cs.takeWhile (· != '>'), cs.dropWhile (· != '>') with
  | c :: name, _ :: rest =>
    if isNameChar true c && name.all (isNameChar false) then
      some (.openCapture (some (c :: name)), rest)
    else none
  | _, _ => none

/-- The start of a group, behind its opening bracket. Conditions on what stands before a place or
behind it are refused. -/
def readOpening (cs : List Char) : Option (Symbol × List Char) :=
  match cs with
  | '?' :: 'P' :: '<' :: rest => readName rest
  | '?' :: '<' :: rest => readName rest
  | '?' :: rest => readFlags [] false false rest
  | cs => some (.openCapture none, cs)

/-! ## All symbols -/

/-- The symbol that starts with a character. -/
def read (verbose : Bool) (c : Char) (cs : List Char) : Option (Symbol × List Char) :=
  match c with
  | '\\' => (Glyph.readEscape verbose cs).map fun (g, rest) => (ofGlyph g, rest)
  | '.' => some (.dot, cs)
  | '^' => some (.mark .caret, cs)
  | '$' => some (.mark .dollar, cs)
  | '|' => some (.bar, cs)
  | ')' => some (.close, cs)
  | '(' => readOpening (skip verbose cs)
  | '[' => (CharClass.readBracket verbose cs).map fun (cls, rest) => (.set cls, rest)
  | '*' => some (readGreed 0 none cs)
  | '+' => some (readGreed 1 none cs)
  | '?' => some (readGreed 0 (some 1) cs)
  | '\x7b' => readCounts verbose cs
  | c => some (.char c false, cs)

end Symbol

end FieldLayout
