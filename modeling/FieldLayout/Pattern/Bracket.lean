import FieldLayout.Pattern.Glyph

/-!
# Classes between brackets

A class between brackets lists characters, ranges and classes. Two lists with a doubled mark between
them are combined by an operation on sets; of several operations the first one comes first. Brackets
may stand in brackets.

## Main definitions

* `OpenBracket`: a bracket that is being read.
* `OpenBracket.readAll`: reads up to the closing bracket of the outermost bracket.
* `CharClass.readBracket`: reads a class behind its opening bracket.
-/

namespace FieldLayout

open Verbose

/-- A bracket that is being read. -/
structure OpenBracket where
  /-- The bracket started with a caret. -/
  negated : Bool
  /-- The classes read so far on this side of the latest operation, the latest first. -/
  items : List CharClass
  /-- The latest operation and what stands before it. -/
  pending : Option (SetOp × CharClass)
  deriving Inhabited

namespace OpenBracket

/-- One more class. -/
def add (b : OpenBracket) (cls : CharClass) : OpenBracket := { b with items := cls :: b.items }

/-- What has been read so far, with the latest operation carried out. -/
def content (b : OpenBracket) : CharClass :=
  match b.pending with
  | none => .union b.items.reverse
  | some (op, left) => .combine op left (.union b.items.reverse)

/-- An operation whose right side follows. -/
def combine (b : OpenBracket) (op : SetOp) : OpenBracket := ⟨b.negated, [], some (op, b.content)⟩

/-- The class of a bracket that ends here. -/
def toClass (b : OpenBracket) : CharClass := .bracket b.negated b.content

/-- The start of a bracket. A caret negates; hyphens in front stand for themselves, and so does a
closing bracket that comes first. -/
def start (verbose : Bool) (cs : List Char) : OpenBracket × List Char :=
  let cs := skip verbose cs
  let (negated, cs) :=
    match cs with
    | '^' :: rest => (true, skip verbose rest)
    | cs => (false, cs)
  match gather verbose (· == '-') cs with
  | ([], ']' :: rest) => (⟨negated, [.single ']'], none⟩, rest)
  | (hyphens, rest) => (⟨negated, hyphens.map .single, none⟩, rest)

end OpenBracket

namespace CharClass

/-! ## Members -/

/-- A class with a name between colons, behind its opening bracket. A caret in front of the name
negates. -/
def readNamed? (cs : List Char) : Option (CharClass × List Char) :=
  match cs with
  | ':' :: cs =>
    let (negated, cs) :=
      match cs with
      | '^' :: rest => (true, rest)
      | cs => (false, cs)
    match cs.dropWhile (· != ':') with
    | ':' :: ']' :: rest =>
      (named? (cs.takeWhile (· != ':'))).map fun cls => (.negatedIf negated cls, rest)
    | _ => none
  | _ => none

/-- A character or an escape between brackets. -/
def readGlyph (verbose : Bool) : List Char → Option (Glyph × List Char)
  | [] => none
  | c :: cs => if c = '\\' then Glyph.readEscape verbose cs else some (.char c false, cs)

/-- The range between two glyphs, which have to be characters in order. -/
def range? (lo hi : Glyph) : Option CharClass :=
  match lo.char?, hi.char? with
  | some a, some b => if a ≤ b then some (.range a b) else none
  | _, _ => none

/-- The character that decides whether a hyphen makes a range. In a verbose pattern it is looked for
behind white space and one number sign. -/
def peek? (verbose : Bool) (cs : List Char) : Option Char :=
  if verbose then
    match cs.dropWhile isBlank with
    | '#' :: rest => (rest.dropWhile isBlank).head?
    | rest => rest.head?
  else cs.head?

/-- A member of a class: a glyph, or a range between two of them. A hyphen before the closing
bracket or before another hyphen makes no range. -/
def readMember (verbose : Bool) (cs : List Char) : Option (CharClass × List Char) :=
  match readGlyph verbose cs with
  | none => none
  | some (g, rest) =>
    match skip verbose rest with
    | '-' :: rest =>
      if peek? verbose rest == some ']' || peek? verbose rest == some '-' then
        g.toClass?.map fun cls => (cls, '-' :: rest)
      else
        match readGlyph verbose (skip verbose rest) with
        | none => none
        | some (h, rest) => (range? g h).map fun cls => (cls, rest)
    | rest => g.toClass?.map fun cls => (cls, rest)

/-! ## Brackets -/

/-- The operation of two marks in a row. -/
def operation? (c : Char) (cs : List Char) : Option (SetOp × List Char) :=
  match c, cs with
  | '&', '&' :: rest => some (.inter, rest)
  | '-', '-' :: rest => some (.diff, rest)
  | '~', '~' :: rest => some (.symmDiff, rest)
  | _, _ => none

/-- The rest of a class, up to the closing bracket of the outermost bracket, in a given number of
steps. -/
def readBrackets (verbose : Bool) :
    Nat → List OpenBracket → OpenBracket → List Char → Option (CharClass × List Char)
  | 0, _, _, _ => none
  | steps + 1, outer, cur, cs =>
    match skip verbose cs with
    | [] => none
    | c :: rest =>
      if c = '[' then
        match readNamed? rest with
        | some (cls, left) => readBrackets verbose steps outer (cur.add cls) left
        | none =>
          let (inner, left) := OpenBracket.start verbose rest
          readBrackets verbose steps (cur :: outer) inner left
      else if c = ']' then
        match outer with
        | [] => some (cur.toClass, rest)
        | o :: outer => readBrackets verbose steps outer (o.add cur.toClass) rest
      else
        match operation? c rest with
        | some (op, left) => readBrackets verbose steps outer (cur.combine op) left
        | none =>
          match readMember verbose (c :: rest) with
          | none => none
          | some (cls, left) => readBrackets verbose steps outer (cur.add cls) left

/-- A class, behind its opening bracket. Each step takes a character at least. -/
def readBracket (verbose : Bool) (cs : List Char) : Option (CharClass × List Char) :=
  let (cur, rest) := OpenBracket.start verbose cs
  readBrackets verbose rest.length [] cur rest

end CharClass

end FieldLayout
