import FieldLayout.Pattern.CharClass
import FieldLayout.Pattern.Edge
import FieldLayout.Pattern.Verbose
import FieldLayout.Unicode.Property

/-!
# Glyphs of a pattern

A glyph is a character of a pattern or what a backslash and the characters behind it stand for: a
character, a class or a mark of an edge.

## Main definitions

* `Glyph`: the glyphs.
* `Glyph.readEscape`: reads what stands behind a backslash.
* `Glyph.readHex`: reads the number of a character.
* `Glyph.readProperty`: reads the name of a property.
-/

namespace FieldLayout

/-- A character of a pattern with its escape resolved. -/
inductive Glyph where
  /-- A character. An octet is one whose number was written with two digits, so that it may stand
  for a byte. -/
  | char (c : Char) (octet : Bool)
  /-- A class of characters. -/
  | set (cls : CharClass)
  /-- A mark of an edge. -/
  | mark (m : EdgeMark)
  deriving Inhabited

namespace Glyph

open Verbose

/-! ## Characters by number -/

/-- The value of hexadecimal digits. -/
def hexValue? (digits : List Char) : Option Nat :=
  digits.foldlM (fun n c => (Unicode.hexDigit? c).map (16 * n + ·)) 0

/-- The character with a number. Surrogates are no characters. -/
def ofCode? (code : Nat) : Option Char := if code.isValidChar then some (Char.ofNat code) else none

/-- A given number of hexadecimal digits. -/
def takeDigits (verbose : Bool) : Nat → List Char → Option (List Char × List Char)
  | 0, cs => some ([], cs)
  | _ + 1, [] => none
  | n + 1, c :: cs =>
    if (Unicode.hexDigit? c).isNone then none
    else
      match takeDigits verbose n (skip verbose cs) with
      | none => none
      | some (digits, rest) => some (c :: digits, rest)

/-- What stands between braces, behind the opening one. -/
def takeBraced (verbose : Bool) (cs : List Char) : Option (List Char × List Char) :=
  match gather verbose (· != '\x7d') cs with
  | (_, []) => none
  | (content, _ :: rest) => some (content, rest)

/-- A character given by its number, behind the letter that announces it: a fixed number of digits,
or any number of them between braces. -/
def readHex (verbose : Bool) (digits : Nat) (cs : List Char) : Option (Glyph × List Char) :=
  match skip verbose cs with
  | [] => none
  | c :: rest =>
    if c = '\x7b' then
      match takeBraced verbose rest with
      | some (d :: ds, rest) =>
        ((hexValue? (d :: ds)).bind ofCode?).map fun c => (.char c false, rest)
      | _ => none
    else
      match takeDigits verbose digits (c :: rest) with
      | none => none
      | some (ds, rest) =>
        ((hexValue? ds).bind ofCode?).map fun c => (.char c (digits = 2), rest)

/-! ## Properties -/

/-- The place of the first occurrence of a short text in a longer one. -/
def splitAtText? (mark : List Char) : List Char → Option (List Char × List Char)
  | [] => none
  | c :: cs =>
    if mark.isPrefixOf (c :: cs) then some ([], (c :: cs).drop mark.length)
    else (splitAtText? mark cs).map fun (before, behind) => (c :: before, behind)

/-- The characters with a property, as a class. It is refused without the Unicode flag. -/
def ofProperty? (negated : Bool) (members : Option CharRanges) : Option Glyph :=
  members.map fun s => .set (.negatedIf negated (.set s none))

/-- The class of what stands between the braces of a property: a name, or a name and a value with a
sign between them. -/
def ofPropertyText? (negated : Bool) (content : List Char) : Option Glyph :=
  let value (negated : Bool) (parts : List Char × List Char) : Option Glyph :=
    ofProperty? negated (Unicode.ofValue? (String.ofList parts.1) (String.ofList parts.2))
  match splitAtText? ['!', '='] content with
  | some parts => value (!negated) parts
  | none =>
    match splitAtText? [':'] content with
    | some parts => value negated parts
    | none =>
      match splitAtText? ['='] content with
      | some parts => value negated parts
      | none => ofProperty? negated (Unicode.ofName? (String.ofList content))

/-- A property, behind the letter that announces it: one letter, or what stands between braces. -/
def readProperty (verbose negated : Bool) (cs : List Char) : Option (Glyph × List Char) :=
  match skip verbose cs with
  | [] => none
  | c :: rest =>
    if c = '\x7b' then
      match takeBraced verbose rest with
      | none => none
      | some (content, rest) => (ofPropertyText? negated content).map fun g => (g, rest)
    else if c = '\\' then none
    else (ofProperty? negated (Unicode.ofName? (String.ofList [c]))).map fun g => (g, rest)

/-! ## Edges of words -/

/-- The edges of words that go by a name between braces. -/
def wordEdge? (name : List Char) : Option WordEdge :=
  if name = "start".toList then some .start
  else if name = "end".toList then some .stop
  else if name = "start-half".toList then some .startHalf
  else if name = "end-half".toList then some .stopHalf
  else none

/-- The characters of such a name. -/
def isWordEdgeChar (c : Char) : Bool := c.isAlpha || c == '-'

/-- An edge of words, behind its letter. Braces behind it may hold a name; otherwise they are left
to a repetition. -/
def readWordEdge (verbose : Bool) (cs : List Char) : Option (Glyph × List Char) :=
  match cs with
  | '\x7b' :: rest =>
    match skip verbose rest with
    | [] => none
    | c :: rest =>
      if !isWordEdgeChar c then some (.mark (.word .border), cs)
      else
        match gather verbose isWordEdgeChar (c :: rest) with
        | (name, '\x7d' :: rest) => (wordEdge? name).map fun e => (.mark (.word e), rest)
        | _ => none
  | _ => some (.mark (.word .border), cs)

/-! ## Escapes -/

/-- The characters that stand for themselves when escaped, unless they have a meaning of their own.
-/
def isEscapable (c : Char) : Bool := c.toNat < 128 && !c.isAlphanum

/-- What a single character behind a backslash stands for. -/
def ofEscape? (c : Char) : Option Glyph :=
  match c with
  | 'n' => some (.char '\n' false)
  | 't' => some (.char '\t' false)
  | 'r' => some (.char '\r' false)
  | 'f' => some (.char '\x0c' false)
  | 'v' => some (.char '\x0b' false)
  | 'a' => some (.char '\x07' false)
  | 'd' => some (.set .digit)
  | 'D' => some (.set (.outside .digit))
  | 'w' => some (.set .word)
  | 'W' => some (.set (.outside .word))
  | 's' => some (.set .space)
  | 'S' => some (.set (.outside .space))
  | 'A' => some (.mark .textStart)
  | 'z' => some (.mark .textEnd)
  | '<' => some (.mark (.word .start))
  | '>' => some (.mark (.word .stop))
  | 'B' => some (.mark (.word .noBorder))
  | c => if isEscapable c then some (.char c false) else none

/-- Reads what stands behind a backslash. -/
def readEscape (verbose : Bool) : List Char → Option (Glyph × List Char)
  | [] => none
  | c :: cs =>
    match c with
    | 'x' => readHex verbose 2 cs
    | 'u' => readHex verbose 4 cs
    | 'U' => readHex verbose 8 cs
    | 'p' => readProperty verbose false cs
    | 'P' => readProperty verbose true cs
    | 'b' => readWordEdge verbose cs
    | c => (ofEscape? c).map fun g => (g, cs)

/-- The class of the characters that a glyph between brackets stands for. A mark stands for none. -/
def toClass? : Glyph → Option CharClass
  | .char c _ => some (.single c)
  | .set cls => some cls
  | .mark _ => none

/-- The character that a glyph stands for, if it stands for one. -/
def char? : Glyph → Option Char
  | .char c _ => some c
  | _ => none

end Glyph

end FieldLayout
