import FieldLayout.Pattern.Flags
import FieldLayout.Unicode.CaseVariants
import FieldLayout.Unicode.WhiteSpace
import FieldLayout.Unicode.WordCharacters

/-!
# Classes of characters in a pattern

A class is a set of characters, or it is put together from classes by brackets and by operations on
sets. When letters are to match in all cases, the members of a set stand for their variants too;
negation and the operations come after that.

Without the Unicode flag a class holds characters of the ASCII range only. A class that would hold
others, which includes every negated one, is refused then.

## Main definitions

* `CharClass`: the classes as they are written.
* `CharClass.toRanges?`: the set of characters that a class stands for.
* `CharClass.depth`: the nesting of its brackets.
* `CharClass.digit`, `CharClass.word`, `CharClass.space`: the classes with a short form.
* `CharClass.named?`: the classes with a name between colons.
-/

namespace FieldLayout

/-- An operation on two sets. -/
inductive SetOp where
  /-- The members of both sets. -/
  | inter
  /-- The members of the first set that are not in the second. -/
  | diff
  /-- The members of one set that are not in the other. -/
  | symmDiff
  deriving DecidableEq, Repr, Inhabited

/-- The result of an operation. -/
def SetOp.apply : SetOp → CharRanges → CharRanges → CharRanges
  | .inter => .inter
  | .diff => .diff
  | .symmDiff => .symmDiff

/-- A class of characters. -/
inductive CharClass where
  /-- The members of a set. The second set takes its place without the Unicode flag; the class is
  refused then if there is none. -/
  | set (members : CharRanges) (ascii : Option CharRanges)
  /-- The characters outside of a class. -/
  | outside (cls : CharClass)
  /-- What stands between two brackets, or the characters outside of it. -/
  | bracket (negated : Bool) (content : CharClass)
  /-- The characters in one of several classes. -/
  | union (items : List CharClass)
  /-- An operation on two classes. -/
  | combine (op : SetOp) (left right : CharClass)
  deriving Inhabited

namespace CharClass

/-- The class of a set whose members count with and without the Unicode flag. -/
def ofRanges (s : CharRanges) : CharClass := .set s (if s.isAscii then some s else none)

/-- The class of one character. -/
def single (c : Char) : CharClass := ofRanges (.single c)

/-- The class of the characters between two ends. -/
def range (lo hi : Char) : CharClass := ofRanges (.between lo hi)

/-- A class or, if negated, the characters outside of it. -/
def negatedIf (negated : Bool) (cls : CharClass) : CharClass :=
  if negated then .outside cls else cls

/-! ## Classes with names -/

/-- The decimal digits of the ASCII range. -/
def asciiDigits : CharRanges := .ofEnds [0x30, 0x39]

/-- White space of the ASCII range. -/
def asciiSpace : CharRanges := .ofEnds [0x9, 0xD, 0x20, 0x20]

/-- The decimal digits. -/
def digit : CharClass := .set Unicode.decimalDigits (some asciiDigits)

/-- White space. -/
def space : CharClass := .set Unicode.whiteSpace (some asciiSpace)

/-- The characters of words. -/
def word : CharClass := .set Unicode.wordCharacters (some Unicode.asciiWordCharacters)

/-- The ends of the ranges of a class of the ASCII range that goes by a name between colons. -/
def namedEnds? : String → Option (List Nat)
  | "alnum" => some [0x30, 0x39, 0x41, 0x5A, 0x61, 0x7A]
  | "alpha" => some [0x41, 0x5A, 0x61, 0x7A]
  | "ascii" => some [0x0, 0x7F]
  | "blank" => some [0x9, 0x9, 0x20, 0x20]
  | "cntrl" => some [0x0, 0x1F, 0x7F, 0x7F]
  | "digit" => some [0x30, 0x39]
  | "graph" => some [0x21, 0x7E]
  | "lower" => some [0x61, 0x7A]
  | "print" => some [0x20, 0x7E]
  | "punct" => some [0x21, 0x2F, 0x3A, 0x40, 0x5B, 0x60, 0x7B, 0x7E]
  | "space" => some [0x9, 0xD, 0x20, 0x20]
  | "upper" => some [0x41, 0x5A]
  | "word" => some [0x30, 0x39, 0x41, 0x5A, 0x5F, 0x5F, 0x61, 0x7A]
  | "xdigit" => some [0x30, 0x39, 0x41, 0x46, 0x61, 0x66]
  | _ => none

/-- The class of the ASCII range that goes by a name between colons. -/
def named? (name : List Char) : Option CharClass :=
  (namedEnds? (String.ofList name)).map fun ends => ofRanges (.ofEnds ends)

/-! ## What a class stands for -/

/-- A set with the variants of its members, if letters match in all cases. -/
def withVariants (f : Flags) (s : CharRanges) : CharRanges :=
  if !f.ignoreCase then s else if f.unicode then s.withCaseVariants else s.withAsciiVariants

/-- The characters outside of a set, which are refused without the Unicode flag. -/
def complement? (f : Flags) (s : CharRanges) : Option CharRanges :=
  if f.unicode then some s.complement else none

/-- Every character, or every character but those that end a line. Without the Unicode flag it is
refused. -/
def any? (f : Flags) : Option CharRanges :=
  if f.dotAll then complement? f .empty
  else if f.crlf then complement? f (.ofCodes [0xA, 0xD])
  else complement? f (.single '\n')

mutual

/-- The set of characters that a class stands for. -/
def toRanges? (f : Flags) : CharClass → Option CharRanges
  | .set members ascii =>
    if f.unicode then some (withVariants f members) else ascii.map (withVariants f)
  | .outside cls => (toRanges? f cls).bind (complement? f)
  | .bracket negated content =>
    if negated then (toRanges? f content).bind (complement? f) else toRanges? f content
  | .union items => toRangesList? f items
  | .combine op left right =>
    match toRanges? f left, toRanges? f right with
    | some s, some t => some (op.apply s t)
    | _, _ => none

/-- The characters in one of several classes. -/
def toRangesList? (f : Flags) : List CharClass → Option CharRanges
  | [] => some .empty
  | item :: items =>
    match toRanges? f item, toRangesList? f items with
    | some s, some t => some (s.union t)
    | _, _ => none

end

mutual

/-- The nesting of brackets, of lists of several items and of operations in a class. -/
def depth : CharClass → Nat
  | .set _ _ => 0
  | .outside cls => cls.depth
  | .bracket _ content => 1 + content.depth
  | .union items => (if 2 ≤ items.length then 1 else 0) + depthList items
  | .combine _ left right => 1 + max left.depth right.depth

/-- The deepest nesting in a list of classes. -/
def depthList : List CharClass → Nat
  | [] => 0
  | item :: items => max item.depth (depthList items)

end

end CharClass

end FieldLayout
