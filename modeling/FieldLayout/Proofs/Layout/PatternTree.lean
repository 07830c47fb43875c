import FieldLayout.Layout.Pattern
import FieldLayout.Pattern.Reader
import FieldLayout.Proofs.Layout.Sequences

/-!
# The tree that the pattern of a layout stands for

The pattern of a layout is a text. Its parts are meant to stand for the parts of a tree: a character
of a literal for itself, a field for a counted repetition of a set, an optional group for a
repetition of at most one round, and a capturing group for a numbered group. Here the tree is told
from the layout alone.

## Main definitions

* `Charset.ranges`: the characters of a set as ranges of code points.
* `Charset.patternClass`: the class between brackets that the pattern of a set stands for.
* `Expr.ofItems`: items that follow each other as one tree.
* `Node.patternItems`, `Layout.patternTree`: the tree of a layout.

## Main statements

* `Charset.contains_ranges`: the ranges have the members of the set.
* `Charset.toRanges?_patternClass`: the class stands for these ranges.
-/

namespace FieldLayout

/-! ## Sets -/

namespace Charset

/-- The characters of a set as ranges of code points. -/
def ranges : Charset → CharRanges
  | digits => ⟨[⟨0x30, 0x39⟩]⟩
  | capitals => ⟨[⟨0x41, 0x5A⟩]⟩
  | alphanumeric => ⟨[⟨0x30, 0x39⟩, ⟨0x41, 0x5A⟩]⟩
  | text =>
    ⟨[⟨0x20, 0x20⟩, ⟨0x27, 0x29⟩, ⟨0x2B, 0x3A⟩, ⟨0x3F, 0x3F⟩, ⟨0x41, 0x5A⟩, ⟨0x61, 0x7A⟩]⟩
  | blank => ⟨[⟨0x20, 0x20⟩]⟩
  | decimal => ⟨[⟨0x2C, 0x2C⟩, ⟨0x30, 0x39⟩]⟩

/-- The members of the class between brackets that stands for a set. -/
def patternMembers : Charset → List CharClass
  | digits => [.range '0' '9']
  | capitals => [.range 'A' 'Z']
  | alphanumeric => [.range 'A' 'Z', .range '0' '9']
  | text =>
    [.range 'A' 'Z', .range 'a' 'z', .range '0' '9', .single '/', .single '-', .single '?',
      .single ':', .single '(', .single ')', .single '.', .single ',', .single '\'', .single '+',
      .single ' ']
  | blank => [.single ' ']
  | decimal => [.range '0' '9', .single ',']

/-- The class between brackets that stands for a set. -/
def patternClass (s : Charset) : CharClass := .bracket false (.union s.patternMembers)

theorem toRanges?_patternClass (s : Charset) : s.patternClass.toRanges? .start = some s.ranges := by
  cases s <;> rfl

theorem le_iff_toNat_le (a b : Char) : a ≤ b ↔ a.toNat ≤ b.toNat := Iff.rfl

/-- The ranges of a set have the members of the set. -/
theorem contains_ranges (s : Charset) (c : Char) : s.ranges.contains c = s.contains c := by
  rw [Bool.eq_iff_iff]
  cases s <;>
    simp only [CharRanges.contains, CharRanges.containsCode, ranges, contains, isCapital, isDigit,
      isSmall, textMarks, CharRange.contains, List.any_cons, List.any_nil, List.contains_cons,
      List.contains_nil, Bool.or_eq_true, Bool.and_eq_true, decide_eq_true_eq, beq_iff_eq,
      le_iff_toNat_le, ← Char.toNat_inj, Char.reduceToNat, Bool.or_false] <;>
    omega

/-- A set of one character has this character only. -/
theorem eq_single_of_only? (s : Charset) {c : Char} (h : s.ranges.only? = some c) :
    s.ranges = .single c := by
  cases s with
  | blank =>
    cases h
    rfl
  | digits | capitals | alphanumeric | text | decimal => cases h

end Charset

/-! ## The tree -/

/-- Items that follow each other as one tree. -/
def Expr.ofItems : List Expr → Expr
  | [] => .empty
  | [e] => e
  | es => .seq es

/-- The items for a literal: its characters, one by one. -/
def Expr.ofLiteral (text : String) : List Expr :=
  text.toList.map fun c => .chars (.single c) false 0

/-- The item for a field. -/
def Field.patternItem (f : Field) : Expr :=
  .times (.chars f.charset.ranges false f.charset.patternClass.depth) f.min.toNat
    (some f.max.toNat) true

mutual

/-- The items that a part stands for. The number is that of the capturing groups before it. -/
def Node.patternItems (index : Nat) : Node → List Expr
  | .literal text => Expr.ofLiteral text
  | .field f => [f.patternItem]
  | .date _ | .sign => []
  | .group bracket children =>
    if bracket.captures then
      [.group (some (index + 1)) (.ofItems (Node.patternItemsList (index + 1) children))]
    else [.times (.group none (.ofItems (Node.patternItemsList index children))) 0 (some 1) true]

/-- The items that consecutive parts stand for. -/
def Node.patternItemsList (index : Nat) : List Node → List Expr
  | [] => []
  | n :: ns => n.patternItems index ++ Node.patternItemsList (index + n.captureCount) ns

end

/-- The tree that the pattern of a layout stands for. -/
def Layout.patternTree (l : Layout) : Expr :=
  .ofItems (.edge .textStart :: Node.patternItemsList 0 l.nodes ++ [.edge .textEnd])

end FieldLayout
