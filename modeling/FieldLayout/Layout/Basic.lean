import FieldLayout.Charset

/-!
# Layouts

A layout says how the value of a message field is put together: fixed text, fields of bounded
length, dates, a sign, and groups of these.

## Main definitions

* `Bracket`: the three kinds of group, by their brackets.
* `Field`: the length bounds and the character set of a field.
* `Node`, `Layout`: the tree.
* `Layout.captureCount`: the number of capturing groups at any depth.
* `Layout.fields`: the fields at any depth, in order.
-/

namespace FieldLayout

/-- The brackets around a group, which say what the group is for. -/
inductive Bracket where
  /-- The content may be absent. -/
  | optional
  /-- The content is the value to extract. -/
  | capture
  /-- The content is a value to extract and to write in another form. -/
  | reformat
  deriving DecidableEq, Repr, Inhabited

namespace Bracket

/-- The mark that opens a group. -/
def opening : Bracket → Char
  | optional => '['
  | capture => '('
  | reformat => '<'

/-- The mark that closes a group. -/
def closing : Bracket → Char
  | optional => ']'
  | capture => ')'
  | reformat => '>'

/-- The content of the group is a value to extract. -/
def captures : Bracket → Bool
  | optional => false
  | capture => true
  | reformat => true

/-- The bracket that a mark opens. -/
def ofOpening? : Char → Option Bracket
  | '[' => some optional
  | '(' => some capture
  | '<' => some reformat
  | _ => none

/-- The bracket that a mark closes. -/
def ofClosing? : Char → Option Bracket
  | ']' => some optional
  | ')' => some capture
  | '>' => some reformat
  | _ => none

@[simp] theorem ofOpening?_opening (b : Bracket) : ofOpening? b.opening = some b := by
  cases b <;> rfl

@[simp] theorem ofClosing?_closing (b : Bracket) : ofClosing? b.closing = some b := by
  cases b <;> rfl

end Bracket

/-- A field: between `min` and `max` characters of one set, repeated up to `repeats` times. A field
made by hand may have `min` above `max`. -/
structure Field where
  /-- The least number of characters. -/
  min : UInt32
  /-- The greatest number of characters. -/
  max : UInt32
  /-- The set of characters. -/
  charset : Charset
  /-- How often the field may be repeated. -/
  repeats : UInt32
  deriving DecidableEq, Repr

/-- The length of the field leaves no choice. -/
def Field.isFixed (f : Field) : Bool := f.min == f.max

/-- A part of a layout. -/
inductive Node where
  /-- Fixed text. -/
  | literal (text : String)
  /-- A field. -/
  | field (field : Field)
  /-- A date or time, described by a run of letters. -/
  | date (run : String)
  /-- The place of an optional sign. -/
  | sign
  /-- A bracketed group. -/
  | group (bracket : Bracket) (children : List Node)
  deriving Inhabited

/-- The parts of a field value, in order. -/
structure Layout where
  /-- The parts at the top level. -/
  nodes : List Node
  deriving Inhabited

/-! ## Equality -/

mutual

/-- Equality of parts is decidable. -/
def Node.decEq : (a b : Node) → Decidable (a = b)
  | .literal s, .literal t => decidable_of_iff (s = t) (by simp)
  | .field f, .field g => decidable_of_iff (f = g) (by simp)
  | .date s, .date t => decidable_of_iff (s = t) (by simp)
  | .sign, .sign => isTrue rfl
  | .group k as, .group l bs =>
    match instDecidableEqBracket k l, Node.decEqList as bs with
    | isTrue hk, isTrue hs => isTrue (by rw [hk, hs])
    | isFalse hk, _ => isFalse fun h => hk (Node.group.inj h).1
    | _, isFalse hs => isFalse fun h => hs (Node.group.inj h).2
  | .literal _, .field _ | .literal _, .date _ | .literal _, .sign | .literal _, .group _ _
  | .field _, .literal _ | .field _, .date _ | .field _, .sign | .field _, .group _ _
  | .date _, .literal _ | .date _, .field _ | .date _, .sign | .date _, .group _ _
  | .sign, .literal _ | .sign, .field _ | .sign, .date _ | .sign, .group _ _
  | .group _ _, .literal _ | .group _ _, .field _ | .group _ _, .date _ | .group _ _, .sign =>
    isFalse nofun

/-- Equality of lists of parts is decidable. -/
def Node.decEqList : (as bs : List Node) → Decidable (as = bs)
  | [], [] => isTrue rfl
  | a :: as, b :: bs =>
    match Node.decEq a b, Node.decEqList as bs with
    | isTrue h, isTrue hs => isTrue (by rw [h, hs])
    | isFalse h, _ => isFalse fun e => h (List.cons.inj e).1
    | _, isFalse hs => isFalse fun e => hs (List.cons.inj e).2
  | [], _ :: _ | _ :: _, [] => isFalse nofun

end

instance : DecidableEq Node := Node.decEq

instance : DecidableEq Layout := fun a b =>
  decidable_of_iff (a.nodes = b.nodes) (by cases a; cases b; simp)

/-! ## Captures -/

mutual

/-- The number of capturing groups in a part, itself included. -/
def Node.captureCount : Node → Nat
  | .group bracket children => (if bracket.captures then 1 else 0) + Node.captureCountList children
  | .literal _ | .field _ | .date _ | .sign => 0

/-- The number of capturing groups in a list of parts. -/
def Node.captureCountList : List Node → Nat
  | [] => 0
  | n :: ns => n.captureCount + Node.captureCountList ns

end

/-- The number of capturing groups in a layout, at any depth. -/
def Layout.captureCount (l : Layout) : Nat := Node.captureCountList l.nodes

/-! ## Fields -/

mutual

/-- The fields of a part, depth first and from left to right. -/
def Node.fields : Node → List Field
  | .field f => [f]
  | .group _ children => Node.fieldsList children
  | .literal _ | .date _ | .sign => []

/-- The fields of a list of parts, depth first and from left to right. -/
def Node.fieldsList : List Node → List Field
  | [] => []
  | n :: ns => n.fields ++ Node.fieldsList ns

end

/-- The fields of a layout, depth first and from left to right. -/
def Layout.fields (l : Layout) : List Field := Node.fieldsList l.nodes

end FieldLayout
