import FieldLayout.Pattern.Edge

/-!
# The structure of a pattern

## Main definitions

* `Expr`: the tree of a pattern as it is written.
* `Expr.depth`: how deep the tree is.
-/

namespace FieldLayout

/-- The tree of a pattern. -/
inductive Expr where
  /-- The empty text. -/
  | empty
  /-- One character of a set. The flag says that only bytes of the ASCII range are meant; the number
  tells how deep the brackets of the class are nested. -/
  | chars (set : CharRanges) (ascii : Bool) (nesting : Nat)
  /-- A place that meets a condition. -/
  | edge (e : Edge)
  /-- Several items, one after the other. -/
  | seq (items : List Expr)
  /-- One of several alternatives, an earlier one rather than a later one. -/
  | alt (branches : List Expr)
  /-- A group, with a number if it captures. -/
  | group (index : Option Nat) (body : Expr)
  /-- A repetition, as often as possible if greedy and as rarely as possible if not. -/
  | times (body : Expr) (min : Nat) (max : Option Nat) (greedy : Bool)
  deriving Inhabited

mutual

/-- The nesting of a tree. -/
def Expr.depth : Expr → Nat
  | .empty | .edge _ => 0
  | .chars _ _ nesting => nesting
  | .seq items => 1 + Expr.depthList items
  | .alt branches => 1 + Expr.depthList branches
  | .group _ body => 1 + body.depth
  | .times body _ _ _ => 1 + body.depth

/-- The deepest nesting of a list of trees. -/
def Expr.depthList : List Expr → Nat
  | [] => 0
  | e :: es => max e.depth (Expr.depthList es)

end

/-- The deepest nesting of a pattern that is accepted. -/
def Expr.maxDepth : Nat := 250

end FieldLayout
