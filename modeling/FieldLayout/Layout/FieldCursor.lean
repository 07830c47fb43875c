import FieldLayout.Layout.Basic

/-!
# Walking over fields one at a time

A cursor hands out the fields of a layout one by one. It holds the parts that are still to be
visited: the innermost open group first, behind it what is left of the groups around it.

## Main definitions

* `FieldCursor`: the parts still to be visited.
* `FieldCursor.next?`: the next field and the cursor behind it.
* `FieldCursor.toList`: all fields that are still to come.
-/

namespace FieldLayout

/-- The parts that are still to be visited, the innermost group first. -/
structure FieldCursor where
  /-- What is left of each open group. -/
  pending : List (List Node)

/-- The cursor before the first field of a layout. -/
def Layout.fieldCursor (l : Layout) : FieldCursor := ⟨[l.nodes]⟩

/-! ## A measure -/

mutual

/-- The number of steps that a visit of a part takes. -/
def Node.visits : Node → Nat
  | .group _ children => 2 + Node.visitsList children
  | .literal _ | .field _ | .date _ | .sign => 1

/-- The number of steps that a visit of a list of parts takes. -/
def Node.visitsList : List Node → Nat
  | [] => 0
  | n :: ns => n.visits + Node.visitsList ns

end

namespace FieldCursor

/-- The number of steps that are left: one for each open group and those for its parts. -/
def steps : List (List Node) → Nat
  | [] => 0
  | ns :: rest => 1 + Node.visitsList ns + steps rest

/-- The next field and the parts behind it, or `none` when no field is left. -/
def advance : List (List Node) → Option (Field × List (List Node))
  | [] => none
  | [] :: outer => advance outer
  | (.field f :: ns) :: outer => some (f, ns :: outer)
  | (.group _ children :: ns) :: outer => advance (children :: ns :: outer)
  | (.literal _ :: ns) :: outer => advance (ns :: outer)
  | (.date _ :: ns) :: outer => advance (ns :: outer)
  | (.sign :: ns) :: outer => advance (ns :: outer)
termination_by pending => steps pending
decreasing_by all_goals simp [steps, Node.visitsList, Node.visits] <;> omega

theorem steps_of_advance {pending rest : List (List Node)} {f : Field}
    (h : advance pending = some (f, rest)) : steps rest < steps pending := by
  fun_induction advance pending with
  | case1 => cases h
  | case2 outer ih => have := ih h; simp [steps, Node.visitsList]; omega
  | case3 g ns outer => cases h; simp [steps, Node.visitsList, Node.visits]
  | case4 k children ns outer ih =>
    have := ih h; simp [steps, Node.visitsList, Node.visits] at this ⊢; omega
  | case5 t ns outer ih => have := ih h; simp [steps, Node.visitsList, Node.visits] at this ⊢; omega
  | case6 t ns outer ih => have := ih h; simp [steps, Node.visitsList, Node.visits] at this ⊢; omega
  | case7 ns outer ih => have := ih h; simp [steps, Node.visitsList, Node.visits] at this ⊢; omega

/-- The next field, if any, and the cursor behind it. A cursor that has run out stays so. -/
def next? (c : FieldCursor) : Option Field × FieldCursor :=
  match advance c.pending with
  | some (f, rest) => (some f, ⟨rest⟩)
  | none => (none, ⟨[]⟩)

/-- The fields that successive calls hand out until none is left. -/
def drain (pending : List (List Node)) : List Field :=
  match _h : advance pending with
  | none => []
  | some (f, rest) => f :: drain rest
termination_by steps pending
decreasing_by exact steps_of_advance _h

/-- All fields that are still to come. -/
def toList (c : FieldCursor) : List Field := drain c.pending

end FieldCursor

end FieldLayout
