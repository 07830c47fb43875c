import FieldLayout.Layout.FieldCursor

/-!
# The walk of a field cursor

A cursor enters groups and leaves them again, and it holds what is left of each open group. What it
hands out is what a recursion over the parts collects.

A call of the cursor can take many turns, since it may open and close groups without meeting a
field. Opening a group lets the cursor hold more than before, so the number of turns is bounded by a
measure of everything that is pending and not by the number of open groups.

## Main definitions

* `FieldCursor.turn`: one turn of a call.
* `FieldCursor.Answers`: a call ends after a number of turns.
* `FieldCursor.after`: the cursor behind a number of calls.

## Main statements

* `FieldCursor.fieldsLeft_eq_of_advance`: each step hands out the first field that is left.
* `FieldCursor.drain_eq_fieldsLeft`: the whole walk hands out all fields that are left.
* `FieldCursor.exists_answers`: every call ends, and it ends with the answer of the cursor.
* `Layout.fieldCursor_hands_out_fields`: call by call, a cursor hands out the fields of its layout.
-/

namespace FieldLayout

namespace FieldCursor

/-- The fields of the pending parts, from the innermost group outwards. -/
def fieldsLeft (pending : List (List Node)) : List Field := pending.flatMap Node.fieldsList

theorem fieldsLeft_cons (ns : List Node) (outer : List (List Node)) :
    fieldsLeft (ns :: outer) = Node.fieldsList ns ++ fieldsLeft outer :=
  List.flatMap_cons

/-- A step hands out the first field that is left, and it stops when no field is left. -/
theorem fieldsLeft_eq_of_advance (pending : List (List Node)) :
    fieldsLeft pending =
      match advance pending with
      | none => []
      | some (f, rest) => f :: fieldsLeft rest := by
  fun_induction advance pending with
  | case1 => rfl
  | case2 outer ih => rwa [fieldsLeft_cons, Node.fieldsList, List.nil_append]
  | case3 f ns outer =>
    rw [fieldsLeft_cons, Node.fieldsList, Node.fields, List.append_assoc, ← fieldsLeft_cons]
    rfl
  | case4 b children ns outer ih =>
    rw [← ih, fieldsLeft_cons, fieldsLeft_cons, fieldsLeft_cons, Node.fieldsList, Node.fields,
      List.append_assoc]
  | case5 text ns outer ih | case6 run ns outer ih | case7 ns outer ih =>
    rw [← ih, fieldsLeft_cons, fieldsLeft_cons, Node.fieldsList, Node.fields, List.nil_append]

theorem drain_eq_fieldsLeft (pending : List (List Node)) : drain pending = fieldsLeft pending := by
  fun_induction drain pending with
  | case1 pending h => rw [fieldsLeft_eq_of_advance, h]
  | case2 pending f rest h ih => rw [fieldsLeft_eq_of_advance, h, ih]

/-! ## Turns -/

/-- What one turn of a call leads to. -/
inductive Turn where
  /-- Another turn is needed. -/
  | again (pending : List (List Node))
  /-- The call is over. -/
  | over (answer : Option Field) (pending : List (List Node))

/-- One turn looks at the next part of the innermost group. -/
def turn : List (List Node) → Turn
  | [] => .over none []
  | [] :: outer => .again outer
  | (.field f :: ns) :: outer => .over (some f) (ns :: outer)
  | (.group _ children :: ns) :: outer => .again (children :: ns :: outer)
  | (.literal _ :: ns) :: outer | (.date _ :: ns) :: outer | (.sign :: ns) :: outer =>
    .again (ns :: outer)

/-- A call that is over after a number of turns, with its answer and what is left pending. -/
inductive Answers : Nat → List (List Node) → Option Field → List (List Node) → Prop
  | over {pending rest : List (List Node)} {answer : Option Field}
      (h : turn pending = .over answer rest) : Answers 1 pending answer rest
  | again {turns : Nat} {pending mid rest : List (List Node)} {answer : Option Field}
      (h : turn pending = .again mid) (others : Answers turns mid answer rest) :
      Answers (turns + 1) pending answer rest

theorem steps_lt_of_turn {pending mid : List (List Node)} (h : turn pending = .again mid) :
    steps mid < steps pending := by
  unfold turn at h
  split at h
  all_goals cases h
  all_goals simp [steps, Node.visitsList, Node.visits]
  all_goals omega

/-- Another turn in front takes one step more than the turns behind it. -/
theorem exists_answers_again {pending mid rest : List (List Node)} {answer : Option Field}
    (h : turn pending = .again mid) (hmid : ∃ n ≤ steps mid + 1, Answers n mid answer rest) :
    ∃ n ≤ steps pending + 1, Answers n pending answer rest := by
  obtain ⟨n, hn, hanswers⟩ := hmid
  have hlt := steps_lt_of_turn h
  exact ⟨n + 1, by omega, .again h hanswers⟩

/-- Every call is over after finitely many turns, with the answer that the cursor gives. -/
theorem exists_answers (c : FieldCursor) :
    ∃ n ≤ steps c.pending + 1, Answers n c.pending c.next?.1 c.next?.2.pending := by
  obtain ⟨pending⟩ := c
  unfold next?
  dsimp only
  fun_induction advance pending with
  | case1 => exact ⟨1, by omega, .over rfl⟩
  | case2 outer ih => exact exists_answers_again rfl ih
  | case3 f ns outer => exact ⟨1, by omega, .over rfl⟩
  | case4 b children ns outer ih => exact exists_answers_again rfl ih
  | case5 text ns outer ih | case6 run ns outer ih | case7 ns outer ih =>
    exact exists_answers_again rfl ih

/-! ## Calls -/

/-- The cursor behind a number of calls. -/
def after (c : FieldCursor) : Nat → FieldCursor
  | 0 => c
  | k + 1 => c.next?.2.after k

theorem next?_eq_fieldsLeft (c : FieldCursor) :
    c.next?.1 = (fieldsLeft c.pending).head? ∧
      fieldsLeft c.next?.2.pending = (fieldsLeft c.pending).tail := by
  rw [fieldsLeft_eq_of_advance c.pending, next?]
  cases advance c.pending with
  | none => exact ⟨rfl, rfl⟩
  | some r => exact ⟨rfl, rfl⟩

/-- The calls hand out the fields that are left in order, and nothing from then on. -/
theorem next?_after (c : FieldCursor) (k : Nat) :
    (c.after k).next?.1 = (fieldsLeft c.pending)[k]? := by
  induction k generalizing c with
  | zero => rw [after, c.next?_eq_fieldsLeft.1, List.head?_eq_getElem?]
  | succ k ih => rw [after, ih, c.next?_eq_fieldsLeft.2, List.getElem?_tail]

theorem next?_after_eq_none {c : FieldCursor} (h : c.next?.1 = none) (k : Nat) :
    (c.after k).next?.1 = none := by
  rw [c.next?_eq_fieldsLeft.1, List.head?_eq_none_iff] at h
  rw [next?_after, h, List.getElem?_nil]

end FieldCursor

/-- A cursor hands out the fields of a layout in order. -/
theorem Layout.toList_fieldCursor (l : Layout) : l.fieldCursor.toList = l.fields := by
  rw [FieldCursor.toList, fieldCursor, FieldCursor.drain_eq_fieldsLeft, FieldCursor.fieldsLeft_cons,
    fields]
  exact List.append_nil _

/-- The calls of a cursor hand out the fields of its layout, depth first and from left to right, and
then nothing. Every call of any cursor is over after finitely many turns, and a cursor that has
nothing to hand out has nothing for any later call. -/
theorem Layout.fieldCursor_hands_out_fields (l : Layout) :
    l.fieldCursor.toList = l.fields ∧
      (∀ k, (l.fieldCursor.after k).next?.1 = l.fields[k]?) ∧
      (∀ c : FieldCursor, ∃ n ≤ FieldCursor.steps c.pending + 1,
        FieldCursor.Answers n c.pending c.next?.1 c.next?.2.pending) ∧
      ∀ c : FieldCursor, c.next?.1 = none → ∀ k, (c.after k).next?.1 = none := by
  refine ⟨l.toList_fieldCursor, fun k => ?_, FieldCursor.exists_answers,
    fun c => FieldCursor.next?_after_eq_none⟩
  rw [FieldCursor.next?_after, fieldCursor, ← FieldCursor.drain_eq_fieldsLeft,
    ← l.toList_fieldCursor]
  rfl

end FieldLayout
