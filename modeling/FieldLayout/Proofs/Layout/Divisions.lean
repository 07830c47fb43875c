import FieldLayout.Proofs.Layout.Sequences
import Mathlib.Computability.Language

/-!
# What a layout describes

A layout describes values without any pattern: a literal stands for itself, a field for a bounded
number of characters of its set, a date and a sign for nothing, and an optional group for its
content or for nothing.

A value may be divided along a layout in several ways. They differ in the choices made from left to
right: whether an optional group is entered, and how many characters a field takes. To enter is
preferred to skipping, and to take more to taking less; the first choice that differs decides.

## Main definitions

* `Layout.language`: the values that a layout describes.
* `Choice`, `Division`: the choices of a division and the pieces of its capturing groups.
* `Layout.Divides`: a value is divided along a layout.
* `Layout.Prefers`: a division comes before all others.

## Main statements

* `Layout.mem_language_iff`: a layout describes the values that can be divided along it.
* `Layout.Prefers.unique`: a value has one preferred division at most.
-/

namespace FieldLayout

/-! ## The language of a layout -/

mutual

/-- The values that a part describes. -/
def Node.language : Node → Language Char
  | .literal text => {text.toList}
  | .field f =>
    {cs | f.min.toNat ≤ cs.length ∧ cs.length ≤ f.max.toNat ∧ ∀ c ∈ cs, f.charset.contains c}
  | .date _ | .sign => 1
  | .group .optional children => 1 + Node.languageList children
  | .group .capture children | .group .reformat children => Node.languageList children

/-- The values that consecutive parts describe. -/
def Node.languageList : List Node → Language Char
  | [] => 1
  | n :: ns => n.language * Node.languageList ns

end

/-- The values that a layout describes. -/
def Layout.language (l : Layout) : Language Char := Node.languageList l.nodes

/-! ## Divisions -/

/-- A choice that is left open by a layout. -/
inductive Choice where
  /-- An optional group is entered. -/
  | enter
  /-- An optional group is skipped. -/
  | skip
  /-- A field takes a number of characters. -/
  | take (length : Nat)
  deriving DecidableEq, Repr

/-- A choice is preferred to another one of the same kind. -/
def Choice.Before : Choice → Choice → Prop
  | .enter, .skip => True
  | .take m, .take n => n < m
  | _, _ => False

/-- Choices come before others if the first choice that differs is preferred. -/
def Choice.Earlier (as bs : List Choice) : Prop :=
  ∃ common a b as' bs', as = common ++ a :: as' ∧ bs = common ++ b :: bs' ∧ a.Before b

/-- How a value is divided along a layout. -/
structure Division where
  /-- The choices, from left to right. -/
  choices : List Choice
  /-- The pieces that the capturing groups take, in the order in which these groups are entered. -/
  captured : List (List Char)
  deriving DecidableEq, Repr

/-- A value is divided along consecutive parts. -/
inductive Node.Divides : List Node → List Char → Division → Prop
  /-- Nothing is left. -/
  | nil : Divides [] [] ⟨[], []⟩
  /-- A literal takes its own text. -/
  | literal {ns : List Node} {cs : List Char} {d : Division} (text : String)
      (rest : Divides ns cs d) : Divides (.literal text :: ns) (text.toList ++ cs) d
  /-- A field takes a number of characters of its set. -/
  | field {ns : List Node} {cs : List Char} {d : Division} (f : Field) (piece : List Char)
      (hmin : f.min.toNat ≤ piece.length) (hmax : piece.length ≤ f.max.toNat)
      (hset : ∀ c ∈ piece, f.charset.contains c) (rest : Divides ns cs d) :
      Divides (.field f :: ns) (piece ++ cs) ⟨.take piece.length :: d.choices, d.captured⟩
  /-- A date takes nothing. -/
  | date {ns : List Node} {cs : List Char} {d : Division} (run : String) (rest : Divides ns cs d) :
      Divides (.date run :: ns) cs d
  /-- A sign takes nothing. -/
  | sign {ns : List Node} {cs : List Char} {d : Division} (rest : Divides ns cs d) :
      Divides (.sign :: ns) cs d
  /-- An optional group takes what its content takes. -/
  | enter {children ns : List Node} {piece cs : List Char} {inner d : Division}
      (content : Divides children piece inner) (rest : Divides ns cs d) :
      Divides (.group .optional children :: ns) (piece ++ cs)
        ⟨.enter :: (inner.choices ++ d.choices), inner.captured ++ d.captured⟩
  /-- An optional group takes nothing. -/
  | skip {children ns : List Node} {cs : List Char} {d : Division} (rest : Divides ns cs d) :
      Divides (.group .optional children :: ns) cs ⟨.skip :: d.choices, d.captured⟩
  /-- A capturing group takes what its content takes, which is captured. -/
  | capture {bracket : Bracket} {children ns : List Node} {piece cs : List Char}
      {inner d : Division} (hb : bracket.captures) (content : Divides children piece inner)
      (rest : Divides ns cs d) :
      Divides (.group bracket children :: ns) (piece ++ cs)
        ⟨inner.choices ++ d.choices, piece :: (inner.captured ++ d.captured)⟩

/-- The whole of a value is divided along a layout. -/
def Layout.Divides (l : Layout) (value : List Char) (d : Division) : Prop :=
  Node.Divides l.nodes value d

/-- A division of a value comes before all other divisions of it. -/
def Layout.Prefers (l : Layout) (value : List Char) (d : Division) : Prop :=
  l.Divides value d ∧ ∀ e, l.Divides value e → e = d ∨ Choice.Earlier d.choices e.choices

/-! ## Order -/

theorem Choice.Before.asymm {a b : Choice} (h : a.Before b) : ¬ b.Before a := by
  cases a <;> cases b <;> simp_all [Choice.Before]
  omega

theorem Choice.Before.ne {a b : Choice} (h : a.Before b) : a ≠ b := by
  rintro rfl
  exact h.asymm h

namespace Choice.Earlier

variable {as bs : List Choice}

theorem of_before {a b : Choice} (h : a.Before b) (as bs : List Choice) :
    Earlier (a :: as) (b :: bs) :=
  ⟨[], a, b, as, bs, rfl, rfl, h⟩

/-- What follows the first difference does not matter. -/
theorem append_right (h : Earlier as bs) (as' bs' : List Choice) :
    Earlier (as ++ as') (bs ++ bs') := by
  obtain ⟨common, a, b, xs, ys, rfl, rfl, hab⟩ := h
  exact ⟨common, a, b, xs ++ as', ys ++ bs', by simp, by simp, hab⟩

/-- Common choices in front do not matter. -/
theorem append_left (h : Earlier as bs) (front : List Choice) :
    Earlier (front ++ as) (front ++ bs) := by
  obtain ⟨common, a, b, xs, ys, rfl, rfl, hab⟩ := h
  exact ⟨front ++ common, a, b, xs, ys, by simp, by simp, hab⟩

theorem cons (h : Earlier as bs) (c : Choice) : Earlier (c :: as) (c :: bs) := h.append_left [c]

/-- Of two lists of choices at most one comes before the other. -/
theorem asymm (h : Earlier as bs) : ¬ Earlier bs as := by
  obtain ⟨common, a, b, xs, ys, rfl, rfl, hab⟩ := h
  rintro ⟨common', b', a', ys', xs', hb, ha, hba⟩
  -- The first differences stand at the same place, since the parts before them agree.
  induction common generalizing common' with
  | nil =>
    cases common' with
    | nil =>
      cases hb
      cases ha
      exact hab.asymm hba
    | cons c common' =>
      cases hb
      cases ha
      exact hab.ne rfl
  | cons c common ih =>
    cases common' with
    | nil =>
      cases hb
      cases ha
      exact hba.ne rfl
    | cons c' common' =>
      exact ih common' (List.cons.inj hb).2 (List.cons.inj ha).2

end Choice.Earlier

/-- A value has one preferred division at most. -/
theorem Layout.Prefers.unique {l : Layout} {value : List Char} {d e : Division}
    (hd : l.Prefers value d) (he : l.Prefers value e) : d = e := by
  rcases hd.2 e he.1 with rfl | hde
  · rfl
  · rcases he.2 d hd.1 with rfl | hed
    · rfl
    · exact absurd hed hde.asymm

/-! ## Language and divisions -/

/-- Consecutive parts describe the values that can be divided along them. -/
theorem Node.mem_languageList_iff (ns : List Node) (cs : List Char) :
    cs ∈ Node.languageList ns ↔ ∃ d, Node.Divides ns cs d := by
  constructor
  · intro h
    induction ns using Node.sequence_induction generalizing cs with
    | nil =>
      obtain rfl : cs = [] := h
      exact ⟨_, .nil⟩
    | literal text ns ih =>
      obtain ⟨_, rfl, rest, hrest, rfl⟩ := Language.mem_mul.1 h
      obtain ⟨d, hd⟩ := ih rest hrest
      exact ⟨d, .literal text hd⟩
    | field f ns ih =>
      obtain ⟨piece, ⟨hmin, hmax, hset⟩, rest, hrest, rfl⟩ := Language.mem_mul.1 h
      obtain ⟨d, hd⟩ := ih rest hrest
      exact ⟨_, .field f piece hmin hmax hset hd⟩
    | date run ns ih =>
      obtain ⟨_, rfl, rest, hrest, rfl⟩ := Language.mem_mul.1 h
      obtain ⟨d, hd⟩ := ih rest hrest
      exact ⟨d, .date run hd⟩
    | sign ns ih =>
      obtain ⟨_, rfl, rest, hrest, rfl⟩ := Language.mem_mul.1 h
      obtain ⟨d, hd⟩ := ih rest hrest
      exact ⟨d, .sign hd⟩
    | group bracket children ns ihc ih =>
      obtain ⟨piece, hpiece, rest, hrest, rfl⟩ := Language.mem_mul.1 h
      obtain ⟨d, hd⟩ := ih rest hrest
      cases bracket with
      | optional =>
        rcases hpiece with rfl | hpiece
        · exact ⟨_, .skip hd⟩
        · obtain ⟨inner, hinner⟩ := ihc piece hpiece
          exact ⟨_, .enter hinner hd⟩
      | capture =>
        obtain ⟨inner, hinner⟩ := ihc piece hpiece
        exact ⟨_, .capture rfl hinner hd⟩
      | reformat =>
        obtain ⟨inner, hinner⟩ := ihc piece hpiece
        exact ⟨_, .capture rfl hinner hd⟩
  · rintro ⟨d, hd⟩
    induction hd with
    | nil => rfl
    | literal text _ ih => exact Language.append_mem_mul rfl ih
    | field f piece hmin hmax hset _ ih => exact Language.append_mem_mul ⟨hmin, hmax, hset⟩ ih
    | date run _ ih => exact Language.append_mem_mul (a := []) rfl ih
    | sign _ ih => exact Language.append_mem_mul (a := []) rfl ih
    | enter _ _ ihc ih => exact Language.append_mem_mul (Or.inr ihc) ih
    | skip _ ih => exact Language.append_mem_mul (a := []) (Or.inl rfl) ih
    | @capture bracket _ _ _ _ _ _ hb _ _ ihc ih =>
      cases bracket with
      | optional => cases hb
      | capture => exact Language.append_mem_mul ihc ih
      | reformat => exact Language.append_mem_mul ihc ih

/-- A layout describes the values that can be divided along it. -/
theorem Layout.mem_language_iff (l : Layout) (value : List Char) :
    value ∈ l.language ↔ ∃ d, l.Divides value d :=
  Node.mem_languageList_iff l.nodes value

end FieldLayout
