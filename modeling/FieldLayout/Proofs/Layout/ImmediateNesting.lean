import FieldLayout.Proofs.Layout.Nesting

/-!
# Capturing groups right inside each other

A pattern is refused when a capturing group is an immediate part of another one. The parts of a
layout are written one after the other and a group is looked at before its content, so the fault is
that of the first such group when groups are listed depth first and from left to right. An optional
group between two capturing ones always saves the pattern, however far apart they are.

## Main definitions

* `Node.NestsImmediately`: a capturing group is an immediate part of another one.
* `Layout.groupPlaces`: the groups of a layout with the brackets around them, in order.
* `GroupPlace.IsScreened`: an optional group stands in front of every capturing group around.

## Main statements

* `Node.fault?_patternTextList`: the pattern is refused for the first group that is nested.
* `Layout.patternText_refused_iff_nests`: which layouts have no pattern, and what is reported.
-/

namespace FieldLayout

/-! ## Groups in order -/

/-- A group as it stands in a layout. -/
structure GroupPlace where
  /-- The brackets of the groups around it, the innermost one first. -/
  around : List Bracket
  bracket : Bracket
  deriving DecidableEq, Repr

mutual

/-- The groups of a part, depth first and from left to right. A group comes before those in it. -/
def Node.groupPlaces (around : List Bracket) : Node → List GroupPlace
  | .group b children => ⟨around, b⟩ :: Node.groupPlacesList (b :: around) children
  | .literal _ | .field _ | .date _ | .sign => []

/-- The groups of a list of parts, depth first and from left to right. -/
def Node.groupPlacesList (around : List Bracket) : List Node → List GroupPlace
  | [] => []
  | n :: ns => n.groupPlaces around ++ Node.groupPlacesList around ns

end

/-- The groups of a layout, depth first and from left to right. -/
def Layout.groupPlaces (l : Layout) : List GroupPlace := Node.groupPlacesList [] l.nodes

/-- The innermost of the brackets captures. -/
def Bracket.innermostCaptures (around : List Bracket) : Bool := around.head?.any Bracket.captures

namespace GroupPlace

/-- The group captures and is an immediate part of a group that captures. -/
def isNested (g : GroupPlace) : Bool := g.bracket.captures && Bracket.innermostCaptures g.around

/-- An optional group stands between the group and every capturing group around it. -/
def IsScreened (g : GroupPlace) : Prop :=
  ∀ inner b outer, g.around = inner ++ b :: outer → b.captures → .optional ∈ inner

/-- The innermost group around decides: it captures, or it is the optional group that is needed. -/
theorem isScreened_iff {g : GroupPlace} :
    g.IsScreened ↔ Bracket.innermostCaptures g.around = false := by
  obtain ⟨around, b⟩ := g
  cases around with
  | nil =>
    refine iff_of_true (fun inner b outer h => ?_) rfl
    exact absurd h.symm (List.append_ne_nil_of_right_ne_nil inner (List.cons_ne_nil b outer))
  | cons c around =>
    constructor
    · intro h
      by_contra hc
      exact absurd (h [] c around rfl (by simpa [Bracket.innermostCaptures] using hc)) nofun
    · rintro hc inner b' outer h hb'
      cases inner with
      | nil =>
        obtain ⟨rfl, -⟩ := List.cons.inj h
        simp [Bracket.innermostCaptures, hb'] at hc
      | cons d inner =>
        obtain ⟨rfl, -⟩ := List.cons.inj h
        cases c with
        | optional => exact List.mem_cons_self
        | capture | reformat => cases hc

instance (g : GroupPlace) : Decidable g.IsScreened := decidable_of_iff _ isScreened_iff.symm

end GroupPlace

/-! ## The fault of a pattern -/

/-- The fault for which something is refused. -/
def fault? {α : Type} : Except Fault α → Option Fault
  | .ok _ => none
  | .error e => some e

theorem fault?_eq_some_iff {α : Type} {x : Except Fault α} {e : Fault} :
    fault? x = some e ↔ x = .error e := by
  cases x <;> simp [fault?]

theorem fault?_eq_none_iff {α : Type} {x : Except Fault α} :
    fault? x = none ↔ ∃ a, x = .ok a := by
  cases x <;> simp [fault?]

namespace Node

variable {inCapture : Bool} {ns : List Node}

theorem fault?_patternTextList_cons (n : Node) (ns : List Node) :
    fault? (patternTextList inCapture (n :: ns)) =
      (fault? (n.patternText inCapture)).or (fault? (patternTextList inCapture ns)) := by
  rw [patternTextList]
  cases n.patternText inCapture with
  | error e => rfl
  | ok first => cases patternTextList inCapture ns <;> rfl

theorem fault?_patternText_group (b : Bracket) (children : List Node) :
    fault? ((Node.group b children).patternText inCapture) =
      if b.captures && inCapture then some (.nestedCapture b.opening none)
      else fault? (patternTextList b.captures children) := by
  rw [patternText]
  cases hb : b.captures with
  | true =>
    cases inCapture with
    | true => rfl
    | false => cases patternTextList true children <;> rfl
  | false => cases patternTextList false children <;> rfl

/-- The pattern of consecutive parts is refused for the first group that is nested. -/
theorem fault?_patternTextList (around : List Bracket) (ns : List Node) :
    fault? (patternTextList (Bracket.innermostCaptures around) ns) =
      ((groupPlacesList around ns).find? GroupPlace.isNested).map
        fun g => .nestedCapture g.bracket.opening none := by
  -- The flag is all that the pattern keeps of the brackets around.
  induction ns using Node.sequence_induction generalizing around with
  | nil => rfl
  | literal _ ns ih | field _ ns ih | date _ ns ih | sign ns ih =>
    rw [fault?_patternTextList_cons, ih]
    rfl
  | group b children ns ihc ih =>
    have hflag : b.captures = Bracket.innermostCaptures (b :: around) := rfl
    rw [fault?_patternTextList_cons, fault?_patternText_group, ih, groupPlacesList, groupPlaces,
      List.cons_append, List.find?_cons, List.find?_append, GroupPlace.isNested]
    cases hnested : b.captures && Bracket.innermostCaptures around with
    | true => rfl
    | false =>
      rw [hflag, ihc]
      exact (Option.map_or ..).symm

/-! ## Immediate parts -/

/-- The part is a capturing group. -/
def isCapture : Node → Bool
  | .group b _ => b.captures
  | .literal _ | .field _ | .date _ | .sign => false

/-- A capturing group, at any depth, has another one as an immediate part. -/
def NestsImmediately (ns : List Node) : Prop :=
  ∃ b children m, Occurs (.group b children) ns ∧ b.captures ∧ m ∈ children ∧ m.isCapture

theorem not_nestsImmediately_nil : ¬ NestsImmediately [] := by
  rintro ⟨b, children, m, h, -⟩
  exact not_occurs_nil h

theorem nestsImmediately_cons {n : Node} : NestsImmediately (n :: ns) ↔
    (∃ b children, n = .group b children ∧
      ((b.captures ∧ ∃ m ∈ children, m.isCapture) ∨ NestsImmediately children)) ∨
    NestsImmediately ns := by
  constructor
  · rintro ⟨b, children, m, hoccurs, hb, hm, hcapture⟩
    rcases occurs_cons.1 hoccurs with rfl | ⟨c, inner, rfl, hinner⟩ | hns
    · exact .inl ⟨b, children, rfl, .inl ⟨hb, m, hm, hcapture⟩⟩
    · exact .inl ⟨c, inner, rfl, .inr ⟨b, children, m, hinner, hb, hm, hcapture⟩⟩
    · exact .inr ⟨b, children, m, hns, hb, hm, hcapture⟩
  · rintro (⟨b, children, rfl, ⟨hb, m, hm, hcapture⟩ | hchildren⟩ | hns)
    · exact ⟨b, children, m, .here List.mem_cons_self, hb, hm, hcapture⟩
    · obtain ⟨c, inner, m, hinner, hc⟩ := hchildren
      exact ⟨c, inner, m, .inside List.mem_cons_self hinner, hc⟩
    · obtain ⟨c, inner, m, hinner, hc⟩ := hns
      exact ⟨c, inner, m, occurs_cons.2 (.inr (.inr hinner)), hc⟩

/-- Among the groups of parts one is nested if a capturing group is an immediate part of another
one, or if one of the parts captures right inside a capturing group around them all. -/
theorem exists_isNested_iff (around : List Bracket) (ns : List Node) :
    (∃ g ∈ groupPlacesList around ns, g.isNested) ↔
      (Bracket.innermostCaptures around ∧ ∃ m ∈ ns, m.isCapture) ∨ NestsImmediately ns := by
  induction ns using Node.sequence_induction generalizing around with
  | nil => simp [groupPlacesList, not_nestsImmediately_nil]
  | literal _ ns ih | field _ ns ih | date _ ns ih | sign ns ih =>
    simp [groupPlacesList, groupPlaces, nestsImmediately_cons, isCapture, ih]
  | group b children ns ihc ih =>
    have hhere : (∃ g ∈ groupPlacesList around (.group b children :: ns), g.isNested) ↔
        (b.captures ∧ Bracket.innermostCaptures around) ∨
          (∃ g ∈ groupPlacesList (b :: around) children, g.isNested) ∨
          ∃ g ∈ groupPlacesList around ns, g.isNested := by
      simp [groupPlacesList, groupPlaces, GroupPlace.isNested, or_and_right, exists_or]
    have hgroup : NestsImmediately (.group b children :: ns) ↔
        ((b.captures ∧ ∃ m ∈ children, m.isCapture) ∨ NestsImmediately children) ∨
          NestsImmediately ns := by
      rw [nestsImmediately_cons]
      simp
    have hfirst : (∃ m ∈ Node.group b children :: ns, m.isCapture) ↔
        b.captures ∨ ∃ m ∈ ns, m.isCapture := by
      simp [isCapture]
    have hflag : Bracket.innermostCaptures (b :: around) = b.captures := rfl
    rw [hhere, ihc, ih, hgroup, hfirst, hflag, and_or_left]
    simp only [and_comm, or_assoc, or_left_comm]

end Node

/-! ## Layouts -/

namespace Layout

theorem fault?_patternText (l : Layout) :
    fault? l.patternText = (l.groupPlaces.find? GroupPlace.isNested).map
      fun g => .nestedCapture g.bracket.opening none := by
  have hnodes := Node.fault?_patternTextList [] l.nodes
  have hflag : Bracket.innermostCaptures [] = false := rfl
  rw [hflag] at hnodes
  rw [groupPlaces, ← hnodes, patternText]
  cases Node.patternTextList false l.nodes <;> rfl

theorem patternText_eq_error_iff {l : Layout} {e : Fault} : l.patternText = .error e ↔
    ∃ g, l.groupPlaces.find? GroupPlace.isNested = some g ∧
      e = .nestedCapture g.bracket.opening none := by
  rw [← fault?_eq_some_iff, fault?_patternText, Option.map_eq_some_iff]
  simp only [eq_comm]

theorem exists_patternText_eq_ok_iff {l : Layout} :
    (∃ text, l.patternText = .ok text) ↔ ∀ g ∈ l.groupPlaces, g.isNested = false := by
  rw [← fault?_eq_none_iff, fault?_patternText, Option.map_eq_none_iff, List.find?_eq_none]
  simp only [Bool.not_eq_true]

/-- A layout has no pattern if and only if a capturing group is an immediate part of another one.
The fault is that of the first such part, depth first and from left to right. A group screened by an
optional one is never such a part, and there is a pattern if an optional group stands between any
two capturing groups of which one is inside the other. -/
theorem patternText_refused_iff_nests (l : Layout) :
    ((∃ e, l.patternText = .error e) ↔ Node.NestsImmediately l.nodes) ∧
      (∀ e, l.patternText = .error e ↔
        ∃ g, l.groupPlaces.find? GroupPlace.isNested = some g ∧
          e = .nestedCapture g.bracket.opening none) ∧
      (∀ g ∈ l.groupPlaces, g.IsScreened → g.isNested = false) ∧
      ((∃ text, l.patternText = .ok text) ↔
        ∀ g ∈ l.groupPlaces, g.bracket.captures → g.IsScreened) := by
  refine ⟨?_, fun e => patternText_eq_error_iff, fun g _ hg => ?_, ?_⟩
  · have hnested := Node.exists_isNested_iff [] l.nodes
    have hflag : Bracket.innermostCaptures [] = false := rfl
    rw [hflag] at hnested
    have hnone : (∃ e, l.patternText = .error e) ↔ ¬ ∃ text, l.patternText = .ok text := by
      cases l.patternText <;> simp
    rw [hnone, exists_patternText_eq_ok_iff, groupPlaces]
    simpa using hnested
  · rw [GroupPlace.isNested, GroupPlace.isScreened_iff.1 hg, Bool.and_false]
  · rw [exists_patternText_eq_ok_iff]
    refine forall₂_congr fun g _ => ?_
    rw [GroupPlace.isScreened_iff, GroupPlace.isNested]
    cases g.bracket.captures <;> simp

/-- Two groups are nested. The one that comes first is found further inside. -/
example : patternText ⟨[.group .optional [.group .capture [.sign, .group .reformat []]],
    .group .reformat [.group .capture []]]⟩ = .error (.nestedCapture '<' none) := by decide

end Layout

end FieldLayout
