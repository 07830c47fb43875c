import FieldLayout.Pattern.Search
import Mathlib.Data.List.Basic

/-!
# The ways of a plan

What a plan finds can be told without a program. From a place of a text a plan leads to other
places, in order of preference and with the places that it notes on the way. Plans that follow each
other lead on from each of these places in turn.

Repetitions without an upper limit are left out: their ways need not come to an end.

## Main definitions

* `Progress`: how far a match has come.
* `Plan.ways`: where a plan leads from a place, in order of preference.
* `Plan.bounded`: no repetition of the plan is without an upper limit.
* `Plan.Joins`: a quantity of plans is put together along sequences.

## Main statements

* `Plan.Joins.concat`: putting plans together keeps what is put together along sequences, such as
  the ways.
* `Plan.ways_repeated`: so does leaving out repetitions that do not repeat.
-/

namespace FieldLayout

/-- How far a match has come: its place in the text, and which places it noted, the latest first. -/
structure Progress where
  /-- The place in the text. -/
  place : Nat
  /-- The noted places with their numbers. -/
  marks : List (Nat × Nat)
  deriving DecidableEq, Repr, Inhabited

namespace Progress

/-- Reads a character of a set. -/
def read (text : Array Char) (set : CharRanges) (s : Progress) : List Progress :=
  match text[s.place]? with
  | some c => if set.contains c then [⟨s.place + 1, s.marks⟩] else []
  | none => []

/-- Reads the characters of a list one by one. -/
def spell (text : Array Char) : List Char → Progress → List Progress
  | [], s => [s]
  | c :: cs, s => (s.read text (.single c)).flatMap (spell text cs)

/-- Notes the place under a number. -/
def note (slot : Nat) (s : Progress) : Progress := ⟨s.place, (slot, s.place) :: s.marks⟩

/-- A number of rounds. -/
def rounds (round : Progress → List Progress) : Nat → Progress → List Progress
  | 0, s => [s]
  | n + 1, s => (round s).flatMap (rounds round n)

/-- Up to a number of rounds, as many as possible if greedy and as few as possible if not. -/
def upToRounds (round : Progress → List Progress) (greedy : Bool) : Nat → Progress → List Progress
  | 0, s => [s]
  | n + 1, s =>
    if greedy then (round s).flatMap (upToRounds round greedy n) ++ [s]
    else s :: (round s).flatMap (upToRounds round greedy n)

theorem spell_append (text : Array Char) (as bs : List Char) (s : Progress) :
    spell text (as ++ bs) s = (spell text as s).flatMap (spell text bs) := by
  induction as generalizing s with
  | nil => simp [spell]
  | cons a as ih =>
    rw [List.cons_append, spell, spell, List.flatMap_assoc]
    exact List.flatMap_congr fun u _ => ih u

end Progress

namespace Plan

mutual

/-- The places to which a plan leads from a place of a text, in order of preference. -/
def ways (text : Array Char) : Plan → Progress → List Progress
  | .empty, s => [s]
  | .text cs, s => s.spell text cs
  | .chars set _, s => s.read text set
  | .edge e, s => if e.holds text s.place then [s] else []
  | .seq items, s => waysAll text items s
  | .alt branches, s => waysAny text branches s
  | .group index body, s =>
    (body.ways text (s.note (Program.startSlot index))).map (·.note (Program.stopSlot index))
  | .times body min (some max) greedy, s =>
    (Progress.rounds (body.ways text) min s).flatMap
      (Progress.upToRounds (body.ways text) greedy (max - min))
  | .times _ _ none _, _ => []

/-- The places to which plans that follow each other lead. -/
def waysAll (text : Array Char) : List Plan → Progress → List Progress
  | [], s => [s]
  | p :: ps, s => (p.ways text s).flatMap (waysAll text ps)

/-- The places to which one of several plans leads, those of an earlier plan first. -/
def waysAny (text : Array Char) : List Plan → Progress → List Progress
  | [], _ => []
  | p :: ps, s => p.ways text s ++ waysAny text ps s

end

mutual

/-- No repetition is without an upper limit. -/
def bounded : Plan → Bool
  | .empty | .text _ | .chars _ _ | .edge _ => true
  | .seq items => boundedList items
  | .alt branches => boundedList branches
  | .group _ body => body.bounded
  | .times body _ max _ => max.isSome && body.bounded

/-- No repetition in a list is without an upper limit. -/
def boundedList : List Plan → Bool
  | [] => true
  | p :: ps => p.bounded && boundedList ps

end

/-! ## Sequences -/

/-- A quantity of plans that is put together along sequences. -/
structure Joins {M : Type} (join : M → M → M) (unit : M) (one : Plan → M) (all : List Plan → M) :
    Prop where
  assoc : ∀ a b c, join (join a b) c = join a (join b c)
  unit_join : ∀ a, join unit a = a
  join_unit : ∀ a, join a unit = a
  /-- The empty plan adds nothing. -/
  empty : one .empty = unit
  /-- A text is as good as two texts. -/
  text : ∀ as bs, one (.text (as ++ bs)) = join (one (.text as)) (one (.text bs))
  seq : ∀ ps, one (.seq ps) = all ps
  nil : all [] = unit
  cons : ∀ p ps, all (p :: ps) = join (one p) (all ps)

namespace Joins

variable {M : Type} {join : M → M → M} {unit : M} {one : Plan → M} {all : List Plan → M}
  (h : Joins join unit one all)
include h

theorem append (ps qs : List Plan) : all (ps ++ qs) = join (all ps) (all qs) := by
  induction ps with
  | nil => rw [List.nil_append, h.nil, h.unit_join]
  | cons p ps ih => rw [List.cons_append, h.cons, h.cons, ih, h.assoc]

theorem singleton (p : Plan) : all [p] = one p := by
  rw [h.cons, h.nil, h.join_unit]

theorem consItem (p : Plan) (ps : List Plan) : all (Plan.consItem p ps) = all (p :: ps) := by
  unfold Plan.consItem
  split
  · rw [h.cons, h.cons, h.cons, h.text, h.assoc]
  · rfl

theorem foldr_consItem (ps qs : List Plan) :
    all (ps.foldr Plan.consItem qs) = all (ps ++ qs) := by
  induction ps with
  | nil => rfl
  | cons p ps ih => rw [List.foldr_cons, h.consItem, List.cons_append, h.cons, h.cons, ih]

theorem consPlan (p : Plan) (ps : List Plan) : all (Plan.consPlan p ps) = all (p :: ps) := by
  unfold Plan.consPlan
  split
  · rw [h.cons, h.empty, h.unit_join]
  · rw [h.foldr_consItem, h.append, h.cons, h.seq]
  · exact h.consItem p ps

theorem ofItems (ps : List Plan) : one (Plan.ofItems ps) = all ps := by
  match ps with
  | [] => rw [Plan.ofItems, h.empty, h.nil]
  | [p] => exact (h.singleton p).symm
  | p :: q :: ps => exact h.seq (p :: q :: ps)

/-- Putting plans together keeps the quantity. -/
theorem concat (ps : List Plan) : one (Plan.concat ps) = all ps := by
  rw [Plan.concat, h.ofItems]
  induction ps with
  | nil => rfl
  | cons p ps ih => rw [List.foldr_cons, h.consPlan, h.cons, h.cons, ih]

end Joins

/-- The ways are put together along sequences. -/
theorem joins_ways (text : Array Char) :
    Joins (fun v w s => (v s).flatMap w) (fun s => [s]) (ways text) (waysAll text) where
  assoc u v w := by
    funext s
    exact List.flatMap_assoc
  unit_join v := by
    funext s
    exact List.flatMap_singleton v s
  join_unit v := by
    funext s
    exact List.flatMap_singleton' (v s)
  empty := by
    funext s
    rfl
  text as bs := by
    funext s
    exact s.spell_append text as bs
  seq ps := by
    funext s
    rfl
  nil := by
    funext s
    rfl
  cons p ps := by
    funext s
    rfl

theorem waysAll_append (text : Array Char) (ps qs : List Plan) (s : Progress) :
    waysAll text (ps ++ qs) s = (waysAll text ps s).flatMap (waysAll text qs) :=
  congrFun ((joins_ways text).append ps qs) s

/-- That repetitions have upper limits is put together along sequences. -/
theorem joins_bounded : Joins and true bounded boundedList where
  assoc := Bool.and_assoc
  unit_join := Bool.true_and
  join_unit := Bool.and_true
  empty := rfl
  text _ _ := rfl
  seq _ := rfl
  nil := rfl
  cons _ _ := rfl

/-- The greatest number of a group is put together along sequences. -/
theorem joins_lastGroup : Joins max 0 lastGroup lastGroupList where
  assoc := Nat.max_assoc
  unit_join := Nat.zero_max
  join_unit := Nat.max_zero
  empty := rfl
  text _ _ := rfl
  seq _ := rfl
  nil := rfl
  cons _ _ := rfl

variable (text : Array Char)

/-! ## Repetitions -/

/-- A repetition leads where its rounds lead, unless rounds that read nothing are left out. -/
theorem ways_repeated (body : Plan) (min max : Nat) (greedy : Bool)
    (h : body.readsNothing → min ≤ 1 ∧ max ≤ 1) (s : Progress) :
    (repeated body min (some max) greedy).ways text s =
      (Progress.rounds (body.ways text) min s).flatMap
        (Progress.upToRounds (body.ways text) greedy (max - min)) := by
  have hleast : (if body.readsNothing then Nat.min min 1 else min) = min := by
    split
    · exact Nat.min_eq_left (h ‹_›).1
    · rfl
  have hmost : (if body.readsNothing then some (Nat.min ((some max).getD 1) 1) else some max) =
      some max := by
    split
    · exact congrArg some (Nat.min_eq_left (h ‹_›).2)
    · rfl
  unfold repeated
  simp only [hleast, hmost, Option.some.injEq]
  split
  · next h₀ => simp [h₀, ways, Progress.rounds, Progress.upToRounds]
  · split
    · next h₁ => simp [h₁, Progress.rounds, Progress.upToRounds]
    · rfl

/-- A repetition is empty, its body, or a repetition of its body. -/
theorem repeated_cases {P : Plan → Prop} {body : Plan} {greedy : Bool} (min max : Nat)
    (empty : P .empty) (once : P body)
    (times : ∀ least most, P (.times body least (some most) greedy)) :
    P (repeated body min (some max) greedy) := by
  have hcases (least most : Nat) : P (if least = 0 ∧ some most = some 0 then .empty
      else if least = 1 ∧ some most = some 1 then body
      else .times body least (some most) greedy) := by
    split
    · exact empty
    · split
      · exact once
      · exact times least most
  unfold repeated
  cases body.readsNothing with
  | true => exact hcases (Nat.min min 1) (Nat.min max 1)
  | false => exact hcases min max

theorem bounded_repeated {body : Plan} (h : body.bounded) (min max : Nat) (greedy : Bool) :
    (repeated body min (some max) greedy).bounded :=
  repeated_cases (P := fun p => p.bounded) min max rfl h fun _ _ => h

theorem lastGroup_repeated_eq_zero {body : Plan} (h : body.lastGroup = 0) (min max : Nat)
    (greedy : Bool) : (repeated body min (some max) greedy).lastGroup = 0 :=
  repeated_cases (P := fun p => p.lastGroup = 0) min max rfl h fun _ _ => h

/-- A repetition of at most one round has the groups of its body. -/
theorem lastGroup_repeated_zero_one (body : Plan) (greedy : Bool) :
    (repeated body 0 (some 1) greedy).lastGroup = body.lastGroup := by
  unfold repeated
  cases body.readsNothing <;> rfl

/-! ## Sets -/

/-- Reading a character of a set with one member is reading that member. -/
theorem ways_ofRanges {set : CharRanges} (ascii : Bool)
    (h : ∀ c, set.only? = some c → set = .single c) (s : Progress) :
    (ofRanges set ascii).ways text s = s.read text set := by
  unfold ofRanges
  split
  · next c hc =>
    rw [h c hc]
    simp [ways, Progress.spell]
  · rfl

theorem readsNothing_ofRanges (set : CharRanges) (ascii : Bool) :
    (ofRanges set ascii).readsNothing = false := by
  unfold ofRanges
  split <;> rfl

theorem bounded_ofRanges (set : CharRanges) (ascii : Bool) : (ofRanges set ascii).bounded := by
  unfold ofRanges
  split <;> rfl

theorem lastGroup_ofRanges (set : CharRanges) (ascii : Bool) :
    (ofRanges set ascii).lastGroup = 0 := by
  unfold ofRanges
  split <;> rfl

end Plan

end FieldLayout
