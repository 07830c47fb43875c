import FieldLayout.Pattern.Program
import Std.Data.HashSet

/-!
# Searching

A program is run on a text by following one thread at a time. Where a thread can go on in several
ways the others wait, and they are taken up in order of preference when it fails. At first there is
a thread for each place of the text, so that a match further to the left comes first.

No instruction is tried twice at the same place. The second thread could only repeat what the first
one did, and a loop that reads nothing comes to an end.

## Main definitions

* `Thread`: a way through a program.
* `Program.moves`: the ways in which a thread can go on.
* `Program.run`: follows threads until one of them is complete.
* `Program.search`: the preferred match in a text.

## Main statements

* `Program.untried_insert_lt`: each attempt leaves fewer attempts.
-/

namespace FieldLayout

/-- A stretch of a text, from a place up to but not including another. -/
structure Span where
  /-- The first place. -/
  start : Nat
  /-- The place behind the last character. -/
  stop : Nat
  deriving DecidableEq, Repr, Inhabited

/-- A way through a program: where it stands, and which places it noted, the latest first. -/
structure Thread where
  /-- The address of the next instruction. -/
  address : Nat
  /-- The place in the text. -/
  place : Nat
  /-- The noted places with their numbers. -/
  marks : List (Nat × Nat)
  deriving DecidableEq, Repr, Inhabited

/-- The latest span of a group. -/
def Thread.span? (t : Thread) (index : Nat) : Option Span :=
  match t.marks.lookup (Program.startSlot index), t.marks.lookup (Program.stopSlot index) with
  | some start, some stop => some ⟨start, stop⟩
  | _, _ => none

namespace Program

/-- The ways in which a thread can go on, in order of preference. -/
def moves (p : Program) (text : Array Char) (t : Thread) : List Thread :=
  match p.code[t.address]? with
  | some (.read set next) =>
    match text[t.place]? with
    | some c => if set.contains c then [⟨next, t.place + 1, t.marks⟩] else []
    | none => []
  | some (.edge e next) => if e.holds text t.place then [⟨next, t.place, t.marks⟩] else []
  | some (.mark slot next) => [⟨next, t.place, (slot, t.place) :: t.marks⟩]
  | some (.fork targets) => targets.map fun next => ⟨next, t.place, t.marks⟩
  | some .accept | none => []

/-- The thread is complete. -/
def accepts (p : Program) (t : Thread) : Bool :=
  match p.code[t.address]? with
  | some .accept => true
  | _ => false

/-- The number of a pair of an instruction and a place, row by row. -/
def attempt (text : Array Char) (t : Thread) : Nat := t.address * (text.size + 1) + t.place

/-- The number of pairs of an instruction and a place. -/
def attempts (p : Program) (text : Array Char) : Nat := p.code.size * (text.size + 1)

/-- The pairs of an instruction and a place that have been tried. -/
abbrev Tried : Type := Std.HashSet Nat

/-- The number of pairs of an instruction and a place that have not been tried. -/
def untried (p : Program) (text : Array Char) (tried : Tried) : Nat :=
  (List.range (p.attempts text)).countP fun n => !tried.contains n

/-- A list has fewer members with a property than with a weaker one, if one of them makes the
difference. -/
theorem countP_lt_countP {α : Type} {q r : α → Bool} {l : List α} {a : α}
    (hle : ∀ b ∈ l, q b → r b) (ha : a ∈ l) (hq : ¬ q a) (hr : r a) : l.countP q < l.countP r := by
  induction l with
  | nil => cases ha
  | cons b l ih =>
    have hle' : ∀ c ∈ l, q c → r c := fun c hc => hle c (List.mem_cons_of_mem _ hc)
    have hmono : l.countP q ≤ l.countP r := List.countP_mono_left hle'
    rw [List.countP_cons, List.countP_cons]
    rcases List.mem_cons.1 ha with rfl | ha
    · simp [hq, hr]
      omega
    · have := ih hle' ha
      have hb := hle b List.mem_cons_self
      by_cases hqb : q b
      · simp [hqb, hb hqb, this]
      · simp only [hqb, Bool.false_eq_true, if_false]
        omega

/-- Each attempt leaves fewer attempts. -/
theorem untried_insert_lt {p : Program} {text : Array Char} {tried : Tried} {n : Nat}
    (hn : n < p.attempts text) (ht : ¬ tried.contains n) :
    p.untried text (tried.insert n) < p.untried text tried :=
  countP_lt_countP (fun m _ hm => by simp_all [Std.HashSet.contains_insert])
    (List.mem_range.2 hn) (by simp) (by simpa using ht)

/-- Follows threads, the first one first, until one of them is complete. -/
def run (p : Program) (text : Array Char) (tried : Tried) : List Thread → Option Thread
  | [] => none
  | t :: rest =>
    if p.accepts t then some t
    else if _h : attempt text t < p.attempts text ∧ ¬ tried.contains (attempt text t) then
      run p text (tried.insert (attempt text t)) (p.moves text t ++ rest)
    else run p text tried rest
termination_by threads => (p.untried text tried, threads.length)
decreasing_by
  · exact Prod.Lex.left _ _ (untried_insert_lt _h.1 _h.2)
  · exact Prod.Lex.right _ (Nat.lt_succ_self _)

/-- The preferred match at the leftmost place of a text that has one. -/
def search (p : Program) (text : Array Char) : Option Thread :=
  p.run text ∅ ((List.range (text.size + 1)).map fun place => ⟨p.entry, place, []⟩)

end Program

end FieldLayout
