import FieldLayout.Pattern.Search
import Mathlib.Data.List.Basic
import Mathlib.Tactic.ByContra

/-!
# Backtracking with and without memory

A search tries no instruction twice at the same place. In a program without loops this makes no
difference to what it finds: the answer is the first of all complete threads, taken in order of
preference, as if every thread were followed to its end.

## Main definitions

* `Program.Falls`: every instruction leads to smaller addresses only.
* `Program.completions`: all complete threads to which a thread leads, in order of preference.

## Main statements

* `Program.run_append`: what a run does with the first threads on its stack.
* `Program.search_eq_head?`: the search finds the first completion of the first place that has one.
-/

namespace FieldLayout

/-- The addresses to which an instruction leads. -/
def Instr.targets : Instr → List Nat
  | .read _ next | .edge _ next | .mark _ next => [next]
  | .fork targets => targets
  | .accept => []

namespace Program

variable {p : Program} {text : Array Char}

/-- Every instruction leads to smaller addresses only, so that no thread comes back to an address.
-/
def Falls (p : Program) : Prop :=
  ∀ (a : Nat) (instr : Instr), p.code[a]? = some instr → ∀ b ∈ instr.targets, b < a

/-- The threads that a thread turns into have the addresses of the targets. -/
theorem Falls.address_lt (hp : p.Falls) {t u : Thread} (h : u ∈ p.moves text t) :
    u.address < t.address := by
  unfold moves at h
  split at h
  · next set next hc =>
    split at h
    · split at h
      · obtain rfl := List.mem_singleton.1 h
        exact hp _ _ hc _ (by simp [Instr.targets])
      · cases h
    · cases h
  · next e next hc =>
    split at h
    · obtain rfl := List.mem_singleton.1 h
      exact hp _ _ hc _ (by simp [Instr.targets])
    · cases h
  · next slot next hc =>
    obtain rfl := List.mem_singleton.1 h
    exact hp _ _ hc _ (by simp [Instr.targets])
  · next targets hc =>
    obtain ⟨b, hb, rfl⟩ := List.mem_map.1 h
    exact hp _ _ hc _ hb
  · cases h
  · cases h

/-- No thread leaves the text. -/
theorem place_le_of_mem_moves {t u : Thread} (ht : t.place ≤ text.size) (h : u ∈ p.moves text t) :
    u.place ≤ text.size := by
  unfold moves at h
  split at h
  · split at h
    · next c hc =>
      split at h
      · obtain rfl := List.mem_singleton.1 h
        exact (Array.getElem?_eq_some_iff.1 hc).1
      · cases h
    · cases h
  · split at h
    · obtain rfl := List.mem_singleton.1 h
      exact ht
    · cases h
  · obtain rfl := List.mem_singleton.1 h
    exact ht
  · obtain ⟨b, _, rfl⟩ := List.mem_map.1 h
    exact ht
  · cases h
  · cases h

/-! ## Completions -/

/-- All complete threads to which a thread leads, in order of preference. Only moves to smaller
addresses count. -/
def completions (p : Program) (text : Array Char) (t : Thread) : List Thread :=
  if p.accepts t then [t]
  else
    (p.moves text t).flatMap fun u =>
      if _h : u.address < t.address then completions p text u else []
termination_by t.address

theorem completions_of_accepts {t : Thread} (h : p.accepts t) : p.completions text t = [t] := by
  rw [completions, if_pos h]

theorem Falls.completions_of_not_accepts (hp : p.Falls) {t : Thread} (h : ¬ p.accepts t) :
    p.completions text t = (p.moves text t).flatMap (p.completions text) := by
  rw [completions, if_neg h]
  refine List.flatMap_congr fun u hu => ?_
  rw [dif_pos (hp.address_lt hu)]

/-- A thread that noted more places before. -/
def noting (marks : List (Nat × Nat)) (t : Thread) : Thread :=
  { t with marks := t.marks ++ marks }

theorem accepts_noting (marks : List (Nat × Nat)) (t : Thread) :
    p.accepts (noting marks t) = p.accepts t := rfl

theorem moves_noting (marks : List (Nat × Nat)) (t : Thread) :
    p.moves text (noting marks t) = (p.moves text t).map (noting marks) := by
  simp only [moves, noting]
  split
  · next set next _ =>
    cases text[t.place]? with
    | none => rfl
    | some c => by_cases h : set.contains c <;> simp [h, noting]
  · next e next _ => by_cases h : e.holds text t.place <;> simp [h, noting]
  · rfl
  · rw [List.map_map]
    rfl
  · rfl
  · rfl

/-- Earlier notes take no part in the choice of a way. -/
theorem Falls.completions_noting (hp : p.Falls) (text : Array Char) (marks : List (Nat × Nat))
    (t : Thread) :
    p.completions text (noting marks t) = (p.completions text t).map (noting marks) := by
  induction h : t.address using Nat.strongRecOn generalizing t with
  | ind a ih =>
    by_cases ha : p.accepts t
    · rw [completions_of_accepts ha, completions_of_accepts (by rwa [accepts_noting])]
      rfl
    · rw [hp.completions_of_not_accepts ha,
        hp.completions_of_not_accepts (by rwa [accepts_noting]), moves_noting, List.flatMap_map,
        List.map_flatMap]
      refine List.flatMap_congr fun u hu => ?_
      exact ih u.address (h ▸ hp.address_lt hu) u rfl

/-- Whether a thread leads to a complete one depends on its address and its place only. -/
theorem Falls.completions_eq_nil (hp : p.Falls) {t u : Thread} (ha : t.address = u.address)
    (hplace : t.place = u.place) (h : p.completions text t = []) : p.completions text u = [] := by
  have ht := hp.completions_noting text t.marks ⟨t.address, t.place, []⟩
  have hu := hp.completions_noting text u.marks ⟨t.address, t.place, []⟩
  rw [show noting t.marks ⟨t.address, t.place, []⟩ = t from rfl, h] at ht
  rw [show noting u.marks ⟨t.address, t.place, []⟩ = u by rw [noting, ha, hplace]; rfl] at hu
  rw [hu, List.map_eq_nil_iff.1 ht.symm, List.map_nil]

/-! ## Runs -/

/-- The number of a pair of an address and a place determines the pair. -/
theorem attempt_inj {t u : Thread} (ht : t.place ≤ text.size) (hu : u.place ≤ text.size)
    (h : attempt text t = attempt text u) : t.address = u.address ∧ t.place = u.place := by
  have hdiv : ∀ v : Thread, v.place ≤ text.size → attempt text v / (text.size + 1) = v.address := by
    intro v hv
    rw [attempt, Nat.mul_comm, Nat.mul_add_div (Nat.succ_pos _), Nat.div_eq_of_lt (by omega),
      Nat.add_zero]
  have ha : t.address = u.address := by rw [← hdiv t ht, ← hdiv u hu, h]
  refine ⟨ha, ?_⟩
  simp only [attempt, ha] at h
  omega

/-- A thread has been tried if its pair was tried before or is tried now. -/
theorem contains_insert_attempt {tried : Tried} {t v : Thread} (ht : t.place ≤ text.size)
    (hv : v.place ≤ text.size) :
    (tried.insert (attempt text t)).contains (attempt text v) ↔
      (t.address = v.address ∧ t.place = v.place) ∨ tried.contains (attempt text v) := by
  rw [Std.HashSet.contains_insert, Bool.or_eq_true, beq_iff_eq]
  refine or_congr ⟨fun h => attempt_inj ht hv h, ?_⟩ Iff.rfl
  rintro ⟨ha, hplace⟩
  rw [attempt, attempt, ha, hplace]

/-- The pairs with an address below a bound that have been tried lead to no complete thread. -/
def Exhausted (p : Program) (text : Array Char) (tried : Tried) (bound : Nat) : Prop :=
  ∀ t : Thread, t.address < bound → t.place ≤ text.size → tried.contains (attempt text t) →
    p.completions text t = []

/-- Two sets of tried pairs agree on the addresses from a bound on. -/
def AgreeFrom (text : Array Char) (bound : Nat) (tried tried' : Tried) : Prop :=
  ∀ t : Thread, bound ≤ t.address → t.place ≤ text.size →
    (tried'.contains (attempt text t) ↔ tried.contains (attempt text t))

/-- While a thread is followed, its own pair is tried but lies above its descendants. -/
theorem Exhausted.insert {tried : Tried} {bound : Nat} {t : Thread}
    (he : p.Exhausted text tried bound) (ht : t.address < bound) (hplace : t.place ≤ text.size) :
    p.Exhausted text (tried.insert (attempt text t)) t.address := by
  intro v hv hvp hin
  rcases (contains_insert_attempt hplace hvp).1 hin with ⟨ha, _⟩ | hin
  · omega
  · exact he v (by omega) hvp hin

/-- When a thread and its descendants have been followed in vain, its own pair is exhausted too. -/
theorem Exhausted.of_insert (hp : p.Falls) {tried tried' : Tried} {bound : Nat} {t : Thread}
    (he : p.Exhausted text tried bound) (hplace : t.place ≤ text.size)
    (hnil : p.completions text t = []) (he' : p.Exhausted text tried' t.address)
    (hag : AgreeFrom text t.address (tried.insert (attempt text t)) tried') :
    p.Exhausted text tried' bound := by
  intro v hv hvp hin
  by_cases hva : v.address < t.address
  · exact he' v hva hvp hin
  · rw [hag v (by omega) hvp] at hin
    rcases (contains_insert_attempt hplace hvp).1 hin with ⟨ha, hpl⟩ | hin
    · exact hp.completions_eq_nil ha hpl hnil
    · exact he v hv hvp hin

theorem AgreeFrom.of_insert {tried tried' : Tried} {bound : Nat} {t : Thread}
    (ht : t.address < bound) (hplace : t.place ≤ text.size)
    (hag : AgreeFrom text t.address (tried.insert (attempt text t)) tried') :
    AgreeFrom text bound tried tried' := by
  intro v hv hvp
  rw [hag v (by omega) hvp, contains_insert_attempt hplace hvp]
  refine or_iff_right ?_
  rintro ⟨ha, _⟩
  omega

/-- What a run does with the first threads on its stack: it stops with their first completion, or
there is none and it goes on with the others, having tried some more pairs in vain. -/
def Settles (p : Program) (text : Array Char) (bound : Nat) (tried : Tried)
    (ts rest : List Thread) : Prop :=
  (∃ t, (ts.flatMap (p.completions text)).head? = some t ∧
    p.run text tried (ts ++ rest) = some t) ∨
  (ts.flatMap (p.completions text) = [] ∧ ∃ tried', p.Exhausted text tried' bound ∧
    AgreeFrom text bound tried tried' ∧ p.run text tried (ts ++ rest) = p.run text tried' rest)

/-- A thread behind the code is not complete and leads nowhere. -/
theorem completions_of_attempts_le {t : Thread} (ht : t.place ≤ text.size)
    (h : ¬ attempt text t < p.attempts text) : p.completions text t = [] := by
  have hsize : p.code.size ≤ t.address := by
    by_contra hlt
    have := Nat.mul_le_mul_right (text.size + 1) (Nat.succ_le_of_lt (Nat.not_le.1 hlt))
    simp only [attempt, attempts, Nat.succ_mul] at h this
    omega
  have hnone := Array.getElem?_eq_none hsize
  rw [completions, if_neg (by simp [accepts, hnone]), moves, hnone]
  rfl

/-- If the threads above the others settle one by one, they settle together. -/
theorem Settles.cons {bound : Nat} {tried : Tried} {t : Thread} {ts rest : List Thread}
    (ht : p.Settles text bound tried [t] (ts ++ rest))
    (hts : ∀ tried', p.Exhausted text tried' bound → p.Settles text bound tried' ts rest) :
    p.Settles text bound tried (t :: ts) rest := by
  rcases ht with ⟨u, hu, hrun⟩ | ⟨hnil, tried', he, hag, hrun⟩
  · refine Or.inl ⟨u, ?_, hrun⟩
    rw [List.flatMap_singleton] at hu
    rw [List.flatMap_cons, List.head?_append, hu]
    rfl
  · have hrun' : p.run text tried (t :: ts ++ rest) = p.run text tried' (ts ++ rest) := hrun
    rw [List.flatMap_singleton] at hnil
    rcases hts tried' he with ⟨u, hu, hrest⟩ | ⟨hnil', tried'', he', hag', hrest⟩
    · refine Or.inl ⟨u, ?_, hrun'.trans hrest⟩
      rw [List.flatMap_cons, hnil, List.nil_append, hu]
    · refine Or.inr ⟨?_, tried'', he', ?_, hrun'.trans hrest⟩
      · rw [List.flatMap_cons, hnil, hnil', List.nil_append]
      · intro v hv hp
        rw [hag' v hv hp, hag v hv hp]

/-- One step of a run: a thread settles if what it turns into settles below its address. -/
theorem Settles.of_moves (hp : p.Falls) {bound : Nat} {tried : Tried} {t : Thread}
    {rest : List Thread} (ht : t.address < bound) (hplace : t.place ≤ text.size)
    (he : p.Exhausted text tried bound)
    (hmoves : p.Settles text t.address (tried.insert (attempt text t)) (p.moves text t) rest) :
    p.Settles text bound tried [t] rest := by
  unfold Settles
  rw [List.flatMap_singleton, List.singleton_append, run]
  by_cases ha : p.accepts t
  · rw [if_pos ha, completions_of_accepts ha]
    exact Or.inl ⟨t, rfl, rfl⟩
  rw [if_neg ha]
  by_cases hnew : attempt text t < p.attempts text ∧ ¬ tried.contains (attempt text t)
  · rw [dif_pos hnew, hp.completions_of_not_accepts ha]
    rcases hmoves with ⟨u, hu, hrun⟩ | ⟨hnil, tried', he', hag, hrun⟩
    · exact Or.inl ⟨u, hu, hrun⟩
    · have hfail : p.completions text t = [] := by rw [hp.completions_of_not_accepts ha, hnil]
      exact Or.inr ⟨hnil, tried', he.of_insert hp hplace hfail he' hag,
        AgreeFrom.of_insert ht hplace hag, hrun⟩
  · rw [dif_neg hnew]
    refine Or.inr ⟨?_, tried, he, fun _ _ _ => Iff.rfl, rfl⟩
    by_cases hin : attempt text t < p.attempts text
    · exact he t ht hplace (by simpa [hin] using hnew)
    · exact completions_of_attempts_le hplace hin

/-- The threads on top of the stack settle. -/
theorem run_append (hp : p.Falls) (bound : Nat) (tried : Tried) (ts rest : List Thread)
    (hts : ∀ t ∈ ts, t.address < bound ∧ t.place ≤ text.size)
    (he : p.Exhausted text tried bound) : p.Settles text bound tried ts rest := by
  -- The outer induction is on a bound of the addresses: what a thread turns into lies below it.
  induction bound using Nat.strongRecOn generalizing tried ts rest with
  | ind bound ih =>
    induction ts generalizing tried with
    | nil => exact Or.inr ⟨rfl, tried, he, fun _ _ _ => Iff.rfl, rfl⟩
    | cons t ts ihts =>
      obtain ⟨hlt, hplace⟩ := hts t List.mem_cons_self
      have hmoves : ∀ u ∈ p.moves text t, u.address < t.address ∧ u.place ≤ text.size :=
        fun u hu => ⟨hp.address_lt hu, place_le_of_mem_moves hplace hu⟩
      refine Settles.cons (Settles.of_moves hp hlt hplace he ?_) fun tried' he' => ?_
      · exact ih t.address hlt _ _ _ hmoves (he.insert hlt hplace)
      · exact ihts tried' (fun u hu => hts u (List.mem_cons_of_mem _ hu)) he'

/-- The search finds the first completion of the first place that has one. -/
theorem search_eq_head? (hp : p.Falls) :
    p.search text = ((List.range (text.size + 1)).flatMap fun place =>
      p.completions text ⟨p.entry, place, []⟩).head? := by
  have hts : ∀ t ∈ (List.range (text.size + 1)).map fun place => (⟨p.entry, place, []⟩ : Thread),
      t.address < p.entry + 1 ∧ t.place ≤ text.size := by
    intro t ht
    obtain ⟨place, hplace, rfl⟩ := List.mem_map.1 ht
    exact ⟨Nat.lt_succ_self _, Nat.le_of_lt_succ (List.mem_range.1 hplace)⟩
  have hempty : p.Exhausted text ∅ (p.entry + 1) := by
    intro t _ _ h
    simp at h
  have h := run_append hp (p.entry + 1) ∅ _ [] hts hempty
  rw [Settles, List.append_nil, List.flatMap_map] at h
  rw [search]
  rcases h with ⟨t, ht, hrun⟩ | ⟨hnil, tried', _, _, hrun⟩
  · rw [hrun, ht]
  · rw [hrun, hnil, run]
    rfl

end Program

end FieldLayout
