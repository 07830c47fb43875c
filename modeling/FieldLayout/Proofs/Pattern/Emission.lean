import FieldLayout.Proofs.Pattern.Backtracking
import FieldLayout.Proofs.Pattern.Ways

/-!
# The program of a plan leads where the plan leads

Code is written in front of a program that is already there. What is written for a plan takes a
thread along the ways of the plan, one after the other and in the same order, to the entry of the
program behind it.

## Main definitions

* `Program.Includes`: a program has all instructions of another at the same addresses.
* `Program.Realizes`: code that is put in front of a program realizes given ways.

## Main statements

* `Program.realizes_emit`: the code of a plan realizes the ways of the plan.
* `Program.search_ofPlan`: the search for a plan finds the first way of the first place that has
  one.
-/

namespace FieldLayout

/-- The thread that stands at an address with given progress. -/
def Progress.thread (s : Progress) (address : Nat) : Thread := ⟨address, s.place, s.marks⟩

namespace Program

variable {text : Array Char} {p q r : Program}

/-- A program with an entry in its code and with no way back to an address. -/
structure Sound (p : Program) : Prop where
  /-- The entry is an address of the code. -/
  entry_lt : p.entry < p.code.size
  /-- Every instruction leads to smaller addresses. -/
  falls : p.Falls

/-- A program has all instructions of another one at the same addresses. -/
def Includes (r p : Program) : Prop :=
  ∀ (a : Nat) (instr : Instr), p.code[a]? = some instr → r.code[a]? = some instr

theorem Includes.refl (p : Program) : p.Includes p := fun _ _ h => h

theorem Includes.trans (h : r.Includes q) (h' : q.Includes p) : r.Includes p :=
  fun a instr ha => h a instr (h' a instr ha)

theorem Includes.size_le (h : q.Includes p) : p.code.size ≤ q.code.size := by
  by_contra hlt
  have hget := h q.code.size _ (Array.getElem?_eq_getElem (Nat.not_le.1 hlt))
  rw [Array.getElem?_eq_none (Nat.le_refl _)] at hget
  cases hget

/-! ## One instruction -/

theorem getElem?_before (p : Program) (instr : Nat → Instr) :
    (p.before instr).code[(p.before instr).entry]? = some (instr p.entry) := by
  simp [before]

theorem includes_before (p : Program) (instr : Nat → Instr) : (p.before instr).Includes p := by
  intro a i h
  have ha := (Array.getElem?_eq_some_iff.1 h).1
  rw [before, Array.getElem?_push, if_neg (by omega)]
  exact h

theorem Sound.before (hp : p.Sound) (instr : Nat → Instr)
    (h : ∀ b ∈ (instr p.entry).targets, b < p.code.size) : (p.before instr).Sound := by
  refine ⟨by simp [Program.before], fun a i ha b hb => ?_⟩
  simp only [Program.before] at ha
  rw [Array.getElem?_push] at ha
  split at ha
  · next hsize =>
    cases ha
    exact hsize ▸ h b hb
  · exact hp.falls a i ha b hb

theorem Falls.completions_read (hr : r.Falls) {a next : Nat} {set : CharRanges} (s : Progress)
    (h : r.code[a]? = some (.read set next)) :
    r.completions text (s.thread a) =
      (s.read text set).flatMap fun u => r.completions text (u.thread next) := by
  rw [hr.completions_of_not_accepts (by simp [accepts, Progress.thread, h])]
  simp only [moves, Progress.read, Progress.thread, h]
  cases text[s.place]? with
  | none => rfl
  | some c => by_cases hc : set.contains c <;> simp [hc]

theorem Falls.completions_edge (hr : r.Falls) {a next : Nat} {e : Edge} (s : Progress)
    (h : r.code[a]? = some (.edge e next)) :
    r.completions text (s.thread a) =
      (if e.holds text s.place then [s] else []).flatMap
        fun u => r.completions text (u.thread next) := by
  rw [hr.completions_of_not_accepts (by simp [accepts, Progress.thread, h])]
  simp only [moves, Progress.thread, h]
  by_cases he : e.holds text s.place <;> simp [he]

theorem Falls.completions_mark (hr : r.Falls) {a next slot : Nat} (s : Progress)
    (h : r.code[a]? = some (.mark slot next)) :
    r.completions text (s.thread a) = r.completions text ((s.note slot).thread next) := by
  rw [hr.completions_of_not_accepts (by simp [accepts, Progress.thread, h])]
  simp only [moves, Progress.thread, h, Progress.note]
  rw [List.flatMap_singleton]

theorem Falls.completions_fork (hr : r.Falls) (text : Array Char) {a : Nat} {targets : List Nat}
    (s : Progress) (h : r.code[a]? = some (.fork targets)) :
    r.completions text (s.thread a) =
      targets.flatMap fun next => r.completions text (s.thread next) := by
  rw [hr.completions_of_not_accepts (by simp [accepts, Progress.thread, h])]
  simp only [moves, Progress.thread, h, List.flatMap_map]

/-! ## Code that realizes ways -/

/-- What is put in front of a program leaves the program as it is, and it takes a thread along the
given ways to the entry of the program. This holds of every program without loops that includes the
result, so that more code may be put in front. -/
structure Realizes (text : Array Char) (f : Program → Program)
    (ways : Progress → List Progress) : Prop where
  /-- The result is sound. -/
  sound : ∀ {p : Program}, p.Sound → (f p).Sound
  /-- The instructions of the program stay where they are. -/
  includes : ∀ {p : Program}, p.Sound → (f p).Includes p
  /-- Threads are taken along the ways. -/
  completions : ∀ {p r : Program}, p.Sound → r.Falls → r.Includes (f p) → ∀ s : Progress,
    r.completions text (s.thread (f p).entry) =
      (ways s).flatMap fun u => r.completions text (u.thread p.entry)

namespace Realizes

variable {f g : Program → Program} {v w : Progress → List Progress}

theorem id : Realizes text (fun p => p) fun s => [s] where
  sound hp := hp
  includes _ := Includes.refl _
  completions _ _ _ s := by rw [List.flatMap_singleton]

/-- Code in front of code leads from way to way. -/
theorem comp (hf : Realizes text f v) (hg : Realizes text g w) :
    Realizes text (fun p => f (g p)) fun s => (v s).flatMap w where
  sound hp := hf.sound (hg.sound hp)
  includes hp := (hf.includes (hg.sound hp)).trans (hg.includes hp)
  completions := by
    intro p r hp hr hi s
    rw [hf.completions (hg.sound hp) hr hi, List.flatMap_assoc]
    exact List.flatMap_congr fun u _ =>
      hg.completions hp hr (hi.trans (hf.includes (hg.sound hp))) u

/-- One instruction that leads to the entry of the program only. -/
theorem of_instr {instr : Nat → Instr} (htarget : ∀ next, (instr next).targets = [next])
    (h : ∀ {r : Program} {a next : Nat}, r.Falls → r.code[a]? = some (instr next) →
      ∀ s : Progress, r.completions text (s.thread a) =
        (w s).flatMap fun u => r.completions text (u.thread next)) :
    Realizes text (fun p => p.before instr) w where
  sound hp := hp.before instr (by simpa [htarget] using hp.entry_lt)
  includes _ := includes_before _ _
  completions _ hr hi s := h hr (hi _ _ (getElem?_before _ instr)) s

theorem read (set : CharRanges) :
    Realizes text (fun p => p.before (.read set)) fun s => s.read text set :=
  of_instr (fun _ => rfl) fun hr h s => hr.completions_read s h

theorem edge (e : Edge) :
    Realizes text (fun p => p.before (.edge e)) fun s => if e.holds text s.place then [s] else [] :=
  of_instr (fun _ => rfl) fun hr h s => hr.completions_edge s h

theorem mark (slot : Nat) :
    Realizes text (fun p => p.before (.mark slot)) fun s => [s.note slot] :=
  of_instr (fun _ => rfl) fun hr h s => by rw [hr.completions_mark s h, List.flatMap_singleton]

theorem spell (cs : List Char) :
    Realizes text (fun p => cs.foldr (fun c p => p.before (.read (.single c))) p)
      fun s => s.spell text cs := by
  induction cs with
  | nil => exact id
  | cons c cs ih => exact (read (.single c)).comp ih

theorem rounds (hf : Realizes text f w) (n : Nat) :
    Realizes text (fun p => Nat.repeat f n p) (Progress.rounds w n) := by
  induction n with
  | zero => exact id
  | succ n ih => exact hf.comp ih

theorem includes_optionally (hf : Realizes text f w) (greedy : Bool) (past : Nat) (hq : q.Sound) :
    (optionally f greedy past q).Includes q :=
  (includes_before _ _).trans (hf.includes hq)

theorem sound_optionally (hf : Realizes text f w) (greedy : Bool) {past : Nat} (hq : q.Sound)
    (hpast : past < q.code.size) : (optionally f greedy past q).Sound := by
  have hsize := (hf.includes hq).size_le
  refine (hf.sound hq).before _ fun b hb => ?_
  have hb : b = (f q).entry ∨ b = past := by
    cases greedy <;> simpa [orPast, Instr.targets, or_comm] using hb
  rcases hb with rfl | rfl
  · exact (hf.sound hq).entry_lt
  · omega

/-- A fork between going into a body and going past it, to the entry of an earlier program. -/
theorem completions_optionally (hf : Realizes text f w) (greedy : Bool) {past : Nat} (hq : q.Sound)
    (hr : r.Falls) (hi : r.Includes (optionally f greedy past q)) (s : Progress) :
    r.completions text (s.thread (optionally f greedy past q).entry) =
      if greedy then
        ((w s).flatMap fun u => r.completions text (u.thread q.entry)) ++
          r.completions text (s.thread past)
      else
        r.completions text (s.thread past) ++
          (w s).flatMap fun u => r.completions text (u.thread q.entry) := by
  -- Greedy or not, the fork leads to the same two addresses; only their order differs.
  have hfork := hi _ _ (getElem?_before (f q) fun entry => orPast greedy entry past)
  have hbody := hf.completions hq hr (hi.trans (includes_before _ _)) s
  cases greedy with
  | true =>
    have h := hr.completions_fork text s hfork
    rw [List.flatMap_cons, List.flatMap_singleton, hbody] at h
    exact h
  | false =>
    have h := hr.completions_fork text s hfork
    rw [List.flatMap_cons, List.flatMap_singleton, hbody] at h
    exact h

/-- A chain of rounds each of which may be the last: every fork leads past all rounds that are left,
to the entry of the program behind the whole chain. -/
theorem upToRounds (hf : Realizes text f w) (greedy : Bool) (n : Nat) :
    Realizes text (fun p => Nat.repeat (optionally f greedy p.entry) n p)
      (Progress.upToRounds w greedy n) := by
  induction n with
  | zero => exact id
  | succ n ih =>
    refine ⟨fun {p} hp => ?_, fun {p} hp => ?_, fun {p r} hp hr hi s => ?_⟩
    · refine hf.sound_optionally greedy (ih.sound hp) ?_
      exact Nat.lt_of_lt_of_le hp.entry_lt (ih.includes hp).size_le
    · exact (hf.includes_optionally greedy p.entry (ih.sound hp)).trans (ih.includes hp)
    · -- The chain behind the first fork still stands in the larger program.
      have hchain := hi.trans (hf.includes_optionally greedy p.entry (ih.sound hp))
      have hrest := fun u => ih.completions hp hr hchain u
      refine (hf.completions_optionally greedy (ih.sound hp) hr hi s).trans ?_
      simp only [hrest, Progress.upToRounds]
      split
      · rw [List.flatMap_append, List.flatMap_assoc, List.flatMap_singleton]
      · rw [List.flatMap_cons, List.flatMap_assoc]

theorem group (hf : Realizes text f w) (index : Nat) :
    Realizes text
      (fun p => (f (p.before (.mark (stopSlot index)))).before (.mark (startSlot index)))
      fun s => (w (s.note (startSlot index))).map (·.note (stopSlot index)) := by
  have h := Realizes.comp (mark (startSlot index)) (hf.comp (mark (stopSlot index)))
  simpa only [List.flatMap_singleton, ← List.map_eq_flatMap] using h

end Realizes

/-! ## Several branches -/

/-- Code for branches that all go on at one address, with the addresses at which they start. -/
structure RealizesEach (text : Array Char) (next : Nat) (code : Array Instr)
    (result : List Nat × Array Instr) (ways : Progress → List Progress) : Prop where
  /-- The code is still that of a sound program. -/
  sound : Sound ⟨result.2, next⟩
  /-- The instructions that were there stay where they are. -/
  includes : Includes ⟨result.2, next⟩ ⟨code, next⟩
  /-- The branches start in the code. -/
  entries_lt : ∀ a ∈ result.1, a < result.2.size
  /-- Threads at the starts are taken along the ways. -/
  completions : ∀ {r : Program}, r.Falls → r.Includes ⟨result.2, next⟩ → ∀ s : Progress,
    (result.1.flatMap fun a => r.completions text (s.thread a)) =
      (ways s).flatMap fun u => r.completions text (u.thread next)

/-- Behind the code of a branch stands what the other branches need. -/
theorem Realizes.sound_next {f : Program → Program} {ways : Progress → List Progress}
    (hf : Realizes text f ways) (hp : p.Sound) : Sound ⟨(f p).code, p.entry⟩ :=
  ⟨Nat.lt_of_lt_of_le hp.entry_lt (hf.includes hp).size_le, (hf.sound hp).falls⟩

/-- One more branch in front of others. -/
theorem RealizesEach.cons {next : Nat} {code : Array Instr} {f : Program → Program}
    {v w : Progress → List Progress} {result : List Nat × Array Instr}
    (hsound : Sound ⟨code, next⟩) (hf : Realizes text f v)
    (h : RealizesEach text next (f ⟨code, next⟩).code result w) :
    RealizesEach text next code ((f ⟨code, next⟩).entry :: result.1, result.2)
      fun s => v s ++ w s where
  sound := h.sound
  includes := h.includes.trans (hf.includes hsound)
  entries_lt := by
    intro a ha
    rcases List.mem_cons.1 ha with rfl | ha
    · exact Nat.lt_of_lt_of_le (hf.sound hsound).entry_lt h.includes.size_le
    · exact h.entries_lt a ha
  completions := by
    intro r hr hi s
    rw [List.flatMap_cons, List.flatMap_append, h.completions hr hi s,
      hf.completions hsound hr (hi.trans h.includes)]

/-- A fork into several branches. -/
theorem Realizes.alt {each : Nat → Array Instr → List Nat × Array Instr}
    {ways : Progress → List Progress}
    (h : ∀ {next : Nat} {code : Array Instr}, Sound ⟨code, next⟩ →
      RealizesEach text next code (each next code) ways) :
    Realizes text (fun p =>
      ⟨(each p.entry p.code).2.push (.fork (each p.entry p.code).1),
        (each p.entry p.code).2.size⟩) ways where
  sound hp := (h hp).sound.before (fun _ => .fork (each _ _).1) (h hp).entries_lt
  includes hp :=
    (includes_before ⟨_, _⟩ fun _ => .fork (each _ _).1).trans (h hp).includes
  completions := by
    intro p r hp hr hi s
    have hfork := hi _ _ (getElem?_before ⟨(each p.entry p.code).2, p.entry⟩
      fun _ => .fork (each p.entry p.code).1)
    have hbelow := hi.trans (includes_before ⟨(each p.entry p.code).2, p.entry⟩
      fun _ => .fork (each p.entry p.code).1)
    exact (hr.completions_fork text s hfork).trans ((h hp).completions hr hbelow s)

/-! ## Plans -/

mutual

/-- The code of a plan realizes the ways of the plan. -/
theorem realizes_emit (text : Array Char) :
    ∀ plan : Plan, plan.bounded → Realizes text (emit plan) (plan.ways text)
  | .empty, _ => Realizes.id
  | .text cs, _ => Realizes.spell cs
  | .chars set _, _ => Realizes.read set
  | .edge e, _ => Realizes.edge e
  | .seq items, h => realizes_emitAll text items h
  | .alt branches, h => Realizes.alt fun hsound => realizesEach_emitEach text branches h hsound
  | .group index body, h => (realizes_emit text body h).group index
  | .times body min (some max) greedy, h =>
    have hbody := realizes_emit text body (by simpa [Plan.bounded] using h)
    (hbody.rounds min).comp (hbody.upToRounds greedy (max - min))

/-- The code of plans that follow each other realizes their ways. -/
theorem realizes_emitAll (text : Array Char) :
    ∀ plans : List Plan, Plan.boundedList plans →
      Realizes text (emitAll plans) (Plan.waysAll text plans)
  | [], _ => Realizes.id
  | plan :: plans, h =>
    have h := Bool.and_eq_true_iff.1 h
    (realizes_emit text plan h.1).comp (realizes_emitAll text plans h.2)

/-- The code of branches realizes the ways of all of them. -/
theorem realizesEach_emitEach (text : Array Char) :
    ∀ plans : List Plan, Plan.boundedList plans → ∀ {next : Nat} {code : Array Instr},
      Sound ⟨code, next⟩ →
        RealizesEach text next code (emitEach plans next code) (Plan.waysAny text plans)
  | [], _, _, _, hsound =>
    ⟨hsound, Includes.refl _, fun _ h => absurd h (List.not_mem_nil), fun _ _ _ => rfl⟩
  | plan :: plans, h, _, _, hsound =>
    have h := Bool.and_eq_true_iff.1 h
    have hplan := realizes_emit text plan h.1
    RealizesEach.cons hsound hplan
      (realizesEach_emitEach text plans h.2 (hplan.sound_next hsound))

end

theorem sound_done : done.Sound := by
  refine ⟨by decide, fun a instr h b hb => ?_⟩
  match a with
  | 0 =>
    cases h
    cases hb
  | a + 1 => cases h

/-- The complete threads of the program of a plan stand where the ways of the plan lead. -/
theorem completions_ofPlan (text : Array Char) {plan : Plan} (h : plan.bounded) (s : Progress) :
    (ofPlan plan).completions text (s.thread (ofPlan plan).entry) =
      (plan.ways text s).map (·.thread done.entry) := by
  have hplan := realizes_emit text plan h
  have haccept : (emit plan done).code[done.entry]? = some .accept :=
    hplan.includes sound_done 0 .accept rfl
  rw [ofPlan, hplan.completions sound_done (hplan.sound sound_done).falls (Includes.refl _),
    List.map_eq_flatMap]
  refine List.flatMap_congr fun u _ => completions_of_accepts ?_
  rw [accepts, Progress.thread, haccept]

/-- The search for a plan finds the first way of the first place that has one. -/
theorem search_ofPlan (text : Array Char) {plan : Plan} (h : plan.bounded) :
    (ofPlan plan).search text = ((List.range (text.size + 1)).flatMap fun place =>
      (plan.ways text ⟨place, []⟩).map (·.thread done.entry)).head? := by
  have hfalls : (ofPlan plan).Falls := ((realizes_emit text plan h).sound sound_done).falls
  rw [search_eq_head? hfalls]
  congr 1
  exact List.flatMap_congr fun place _ => completions_ofPlan text h ⟨place, []⟩

end Program

end FieldLayout
