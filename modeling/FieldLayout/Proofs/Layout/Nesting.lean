import FieldLayout.Proofs.Layout.FaultPlaces
import FieldLayout.Recognizer

/-!
# Capturing groups inside each other

Two checks forbid a capturing group inside another one. The parser looks at all groups around a
bracket, at any distance. The pattern of a layout is refused only when a capturing group is an
immediate part of another one, since an optional group in between clears the flag. So a layout that
was read from a text always has a pattern, and only the parser, which knows places, reports such a
group.

## Main definitions

* `Node.Occurs`: a part stands among others, at any depth.
* `Node.FlatCaptures`: no capturing group occurs in another one.

## Main statements

* `Node.Derives.flatCaptures`: what is read has no capturing group in another one.
* `Node.exists_patternTextList_eq_ok`: this is enough for a pattern.
* `Layout.parse_rules_out_nesting`: a capturing group inside another one is reported with its place.
-/

namespace FieldLayout

/-! ## Parts at any depth -/

namespace Node

/-- A part stands among others, or inside one of them at any depth. -/
inductive Occurs (n : Node) : List Node → Prop
  | here {ns : List Node} (hn : n ∈ ns) : Occurs n ns
  | inside {ns children : List Node} {b : Bracket} (hgroup : .group b children ∈ ns)
      (hn : Occurs n children) : Occurs n ns

/-- No capturing group occurs in another one. -/
def FlatCaptures (ns : List Node) : Prop :=
  ∀ b children b' children', Occurs (.group b children) ns →
    Occurs (.group b' children') children → b.captures → b'.captures = false

variable {n : Node} {ns : List Node}

theorem not_occurs_nil : ¬ Occurs n [] := by
  intro h
  cases h with
  | here hn => cases hn
  | inside hgroup => cases hgroup

theorem occurs_cons {m : Node} : Occurs n (m :: ns) ↔
    n = m ∨ (∃ b children, m = .group b children ∧ Occurs n children) ∨ Occurs n ns := by
  constructor
  · intro h
    cases h with
    | here hn =>
      rcases List.mem_cons.1 hn with rfl | hn
      · exact .inl rfl
      · exact .inr (.inr (.here hn))
    | @inside _ children b hgroup hn =>
      rcases List.mem_cons.1 hgroup with rfl | hgroup
      · exact .inr (.inl ⟨b, children, rfl, hn⟩)
      · exact .inr (.inr (.inside hgroup hn))
  · rintro (rfl | ⟨b, children, rfl, hn⟩ | hn)
    · exact .here List.mem_cons_self
    · exact .inside List.mem_cons_self hn
    · cases hn with
      | here hn => exact .here (List.mem_cons_of_mem m hn)
      | inside hgroup hn => exact .inside (List.mem_cons_of_mem m hgroup) hn

theorem captureCountList_eq_zero_iff : captureCountList ns = 0 ↔
    ∀ b children, Occurs (.group b children) ns → b.captures = false := by
  induction ns using Node.sequence_induction with
  | nil => simp [captureCountList, not_occurs_nil]
  | literal _ ns ih | field _ ns ih | date _ ns ih | sign ns ih =>
    simp [captureCountList, captureCount, occurs_cons, ih]
  | group b children ns ihc ih =>
    simp only [captureCountList, captureCount, occurs_cons, Nat.add_eq_zero_iff, ihc, ih,
      group.injEq]
    constructor
    · rintro ⟨⟨hb, hchildren⟩, hns⟩ b' children' (⟨rfl, rfl⟩ | ⟨_, _, ⟨rfl, rfl⟩, h⟩ | h)
      · simpa using hb
      · exact hchildren b' children' h
      · exact hns b' children' h
    · intro h
      have hb := h b children (.inl ⟨rfl, rfl⟩)
      refine ⟨⟨by simp [hb], fun b' children' h' => ?_⟩, fun b' children' h' => ?_⟩
      · exact h b' children' (.inr (.inl ⟨b, children, ⟨rfl, rfl⟩, h'⟩))
      · exact h b' children' (.inr (.inr h'))

theorem flatCaptures_cons {m : Node} : FlatCaptures (m :: ns) ↔
    (∀ b children, m = .group b children →
      (b.captures → captureCountList children = 0) ∧ FlatCaptures children) ∧
    FlatCaptures ns := by
  constructor
  · intro h
    refine ⟨?_, fun b children b' children' hb => ?_⟩
    · rintro b children rfl
      refine ⟨fun hb => ?_, fun c inner c' inner' hc => ?_⟩
      · exact captureCountList_eq_zero_iff.2 fun b' children' h' =>
          h b children b' children' (.here List.mem_cons_self) h' hb
      · exact h c inner c' inner' (.inside List.mem_cons_self hc)
    · exact h b children b' children' (occurs_cons.2 (.inr (.inr hb)))
  · rintro ⟨hm, hns⟩ b children b' children' h h' hb
    rcases occurs_cons.1 h with rfl | ⟨c, inner, rfl, hin⟩ | hin
    · exact captureCountList_eq_zero_iff.1 ((hm b children rfl).1 hb) b' children' h'
    · exact (hm c inner rfl).2 b children b' children' hin h' hb
    · exact hns b children b' children' hin h' hb

/-- What is read has no capturing group in another one. -/
theorem Derives.flatCaptures {ts : List Token} (h : Derives ts ns) : FlatCaptures ns := by
  induction h with
  | nil => exact fun b children b' children' h => absurd h not_occurs_nil
  | date _ _ ih | sign _ _ ih | field _ _ ih | literal _ _ _ _ ih =>
    exact flatCaptures_cons.2 ⟨nofun, ih⟩
  | group ht content hu hflat others ihc ih =>
    refine flatCaptures_cons.2 ⟨?_, ih⟩
    rintro _ _ ⟨⟩
    exact ⟨hflat, ihc⟩

theorem patternTextList_cons_of_eq_ok {inCapture : Bool} {first rest : String}
    (hn : n.patternText inCapture = .ok first) (hns : patternTextList inCapture ns = .ok rest) :
    patternTextList inCapture (n :: ns) = .ok (first ++ rest) := by
  rw [patternTextList, hn, hns]

theorem exists_patternText_group_eq_ok {inCapture : Bool} {b : Bracket} {children : List Node}
    {body : String} (hbody : patternTextList b.captures children = .ok body)
    (hin : b.captures → inCapture = false) :
    ∃ text, (Node.group b children).patternText inCapture = .ok text := by
  cases hb : b.captures with
  | true =>
    rw [hb] at hbody
    exact ⟨_, by rw [patternText, if_pos hb, if_neg (by simp [hin hb]), hbody]⟩
  | false =>
    rw [hb] at hbody
    exact ⟨_, by rw [patternText, if_neg (by simp [hb]), hbody]⟩

/-- Parts without a capturing group in another one have a pattern. Inside a capturing group this
needs that nothing captures. -/
theorem exists_patternTextList_eq_ok {inCapture : Bool} (h : FlatCaptures ns)
    (hquiet : inCapture → captureCountList ns = 0) :
    ∃ text, patternTextList inCapture ns = .ok text := by
  induction ns using Node.sequence_induction generalizing inCapture with
  | nil => exact ⟨"", rfl⟩
  | literal text ns ih | field f ns ih | date run ns ih | sign ns ih =>
    obtain ⟨rest, hrest⟩ := ih (flatCaptures_cons.1 h).2
      fun hin => (Nat.add_eq_zero_iff.1 (hquiet hin)).2
    exact ⟨_, patternTextList_cons_of_eq_ok rfl hrest⟩
  | group b children ns ihc ih =>
    obtain ⟨hgroup, hns⟩ := flatCaptures_cons.1 h
    obtain ⟨hflat, hchildren⟩ := hgroup b children rfl
    obtain ⟨rest, hrest⟩ := ih hns fun hin => (Nat.add_eq_zero_iff.1 (hquiet hin)).2
    -- The flag of the content is that of this group alone.
    obtain ⟨body, hbody⟩ := ihc hchildren hflat
    have hin : b.captures → inCapture = false := by
      intro hb
      rw [Bool.eq_false_iff]
      intro hin
      have hzero := hquiet hin
      simp [captureCountList, captureCount, hb] at hzero
    obtain ⟨first, hfirst⟩ := exists_patternText_group_eq_ok hbody hin
    exact ⟨_, patternTextList_cons_of_eq_ok hfirst hrest⟩

end Node

/-! ## Layouts -/

namespace Layout

theorem offset?_of_parse_eq_error {s : String} {e : Fault} (h : parse s = .error e) :
    e.offset?.isSome :=
  offset?_of_ofTokens_eq_error h

theorem flatCaptures_of_parse {s : String} {l : Layout} (h : parse s = .ok l) :
    Node.FlatCaptures l.nodes :=
  (parse_eq_ok_iff_derives.1 h).flatCaptures

/-- What is read from a text has a pattern. -/
theorem exists_patternTextList_of_parse {s : String} {l : Layout} (h : parse s = .ok l) :
    ∃ body, Node.patternTextList false l.nodes = .ok body :=
  Node.exists_patternTextList_eq_ok (flatCaptures_of_parse h) nofun

theorem patternText_of_eq_ok {l : Layout} {body : String}
    (h : Node.patternTextList false l.nodes = .ok body) :
    l.patternText = .ok ("^" ++ body ++ "$") := by
  rw [patternText, h]

end Layout

/-! ## Recognizers -/

theorem Recognizer.ofText_eq_error {s : String} {e : Fault} (h : ofText s = .error e) :
    Layout.parse s = .error e ∨ ∃ text, e = .invalidPattern text "" := by
  rw [ofText] at h
  split at h
  · next hs =>
    cases h
    exact .inl hs
  · next l hl =>
    obtain ⟨body, hbody⟩ := Layout.exists_patternTextList_of_parse hl
    rw [ofLayout, Layout.patternText_of_eq_ok hbody] at h
    dsimp only at h
    split at h
    · cases h
      exact .inr ⟨_, rfl⟩
    · cases h

theorem validate_eq_error {s value : String} {e : Fault} (h : validate s value = .error e) :
    Recognizer.ofText s = .error e := by
  rw [validate] at h
  split at h
  · next hs =>
    cases h
    exact hs
  · cases h

theorem extract_eq_error {s value : String} {e : Fault} (h : extract s value = .error e) :
    Recognizer.ofText s = .error e ∨ ∃ count, e = .severalCaptures count := by
  rw [extract] at h
  split at h
  · next hs =>
    cases h
    exact .inl hs
  · next r hr =>
    rw [Recognizer.extract] at h
    split at h
    · cases h
    · split at h
      · cases h
        exact .inr ⟨_, rfl⟩
      · split at h
        · cases h
        · cases h

theorem Recognizer.isSome_of_ofText_eq_nestedCapture {s : String} {opener : Char}
    {place : Option Nat} (h : ofText s = .error (.nestedCapture opener place)) : place.isSome := by
  rcases ofText_eq_error h with h | ⟨text, h⟩
  · exact Layout.offset?_of_parse_eq_error h
  · cases h

namespace Layout

theorem bind_patternText_eq_error_iff {s : String} {e : Fault} :
    (parse s).bind patternText = .error e ↔ parse s = .error e := by
  cases hs : parse s with
  | error e' => simp [Except.bind]
  | ok l =>
    obtain ⟨body, hbody⟩ := exists_patternTextList_of_parse hs
    have hpattern := patternText_of_eq_ok hbody
    refine iff_of_false (fun h => ?_) nofun
    cases hpattern.symm.trans h

/-- The parser rules out all nesting of capturing groups that a pattern could stumble over. So the
pattern of a text is refused for the faults of the text alone, and a capturing group inside another
one is always reported with its place. -/
theorem parse_rules_out_nesting (s : String) :
    (∀ l, parse s = .ok l → Node.FlatCaptures l.nodes ∧ ∃ text, l.patternText = .ok text) ∧
      (∀ e, (parse s).bind patternText = .error e ↔ parse s = .error e) ∧
      ∀ opener place,
        ((parse s).bind patternText = .error (.nestedCapture opener place) → place.isSome) ∧
        (Recognizer.ofText s = .error (.nestedCapture opener place) → place.isSome) ∧
        ∀ value, (validate s value = .error (.nestedCapture opener place) → place.isSome) ∧
          (extract s value = .error (.nestedCapture opener place) → place.isSome) := by
  refine ⟨fun l hl => ⟨flatCaptures_of_parse hl, ?_⟩, fun e => bind_patternText_eq_error_iff,
    fun opener place => ⟨fun h => ?_, fun h => ?_, fun value => ⟨fun h => ?_, fun h => ?_⟩⟩⟩
  · obtain ⟨body, hbody⟩ := exists_patternTextList_of_parse hl
    exact ⟨_, patternText_of_eq_ok hbody⟩
  · exact offset?_of_parse_eq_error (bind_patternText_eq_error_iff.1 h)
  · exact Recognizer.isSome_of_ofText_eq_nestedCapture h
  · exact Recognizer.isSome_of_ofText_eq_nestedCapture (validate_eq_error h)
  · rcases extract_eq_error h with h | ⟨count, h⟩
    · exact Recognizer.isSome_of_ofText_eq_nestedCapture h
    · cases h

/-- An optional group between two capturing ones does not hide the inner one from the parser. -/
theorem parse_rules_out_nesting_through_optional :
    (∃ l, parse "[(N)]" = .ok l ∧ Node.FlatCaptures l.nodes ∧ ∃ text, l.patternText = .ok text) ∧
      ∃ place, extract "([<N>])" "" = .error (.nestedCapture '<' place) ∧ place.isSome := by
  have hflat : parse "[(N)]" = .ok ⟨[.group .optional [.group .capture [.sign]]]⟩ := by
    decide +kernel
  have hnested : extract "([<N>])" "" = .error (.nestedCapture '<' (some 2)) := by decide +kernel
  refine ⟨⟨_, hflat, (parse_rules_out_nesting "[(N)]").1 _ hflat⟩, some 2, hnested, ?_⟩
  exact (((parse_rules_out_nesting "([<N>])").2.2 '<' (some 2)).2.2 "").2 hnested

end Layout

end FieldLayout
