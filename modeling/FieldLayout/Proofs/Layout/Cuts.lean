import FieldLayout.Proofs.Layout.Divisions
import FieldLayout.Proofs.Layout.PatternTree
import FieldLayout.Proofs.Pattern.Ways

/-!
# Divisions in order of preference

The divisions of a text along a layout can be listed, starting at a place of the text and in order
of preference. A cut is an entry of this list: a division of what stands between two places,
together with how far a match has come at the second one.

## Main definitions

* `StandsAt`: a text stands at a place of a longer one.
* `Cut`: a division of what stands between two places.
* `Node.cutsList`: the cuts along consecutive parts.

## Main statements

* `Node.divides_of_mem_cutsList`, `Node.exists_mem_cutsList`: the cuts are the divisions.
* `Node.pairwise_cutsList`: they are in order of preference.
* `Node.captured_of_mem_cutsList`: the marks of a cut delimit the piece that is captured.
-/

namespace FieldLayout

/-! ## Places -/

/-- A text stands at a place of a longer one. -/
def StandsAt (text : Array Char) (place : Nat) (cs : List Char) : Prop :=
  cs <+: text.toList.drop place

instance (text : Array Char) (place : Nat) (cs : List Char) : Decidable (StandsAt text place cs) :=
  inferInstanceAs (Decidable (cs <+: text.toList.drop place))

theorem standsAt_nil (text : Array Char) (place : Nat) : StandsAt text place [] :=
  List.nil_prefix

/-- The second part of a text stands behind the first. -/
theorem standsAt_append {text : Array Char} {place : Nat} {as bs : List Char} :
    StandsAt text place (as ++ bs) ↔
      StandsAt text place as ∧ StandsAt text (place + as.length) bs := by
  unfold StandsAt
  rw [← List.drop_drop]
  constructor
  · rintro ⟨rest, h⟩
    rw [← h, List.append_assoc, List.drop_left]
    exact ⟨⟨bs ++ rest, rfl⟩, ⟨rest, rfl⟩⟩
  · rintro ⟨⟨rest, h⟩, hbs⟩
    rw [← h, List.drop_left] at hbs
    obtain ⟨rest', rfl⟩ := hbs
    exact ⟨rest', by rw [← h, List.append_assoc]⟩

/-- Two texts that stand one behind the other reach as far as both together. -/
theorem StandsAt.append {text : Array Char} {i j k : Nat} {as bs : List Char}
    (ha : StandsAt text i as) (hj : j = i + as.length) (hb : StandsAt text j bs)
    (hk : k = j + bs.length) :
    StandsAt text i (as ++ bs) ∧ k = i + (as ++ bs).length := by
  subst hj
  refine ⟨standsAt_append.2 ⟨ha, hb⟩, ?_⟩
  rw [hk, List.length_append, Nat.add_assoc]

theorem standsAt_singleton {text : Array Char} {place : Nat} {c : Char} :
    StandsAt text place [c] ↔ text[place]? = some c := by
  unfold StandsAt
  rw [List.singleton_prefix_iff_head?_eq_some, List.head?_drop, Array.getElem?_toList]

theorem StandsAt.eq_of_length {text : Array Char} {cs : List Char} (h : StandsAt text 0 cs)
    (hlength : cs.length = text.size) : cs = text.toList :=
  List.IsPrefix.eq_of_length h hlength

/-- What stands between two places. -/
def segment (text : Array Char) (start stop : Nat) : List Char :=
  (text.toList.drop start).take (stop - start)

theorem StandsAt.segment_eq {text : Array Char} {place : Nat} {cs : List Char}
    (h : StandsAt text place cs) : segment text place (place + cs.length) = cs := by
  rw [segment, Nat.add_sub_cancel_left]
  exact (List.prefix_iff_eq_take.1 h).symm

/-! ## Characters -/

theorem CharRanges.contains_single (c d : Char) : (single c).contains d ↔ d = c := by
  simp only [CharRanges.contains, containsCode, single, CharRange.single, CharRange.contains,
    List.any_cons, List.any_nil, Bool.or_false, Bool.and_eq_true, decide_eq_true_eq,
    ← Char.toNat_inj]
  omega

/-- The characters of a text are read where the text stands. -/
theorem Progress.spell_eq (text : Array Char) (cs : List Char) (s : Progress) :
    s.spell text cs =
      if StandsAt text s.place cs then [⟨s.place + cs.length, s.marks⟩] else [] := by
  induction cs generalizing s with
  | nil =>
    rw [if_pos (standsAt_nil text s.place)]
    rfl
  | cons c cs ih =>
    have hcons : StandsAt text s.place ([c] ++ cs) ↔
        text[s.place]? = some c ∧ StandsAt text (s.place + 1) cs := by
      rw [standsAt_append, standsAt_singleton, List.length_singleton]
    have hlength : s.place + ([c] ++ cs).length = s.place + 1 + cs.length := by
      rw [List.length_append, List.length_singleton, Nat.add_assoc]
    rw [spell, read, show c :: cs = [c] ++ cs from rfl, hlength]
    simp only [hcons]
    cases text[s.place]? with
    | none => simp
    | some d =>
      by_cases hd : d = c
      · simp [hd, CharRanges.contains_single, ih]
      · simp [hd, CharRanges.contains_single]

namespace Charset

variable (set : Charset) (text : Array Char)

/-- A number of characters of a set stand at a place. -/
def fits (place : Nat) : Nat → Bool
  | 0 => true
  | n + 1 => text[place]?.any set.contains && fits (place + 1) n

theorem fits_add (place m n : Nat) :
    set.fits text place (m + n) = (set.fits text place m && set.fits text (place + m) n) := by
  induction m generalizing place with
  | zero => simp [fits]
  | succ m ih =>
    rw [Nat.add_right_comm, fits, fits, ih, Bool.and_assoc, Nat.add_right_comm place 1 m,
      Nat.add_assoc place m 1]

theorem fits_iff (place n : Nat) : set.fits text place n ↔
    ∃ cs, StandsAt text place cs ∧ cs.length = n ∧ ∀ c ∈ cs, set.contains c := by
  induction n generalizing place with
  | zero =>
    refine iff_of_true rfl ⟨[], standsAt_nil text place, rfl, ?_⟩
    simp
  | succ n ih =>
    rw [fits, Bool.and_eq_true, ih, Option.any_eq_true]
    constructor
    · rintro ⟨⟨c, hc, hset⟩, cs, hcs, hlength, hall⟩
      refine ⟨[c] ++ cs, standsAt_append.2 ⟨standsAt_singleton.2 hc, hcs⟩, by simp [hlength], ?_⟩
      simpa using ⟨hset, hall⟩
    · rintro ⟨cs, hcs, hlength, hall⟩
      obtain ⟨c, cs, rfl⟩ := List.exists_cons_of_length_eq_add_one hlength
      obtain ⟨hc, hcs⟩ := standsAt_append.1 (show StandsAt text place ([c] ++ cs) from hcs)
      refine ⟨⟨c, standsAt_singleton.1 hc, hall c List.mem_cons_self⟩, cs, hcs, ?_, ?_⟩
      · simpa using hlength
      · exact fun d hd => hall d (List.mem_cons_of_mem _ hd)

/-- Reading a character of a set. -/
theorem read_ranges (s : Progress) : s.read text set.ranges =
    if text[s.place]?.any set.contains then [⟨s.place + 1, s.marks⟩] else [] := by
  rw [Progress.read]
  cases text[s.place]? with
  | none => rfl
  | some c => simp only [contains_ranges, Option.any_some]

/-- A number of rounds reads that number of characters. -/
theorem rounds_read (n : Nat) (s : Progress) :
    Progress.rounds (fun u => u.read text set.ranges) n s =
      if set.fits text s.place n then [⟨s.place + n, s.marks⟩] else [] := by
  induction n generalizing s with
  | zero => rfl
  | succ n ih =>
    rw [Progress.rounds, read_ranges, fits]
    by_cases h : text[s.place]?.any set.contains
    · rw [if_pos h, List.flatMap_singleton, ih, h, Bool.true_and, Nat.add_assoc, Nat.add_comm 1]
    · rw [if_neg h, if_neg (by simp [h]), List.flatMap_nil]

/-- Up to a number of rounds reads up to that number of characters, more rather than less. -/
theorem upToRounds_read (n : Nat) (s : Progress) :
    Progress.upToRounds (fun u => u.read text set.ranges) true n s =
      ((List.range (n + 1)).reverse.filter (set.fits text s.place)).map
        fun k => ⟨s.place + k, s.marks⟩ := by
  induction n generalizing s with
  | zero => rfl
  | succ n ih =>
    rw [Progress.upToRounds, if_pos rfl, read_ranges, List.range_succ_eq_map, List.reverse_cons,
      List.filter_append, List.map_append]
    congr 1
    rw [← List.map_reverse, List.filter_map, List.map_map]
    by_cases h : text[s.place]?.any set.contains
    · have hfits : (set.fits text s.place ∘ Nat.succ) = set.fits text (s.place + 1) := by
        funext k
        simp [fits, h]
      rw [if_pos h, List.flatMap_singleton, ih, hfits]
      refine List.map_congr_left fun k _ => ?_
      simp only [Function.comp_apply, Progress.mk.injEq, and_true]
      omega
    · have hfits : (set.fits text s.place ∘ Nat.succ) = fun _ => false := by
        funext k
        simp [fits, h]
      rw [if_neg h, hfits]
      simp

end Charset

/-- The numbers of characters that a field can take at a place, in order of preference. -/
def Field.lengths (f : Field) (text : Array Char) (place : Nat) : List Nat :=
  (List.range' f.min.toNat (f.max.toNat + 1 - f.min.toNat)).reverse.filter
    (f.charset.fits text place)

theorem Field.mem_lengths {f : Field} {text : Array Char} {place n : Nat} :
    n ∈ f.lengths text place ↔
      f.min.toNat ≤ n ∧ n ≤ f.max.toNat ∧ f.charset.fits text place n := by
  rw [lengths, List.mem_filter, List.mem_reverse, List.mem_range'_1]
  constructor
  · rintro ⟨⟨h₁, h₂⟩, hfits⟩
    exact ⟨h₁, by omega, hfits⟩
  · rintro ⟨h₁, h₂, hfits⟩
    exact ⟨⟨h₁, by omega⟩, hfits⟩

theorem Field.pairwise_lengths (f : Field) (text : Array Char) (place : Nat) :
    (f.lengths text place).Pairwise fun m n => n < m := by
  refine List.Pairwise.filter _ ?_
  rw [List.pairwise_reverse]
  exact List.pairwise_lt_range'

/-! ## Cuts -/

/-- A division of what stands between two places, and how far a match has come at the second one. -/
structure Cut where
  /-- The division. -/
  division : Division
  /-- How far a match has come. -/
  reached : Progress
  deriving DecidableEq, Repr

namespace Cut

/-- A cut without choices. -/
def plain (s : Progress) : Cut := ⟨⟨[], []⟩, s⟩

/-- A cut with one choice. -/
def choose (choice : Choice) (s : Progress) : Cut := ⟨⟨[choice], []⟩, s⟩

/-- A cut followed by another one. -/
def append (a b : Cut) : Cut :=
  ⟨⟨a.division.choices ++ b.division.choices, a.division.captured ++ b.division.captured⟩,
    b.reached⟩

/-- A cut of the content of an optional group. -/
def entered (a : Cut) : Cut := ⟨⟨.enter :: a.division.choices, a.division.captured⟩, a.reached⟩

/-- A cut of the content of a capturing group that starts at a place. -/
def grasped (text : Array Char) (start index : Nat) (a : Cut) : Cut :=
  ⟨⟨a.division.choices, segment text start a.reached.place :: a.division.captured⟩,
    a.reached.note (Program.stopSlot index)⟩

/-- The choices of a cut come before those of another one. -/
def Before (a b : Cut) : Prop := Choice.Earlier a.division.choices b.division.choices

/-- No group captures a piece, and no place is noted. -/
def IsQuiet (s : Progress) (a : Cut) : Prop :=
  a.division.captured = [] ∧ a.reached.marks = s.marks

/-- One group captures a piece, and the places around it are noted. -/
def IsCapture (text : Array Char) (index : Nat) (s : Progress) (a : Cut) : Prop :=
  ∃ start stop, a.division.captured = [segment text start stop] ∧
    a.reached.marks =
      (Program.stopSlot index, stop) :: (Program.startSlot index, start) :: s.marks

variable {text : Array Char} {index : Nat} {s : Progress} {a b : Cut}

theorem IsQuiet.append (ha : a.IsQuiet s) (hb : b.IsQuiet a.reached) : (a.append b).IsQuiet s :=
  ⟨by rw [Cut.append, ha.1, hb.1, List.nil_append], hb.2.trans ha.2⟩

theorem IsQuiet.append_isCapture (ha : a.IsQuiet s) (hb : b.IsCapture text index a.reached) :
    (a.append b).IsCapture text index s := by
  obtain ⟨start, stop, hcaptured, hmarks⟩ := hb
  refine ⟨start, stop, ?_, ?_⟩
  · rw [Cut.append, ha.1, hcaptured, List.nil_append]
  · rw [Cut.append, hmarks, ha.2]

theorem IsCapture.append_isQuiet (ha : a.IsCapture text index s) (hb : b.IsQuiet a.reached) :
    (a.append b).IsCapture text index s := by
  obtain ⟨start, stop, hcaptured, hmarks⟩ := ha
  refine ⟨start, stop, ?_, ?_⟩
  · rw [Cut.append, hcaptured, hb.1, List.append_nil]
  · rw [Cut.append, hb.2, hmarks]

end Cut

mutual

/-- The cuts along a part, from a place and in order of preference. The number is that of the
capturing groups before it. -/
def Node.cuts (text : Array Char) (index : Nat) : Node → Progress → List Cut
  | .literal t, s => (s.spell text t.toList).map .plain
  | .field f, s =>
    (f.lengths text s.place).map fun n => .choose (.take n) ⟨s.place + n, s.marks⟩
  | .date _, s | .sign, s => [.plain s]
  | .group bracket children, s =>
    if bracket.captures then
      (Node.cutsList text (index + 1) children (s.note (Program.startSlot (index + 1)))).map
        (.grasped text s.place (index + 1))
    else (Node.cutsList text index children s).map .entered ++ [.choose .skip s]

/-- The cuts along consecutive parts. -/
def Node.cutsList (text : Array Char) (index : Nat) : List Node → Progress → List Cut
  | [], s => [.plain s]
  | n :: ns, s =>
    (n.cuts text index s).flatMap fun a =>
      (Node.cutsList text (index + n.captureCount) ns a.reached).map a.append

end

theorem Bracket.eq_optional_of_not_captures {b : Bracket} (h : ¬ b.captures) : b = .optional := by
  cases b with
  | optional => rfl
  | capture | reformat => exact absurd rfl h

namespace Node

variable {text : Array Char}

theorem mem_cutsList_cons {index : Nat} {n : Node} {ns : List Node} {s : Progress} {a : Cut} :
    a ∈ cutsList text index (n :: ns) s ↔ ∃ b ∈ n.cuts text index s,
      ∃ c ∈ cutsList text (index + n.captureCount) ns b.reached, b.append c = a := by
  simp only [cutsList, List.mem_flatMap, List.mem_map]

/-- A cut stands for a division of what stands between its two places. -/
def CutDivides (text : Array Char) (ns : List Node) (s : Progress) (a : Cut) : Prop :=
  ∃ cs, StandsAt text s.place cs ∧ a.reached.place = s.place + cs.length ∧
    Divides ns cs a.division

/-- Every cut is a division. -/
theorem divides_of_mem_cutsList {ns : List Node} {index : Nat} {s : Progress} {a : Cut}
    (h : a ∈ cutsList text index ns s) : CutDivides text ns s a := by
  induction ns using Node.sequence_induction generalizing index s a with
  | nil =>
    obtain rfl := List.mem_singleton.1 h
    exact ⟨[], standsAt_nil text s.place, rfl, .nil⟩
  | literal t ns ih =>
    obtain ⟨b, hb, c, hc, rfl⟩ := mem_cutsList_cons.1 h
    obtain ⟨cs, hcs, hplace, hd⟩ := ih hc
    rw [cuts, Progress.spell_eq] at hb
    split at hb
    · next hstands =>
      obtain rfl := List.mem_singleton.1 hb
      obtain ⟨hall, hend⟩ := StandsAt.append hstands rfl hcs hplace
      exact ⟨t.toList ++ cs, hall, hend, .literal t hd⟩
    · cases hb
  | field f ns ih =>
    obtain ⟨b, hb, c, hc, rfl⟩ := mem_cutsList_cons.1 h
    obtain ⟨cs, hcs, hplace, hd⟩ := ih hc
    obtain ⟨n, hn, rfl⟩ := List.mem_map.1 hb
    obtain ⟨hmin, hmax, hfits⟩ := Field.mem_lengths.1 hn
    obtain ⟨piece, hpiece, rfl, hset⟩ := (Charset.fits_iff _ _ _ _).1 hfits
    obtain ⟨hall, hend⟩ := StandsAt.append hpiece rfl hcs hplace
    exact ⟨piece ++ cs, hall, hend, .field f piece hmin hmax hset hd⟩
  | date run ns ih =>
    obtain ⟨b, hb, c, hc, rfl⟩ := mem_cutsList_cons.1 h
    obtain rfl := List.mem_singleton.1 hb
    obtain ⟨cs, hcs, hplace, hd⟩ := ih hc
    exact ⟨cs, hcs, hplace, .date run hd⟩
  | sign ns ih =>
    obtain ⟨b, hb, c, hc, rfl⟩ := mem_cutsList_cons.1 h
    obtain rfl := List.mem_singleton.1 hb
    obtain ⟨cs, hcs, hplace, hd⟩ := ih hc
    exact ⟨cs, hcs, hplace, .sign hd⟩
  | group bracket children ns ihc ih =>
    obtain ⟨b, hb, c, hc, rfl⟩ := mem_cutsList_cons.1 h
    obtain ⟨cs, hcs, hplace, hd⟩ := ih hc
    rw [cuts] at hb
    split at hb
    · next hcaptures =>
      obtain ⟨inner, hinner, rfl⟩ := List.mem_map.1 hb
      obtain ⟨piece, hpiece, hreached, hdivides⟩ := ihc hinner
      obtain ⟨hall, hend⟩ := StandsAt.append hpiece hreached hcs hplace
      -- The piece is the stretch between the two marks.
      have hsegment : segment text s.place inner.reached.place = piece := by
        rw [hreached]
        exact StandsAt.segment_eq hpiece
      refine ⟨piece ++ cs, hall, hend, ?_⟩
      simp only [Cut.append, Cut.grasped, hsegment]
      exact .capture hcaptures hdivides hd
    · next hcaptures =>
      obtain rfl := Bracket.eq_optional_of_not_captures hcaptures
      rcases List.mem_append.1 hb with hb | hb
      · obtain ⟨inner, hinner, rfl⟩ := List.mem_map.1 hb
        obtain ⟨piece, hpiece, hreached, hdivides⟩ := ihc hinner
        obtain ⟨hall, hend⟩ := StandsAt.append hpiece hreached hcs hplace
        exact ⟨piece ++ cs, hall, hend, .enter hdivides hd⟩
      · obtain rfl := List.mem_singleton.1 hb
        exact ⟨cs, hcs, hplace, .skip hd⟩

/-- Every division is that of a cut. -/
theorem exists_mem_cutsList {ns : List Node} {cs : List Char} {d : Division}
    (h : Divides ns cs d) (index : Nat) {s : Progress} (hs : StandsAt text s.place cs) :
    ∃ a ∈ cutsList text index ns s, a.division = d ∧ a.reached.place = s.place + cs.length := by
  induction h generalizing index s with
  | nil => exact ⟨_, List.mem_singleton_self _, rfl, rfl⟩
  | @literal ns cs d t rest ih =>
    obtain ⟨hstands, hcs⟩ := standsAt_append.1 hs
    obtain ⟨c, hc, rfl, hplace⟩ := ih (index + 0) (s := ⟨s.place + t.toList.length, s.marks⟩) hcs
    refine ⟨_, mem_cutsList_cons.2 ⟨.plain ⟨s.place + t.toList.length, s.marks⟩, ?_, c, hc, rfl⟩,
      rfl, ?_⟩
    · rw [cuts, Progress.spell_eq, if_pos hstands]
      exact List.mem_singleton_self _
    · rw [List.length_append, ← Nat.add_assoc]
      exact hplace
  | @field ns cs d f piece hmin hmax hset rest ih =>
    obtain ⟨hpiece, hcs⟩ := standsAt_append.1 hs
    obtain ⟨c, hc, rfl, hplace⟩ := ih (index + 0) (s := ⟨s.place + piece.length, s.marks⟩) hcs
    have hfits := (Charset.fits_iff f.charset text s.place _).2 ⟨piece, hpiece, rfl, hset⟩
    refine ⟨_, mem_cutsList_cons.2 ⟨_, List.mem_map.2 ⟨piece.length,
      Field.mem_lengths.2 ⟨hmin, hmax, hfits⟩, rfl⟩, c, hc, rfl⟩, rfl, ?_⟩
    rw [List.length_append, ← Nat.add_assoc]
    exact hplace
  | date run rest ih =>
    obtain ⟨c, hc, rfl, hplace⟩ := ih (index + 0) hs
    exact ⟨_, mem_cutsList_cons.2 ⟨_, List.mem_singleton_self _, c, hc, rfl⟩, rfl, hplace⟩
  | sign rest ih =>
    obtain ⟨c, hc, rfl, hplace⟩ := ih (index + 0) hs
    exact ⟨_, mem_cutsList_cons.2 ⟨_, List.mem_singleton_self _, c, hc, rfl⟩, rfl, hplace⟩
  | @enter children ns piece cs inner d content rest ihc ih =>
    obtain ⟨hpiece, hcs⟩ := standsAt_append.1 hs
    obtain ⟨b, hb, rfl, hreached⟩ := ihc index hpiece
    rw [← hreached] at hcs
    obtain ⟨c, hc, rfl, hplace⟩ := ih (index + (group .optional children).captureCount) hcs
    refine ⟨_, mem_cutsList_cons.2 ⟨b.entered, ?_, c, hc, rfl⟩, rfl, ?_⟩
    · exact List.mem_append_left _ (List.mem_map_of_mem hb)
    · rw [List.length_append, ← Nat.add_assoc, ← hreached]
      exact hplace
  | @skip children ns cs d rest ih =>
    obtain ⟨c, hc, rfl, hplace⟩ := ih (index + (group .optional children).captureCount) hs
    refine ⟨_, mem_cutsList_cons.2 ⟨.choose .skip s, ?_, c, hc, rfl⟩, rfl, hplace⟩
    exact List.mem_append_right _ (List.mem_singleton_self _)
  | @capture bracket children ns piece cs inner d hb content rest ihc ih =>
    obtain ⟨hpiece, hcs⟩ := standsAt_append.1 hs
    obtain ⟨b, hmem, rfl, hreached⟩ :=
      ihc (index + 1) (s := s.note (Program.startSlot (index + 1))) hpiece
    replace hreached : b.reached.place = s.place + piece.length := hreached
    rw [← hreached] at hcs
    -- Noting the end of the group does not change the place.
    obtain ⟨c, hc, rfl, hplace⟩ := ih (index + (group bracket children).captureCount)
      (s := b.reached.note (Program.stopSlot (index + 1))) hcs
    refine ⟨_, mem_cutsList_cons.2 ⟨b.grasped text s.place (index + 1), ?_, c, hc, rfl⟩, ?_, ?_⟩
    · rw [cuts, if_pos hb]
      exact List.mem_map_of_mem hmem
    · simp only [Cut.append, Cut.grasped, hreached, hpiece.segment_eq, List.cons_append]
    · rw [List.length_append, ← Nat.add_assoc, ← hreached]
      exact hplace

/-! ### Order -/

/-- Cuts along consecutive parts are in order if those along the first part are, and those along the
others. -/
theorem pairwise_cutsList_cons {index : Nat} {n : Node} {ns : List Node} {s : Progress}
    (hn : (n.cuts text index s).Pairwise Cut.Before)
    (hns : ∀ index s, (cutsList text index ns s).Pairwise Cut.Before) :
    (cutsList text index (n :: ns) s).Pairwise Cut.Before := by
  rw [cutsList, List.pairwise_flatMap]
  -- Cuts that agree on the first part differ later; other cuts differ in the first part already.
  constructor
  · intro a _
    rw [List.pairwise_map]
    exact (hns _ _).imp fun h => h.append_left a.division.choices
  · refine hn.imp fun {a b} h x hx y hy => ?_
    obtain ⟨c, -, rfl⟩ := List.mem_map.1 hx
    obtain ⟨d, -, rfl⟩ := List.mem_map.1 hy
    exact h.append_right c.division.choices d.division.choices

/-- Cuts are in order of preference. -/
theorem pairwise_cutsList (ns : List Node) (index : Nat) (s : Progress) :
    (cutsList text index ns s).Pairwise Cut.Before := by
  induction ns using Node.sequence_induction generalizing index s with
  | nil => exact List.pairwise_singleton _ _
  | literal t ns ih =>
    refine pairwise_cutsList_cons ?_ ih
    rw [cuts, Progress.spell_eq]
    split
    · exact List.pairwise_singleton _ _
    · exact List.Pairwise.nil
  | field f ns ih =>
    refine pairwise_cutsList_cons ?_ ih
    rw [cuts, List.pairwise_map]
    exact (f.pairwise_lengths text s.place).imp fun {m n} h =>
      .of_before (a := .take m) (b := .take n) h [] []
  | date run ns ih => exact pairwise_cutsList_cons (List.pairwise_singleton _ _) ih
  | sign ns ih => exact pairwise_cutsList_cons (List.pairwise_singleton _ _) ih
  | group bracket children ns ihc ih =>
    refine pairwise_cutsList_cons ?_ ih
    rw [cuts]
    split
    · rw [List.pairwise_map]
      exact ihc (index + 1) (s.note (Program.startSlot (index + 1)))
    · rw [List.pairwise_append, List.pairwise_map]
      refine ⟨(ihc index s).imp fun h => h.cons .enter, List.pairwise_singleton _ _, ?_⟩
      intro a ha b hb
      obtain ⟨inner, -, rfl⟩ := List.mem_map.1 ha
      obtain rfl := List.mem_singleton.1 hb
      exact .of_before (a := .enter) (b := .skip) trivial inner.division.choices []

/-! ### Captured pieces -/

/-- If a part and the parts behind it have one capturing group at most, a cut along all of them
captures what one of its two halves captures. -/
theorem captured_append {index : Nat} {n : Node} {ns : List Node} {s : Progress} {b c : Cut}
    (hcount : captureCountList (n :: ns) ≤ 1)
    (hb : b.IsQuiet s ∨ n.captureCount = 1 ∧ b.IsCapture text (index + 1) s)
    (hc : captureCountList ns ≤ 1 → c.IsQuiet b.reached ∨
      captureCountList ns = 1 ∧ c.IsCapture text (index + n.captureCount + 1) b.reached) :
    (b.append c).IsQuiet s ∨
      captureCountList (n :: ns) = 1 ∧ (b.append c).IsCapture text (index + 1) s := by
  rw [captureCountList] at hcount ⊢
  have hle : captureCountList ns ≤ 1 := by omega
  rcases hb with hb | ⟨hn, hb⟩
  · rcases hc hle with hc | ⟨hns, hc⟩
    · exact .inl (hb.append hc)
    · have hn : n.captureCount = 0 := by omega
      rw [hn] at hc ⊢
      exact .inr ⟨by omega, hb.append_isCapture hc⟩
  · rcases hc hle with hc | ⟨hns, -⟩
    · exact .inr ⟨by omega, hb.append_isQuiet hc⟩
    · omega

/-- If there is one capturing group at most, the marks of a cut delimit the piece that it captures.
-/
theorem captured_of_mem_cutsList {ns : List Node} {index : Nat} {s : Progress} {a : Cut}
    (hcount : captureCountList ns ≤ 1) (h : a ∈ cutsList text index ns s) :
    a.IsQuiet s ∨ captureCountList ns = 1 ∧ a.IsCapture text (index + 1) s := by
  induction ns using Node.sequence_induction generalizing index s a with
  | nil =>
    obtain rfl := List.mem_singleton.1 h
    exact .inl ⟨rfl, rfl⟩
  | literal t ns ih =>
    obtain ⟨b, hb, c, hc, rfl⟩ := mem_cutsList_cons.1 h
    refine captured_append hcount (.inl ?_) (fun hle => ih hle hc)
    rw [cuts, Progress.spell_eq] at hb
    split at hb
    · obtain rfl := List.mem_singleton.1 hb
      exact ⟨rfl, rfl⟩
    · cases hb
  | field f ns ih =>
    obtain ⟨b, hb, c, hc, rfl⟩ := mem_cutsList_cons.1 h
    obtain ⟨k, -, rfl⟩ := List.mem_map.1 hb
    exact captured_append hcount (.inl ⟨rfl, rfl⟩) fun hle => ih hle hc
  | date run ns ih =>
    obtain ⟨b, hb, c, hc, rfl⟩ := mem_cutsList_cons.1 h
    obtain rfl := List.mem_singleton.1 hb
    exact captured_append hcount (.inl ⟨rfl, rfl⟩) fun hle => ih hle hc
  | sign ns ih =>
    obtain ⟨b, hb, c, hc, rfl⟩ := mem_cutsList_cons.1 h
    obtain rfl := List.mem_singleton.1 hb
    exact captured_append hcount (.inl ⟨rfl, rfl⟩) fun hle => ih hle hc
  | group bracket children ns ihc ih =>
    obtain ⟨b, hb, c, hc, rfl⟩ := mem_cutsList_cons.1 h
    refine captured_append hcount ?_ (fun hle => ih hle hc)
    rw [captureCountList, captureCount] at hcount
    rw [captureCount]
    rw [cuts] at hb
    split at hb
    · next hcaptures =>
      rw [if_pos hcaptures] at hcount ⊢
      obtain ⟨inner, hinner, rfl⟩ := List.mem_map.1 hb
      -- The group is the only one, so nothing inside of it captures.
      rcases ihc (by omega) hinner with ⟨hcaptured, hmarks⟩ | ⟨hone, -⟩
      · refine .inr ⟨by omega, s.place, inner.reached.place, ?_, ?_⟩
        · rw [Cut.grasped, hcaptured]
        · rw [Cut.grasped, Progress.note, hmarks, Progress.note]
      · omega
    · next hcaptures =>
      rw [if_neg hcaptures, Nat.zero_add] at hcount ⊢
      rcases List.mem_append.1 hb with hb | hb
      · obtain ⟨inner, hinner, rfl⟩ := List.mem_map.1 hb
        rcases ihc (by omega) hinner with hquiet | ⟨hone, hcapture⟩
        · exact .inl hquiet
        · exact .inr ⟨hone, hcapture⟩
      · obtain rfl := List.mem_singleton.1 hb
        exact .inl ⟨rfl, rfl⟩

end Node

/-! ## Cuts of the whole text -/

namespace Layout

variable {l : Layout} {text : Array Char}

/-- The cuts of the whole of a text, in order of preference. -/
def cuts (l : Layout) (text : Array Char) : List Cut :=
  (Node.cutsList text 0 l.nodes ⟨0, []⟩).filter fun a => a.reached.place = text.size

theorem divides_of_mem_cuts {a : Cut} (h : a ∈ l.cuts text) : l.Divides text.toList a.division := by
  obtain ⟨hmem, hplace⟩ := List.mem_filter.1 h
  obtain ⟨cs, hcs, hreached, hd⟩ := Node.divides_of_mem_cutsList hmem
  have hlength : cs.length = text.size := by
    rw [decide_eq_true_iff, hreached] at hplace
    simpa using hplace
  rwa [hcs.eq_of_length hlength] at hd

theorem exists_mem_cuts {d : Division} (h : l.Divides text.toList d) :
    ∃ a ∈ l.cuts text, a.division = d := by
  have hstands : StandsAt text 0 text.toList := List.prefix_refl _
  obtain ⟨a, ha, hd, hplace⟩ := Node.exists_mem_cutsList h 0 (s := ⟨0, []⟩) hstands
  refine ⟨a, List.mem_filter.2 ⟨ha, ?_⟩, hd⟩
  simp [hplace]

/-- The first cut is that of the preferred division. -/
theorem prefers_of_head?_cuts {a : Cut} (h : (l.cuts text).head? = some a) :
    l.Prefers text.toList a.division := by
  obtain ⟨others, hcuts⟩ := List.head?_eq_some_iff.1 h
  have hordered : (a :: others).Pairwise Cut.Before := by
    rw [← hcuts]
    exact (Node.pairwise_cutsList l.nodes 0 ⟨0, []⟩).filter _
  refine ⟨divides_of_mem_cuts (List.mem_of_mem_head? h), fun e he => ?_⟩
  -- Every other division belongs to a cut further behind.
  obtain ⟨b, hb, rfl⟩ := exists_mem_cuts he
  rw [hcuts] at hb
  rcases List.mem_cons.1 hb with rfl | hb
  · exact .inl rfl
  · exact .inr ((List.pairwise_cons.1 hordered).1 b hb)

theorem head?_cuts_eq_none_iff : (l.cuts text).head? = none ↔ ¬ ∃ d, l.Divides text.toList d := by
  rw [List.head?_eq_none_iff, List.eq_nil_iff_forall_not_mem]
  constructor
  · rintro h ⟨d, hd⟩
    obtain ⟨a, ha, -⟩ := exists_mem_cuts hd
    exact h a ha
  · exact fun h a ha => h ⟨a.division, divides_of_mem_cuts ha⟩

/-- A text that can be divided has a preferred division, which is that of the first cut. -/
theorem exists_head?_cuts (h : ∃ d, l.Divides text.toList d) :
    ∃ a, (l.cuts text).head? = some a ∧ l.Prefers text.toList a.division := by
  obtain ⟨a, ha⟩ : ∃ a, (l.cuts text).head? = some a := by
    rw [← Option.ne_none_iff_exists']
    exact fun hnone => head?_cuts_eq_none_iff.1 hnone h
  exact ⟨a, ha, prefers_of_head?_cuts ha⟩

end Layout

end FieldLayout
