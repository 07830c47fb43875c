import FieldLayout.Proofs.Layout.Nesting
import FieldLayout.Proofs.Layout.RoundTrip

/-!
# Layouts that are read back from their text

A layout made by hand can be written, but what is read back from its text may be another layout, or
nothing at all. The layouts that come back unchanged are the canonical ones. Here this is said part
by part: each part at any depth can be read, neighbours do not run into each other, and capturing
groups do not stand inside each other. This is what the check `Layout.isCanonical` decides.

## Main definitions

* `Node.IsReadable`: a part that is no group is read as it is written.
* `Node.HasSequence`: parts that follow each other at the top or in a group at any depth.
* `Node.AreCanonical`: the parts, with all parts inside them, are canonical.

## Main statements

* `Node.isCanonicalList_iff_areCanonical`: the check decides which parts are canonical.
* `Layout.parse_render_eq_ok_iff_areCanonical`: the canonical layouts are those that come back.
-/

namespace FieldLayout

namespace Node

/-- The text of the part is read as this part again, as far as it depends on the part alone. A group
is left to its content. -/
def IsReadable : Node → Prop
  | .literal text => ∃ c cs, text.toList = c :: cs ∧
      (Token.isPlainChar c ∨ c = '!' ∨ c = '*') ∧ ∀ d ∈ cs, Token.isPlainChar d
  | .field f => (1 < f.repeats ∧ f.min = 1) ∨ (f.repeats = 1 ∧ (f.min = 1 ∨ f.min = f.max))
  | .date run => run ≠ "" ∧ ∀ c ∈ run.toList, Token.isDateLetter c
  | .sign | .group _ _ => True

/-- Parts follow each other at the top or in a group, at any depth. -/
def HasSequence (ns ms : List Node) : Prop := ms = ns ∨ ∃ b, Occurs (.group b ms) ns

/-- The parts are canonical, and so is what is inside them. -/
structure AreCanonical (ns : List Node) : Prop where
  readable : ∀ n, Occurs n ns → n.IsReadable
  apart : ∀ ms, HasSequence ns ms → ms.IsChain fun n m => n.clashes m = false
  flat : FlatCaptures ns

variable {n : Node} {ns : List Node}

theorem areCanonical_nil : AreCanonical [] := by
  refine ⟨fun n h => absurd h not_occurs_nil, ?_, fun b children b' children' h => ?_⟩
  · rintro ms (rfl | ⟨b, h⟩)
    · exact List.isChain_nil
    · exact absurd h not_occurs_nil
  · exact absurd h not_occurs_nil

theorem areCanonical_cons : AreCanonical (n :: ns) ↔ n.IsReadable ∧
    (∀ b children, n = .group b children →
      (b.captures → captureCountList children = 0) ∧ AreCanonical children) ∧
    (∀ m ∈ ns.head?, n.clashes m = false) ∧ AreCanonical ns := by
  constructor
  · intro h
    obtain ⟨hgroup, hflat⟩ := flatCaptures_cons.1 h.flat
    obtain ⟨hhead, htail⟩ := List.isChain_cons.1 (h.apart (n :: ns) (.inl rfl))
    refine ⟨h.readable n (.here List.mem_cons_self), ?_, hhead, ?_⟩
    · rintro b children rfl
      refine ⟨(hgroup b children rfl).1, fun m hm => ?_, ?_, (hgroup b children rfl).2⟩
      · exact h.readable m (.inside List.mem_cons_self hm)
      · rintro ms (rfl | ⟨b', hms⟩)
        · exact h.apart ms (.inr ⟨b, .here List.mem_cons_self⟩)
        · exact h.apart ms (.inr ⟨b', .inside List.mem_cons_self hms⟩)
    · refine ⟨fun m hm => h.readable m (occurs_cons.2 (.inr (.inr hm))), ?_, hflat⟩
      rintro ms (rfl | ⟨b, hms⟩)
      · exact htail
      · exact h.apart ms (.inr ⟨b, occurs_cons.2 (.inr (.inr hms))⟩)
  · rintro ⟨hn, hgroup, hhead, hns⟩
    refine ⟨fun m hm => ?_, ?_, flatCaptures_cons.2 ⟨fun b children h => ?_, hns.flat⟩⟩
    · rcases occurs_cons.1 hm with rfl | ⟨b, children, h, hm⟩ | hm
      · exact hn
      · exact (hgroup b children h).2.readable m hm
      · exact hns.readable m hm
    · rintro ms (rfl | ⟨b, hms⟩)
      · exact List.isChain_cons.2 ⟨hhead, hns.apart ns (.inl rfl)⟩
      · rcases occurs_cons.1 hms with h | ⟨b', children, h, hms⟩ | hms
        · exact (hgroup b ms h.symm).2.apart ms (.inl rfl)
        · exact (hgroup b' children h).2.apart ms (.inr ⟨b, hms⟩)
        · exact hns.apart ms (.inr ⟨b, hms⟩)
    · exact ⟨(hgroup b children h).1, (hgroup b children h).2.flat⟩

theorem isCanonical_iff_isReadable : n.isCanonical ↔ n.IsReadable ∧ ∀ b children,
    n = .group b children →
      (b.captures → captureCountList children = 0) ∧ isCanonicalList children := by
  cases n with
  | literal text => simp [isCanonical, IsReadable, isLiteralText_iff]
  | field f => simp [isCanonical, IsReadable, Field.isCanonical_iff]
  | date run => simp [isCanonical_date_iff, IsReadable]
  | sign => simp [isCanonical, IsReadable]
  | group b children =>
    cases hb : b.captures with
    | true => simp [isCanonical, IsReadable, hb]
    | false => simp [isCanonical, IsReadable, hb]

/-- The check decides which parts are canonical. -/
theorem isCanonicalList_iff_areCanonical : isCanonicalList ns ↔ AreCanonical ns := by
  induction ns using Node.sequence_induction with
  | nil => exact iff_of_true rfl areCanonical_nil
  | literal text ns ih | field f ns ih | date run ns ih | sign ns ih =>
    rw [isCanonicalList_cons, areCanonical_cons, isCanonical_iff_isReadable, ih, and_assoc]
    simp
  | group b children ns ihc ih =>
    rw [isCanonicalList_cons, areCanonical_cons, isCanonical_iff_isReadable, ih, and_assoc]
    simp [ihc]

instance (ns : List Node) : Decidable (AreCanonical ns) :=
  decidable_of_iff _ isCanonicalList_iff_areCanonical

end Node

namespace Layout

theorem parse_render_eq_ok_iff_isCanonical {l : Layout} :
    parse l.render = .ok l ↔ l.isCanonical := by
  constructor
  · intro h
    -- What is written comes back normalized, so the layout was normalized before.
    have hcanonical := isCanonical_normalized_of_parse h
    have hread := parse_render_of_isCanonical hcanonical
    rw [render_normalized, h] at hread
    rwa [← Except.ok.inj hread] at hcanonical
  · exact parse_render_of_isCanonical

/-- The canonical layouts are those that are read back from their text. -/
theorem parse_render_eq_ok_iff_areCanonical (l : Layout) :
    parse l.render = .ok l ↔ Node.AreCanonical l.nodes :=
  parse_render_eq_ok_iff_isCanonical.trans Node.isCanonicalList_iff_areCanonical

end Layout

end FieldLayout
