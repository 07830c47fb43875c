import FieldLayout.Proofs.Layout.PatternPlan
import FieldLayout.Recognizer

/-!
# What a recognizer recognizes

A recognizer goes a long way round: the layout is written as a pattern, the pattern is read, planned
and programmed, and the program is searched for. For layouts without marks of the pattern language
in their literals all this comes back to the layout itself. The recognizer accepts the values that
the layout describes, and it extracts what the preferred division of the value captures.

## Main definitions

* `Pattern.WithinLimits`: the pattern of a text does not exceed the limits.

## Main statements

* `Recognizer.accepts_iff_mem_language`: the accepted values are those of the language.
* `Recognizer.extract_preferred`: the extracted part is captured by the preferred division.
-/

namespace FieldLayout

/-- If a text can be read as a pattern at all, the pattern is neither nested too deeply nor too
large. -/
def Pattern.WithinLimits (text : String) : Prop :=
  ∀ e, Expr.ofText? text = some e → e.depth ≤ Expr.maxDepth ∧ (Plan.ofExpr e).fits

instance (text : String) : Decidable (Pattern.WithinLimits text) :=
  inferInstanceAs (Decidable (∀ e, Expr.ofText? text = some e →
    e.depth ≤ Expr.maxDepth ∧ (Plan.ofExpr e).fits))

theorem Pattern.ofText?_of_withinLimits {text : String} {e : Expr} (he : Expr.ofText? text = some e)
    (h : Pattern.WithinLimits text) : Pattern.ofText? text = some ⟨Plan.ofExpr e⟩ := by
  obtain ⟨hdepth, hfits⟩ := h e he
  simp [Pattern.ofText?, he, hdepth, hfits]

namespace Recognizer

variable {l : Layout} {text : String}

/-- The search of the recognizer of a layout finds the first cut of the whole value. -/
theorem exists_find?_eq_head?_cuts (hplain : l.IsPlain) (hordered : ∀ f ∈ l.fields, f.min ≤ f.max)
    (htext : l.patternText = .ok text) (hlimits : Pattern.WithinLimits text) :
    ∃ r, ofLayout l = .ok r ∧ r.captureCount = l.captureCount ∧ ∀ value : String,
      r.pattern.find? value =
        (l.cuts value.toList.toArray).head?.map (·.reached.thread Program.done.entry) := by
  have hl : Node.Writable l.nodes := ⟨hplain, hordered⟩
  have hpattern : Pattern.ofText? text = some ⟨l.patternPlan⟩ :=
    Pattern.ofText?_of_withinLimits (Expr.ofText?_patternText hl htext) hlimits
  refine ⟨⟨l, text, ⟨l.patternPlan⟩⟩, ?_, l.lastGroup_patternPlan, fun value => ?_⟩
  · simp [ofLayout, htext, hpattern]
  · exact Layout.search_patternPlan hl value.toList.toArray

/-- Turning a layout into a pattern keeps its meaning: within the limits of patterns, a layout has a
recognizer, and this accepts the values that the layout describes. -/
theorem accepts_iff_mem_language (hplain : l.IsPlain) (hordered : ∀ f ∈ l.fields, f.min ≤ f.max)
    (htext : l.patternText = .ok text) (hlimits : Pattern.WithinLimits text) :
    ∃ r, ofLayout l = .ok r ∧
      ∀ value : String, r.accepts value = true ↔ value.toList ∈ l.language := by
  obtain ⟨r, hr, -, hfind⟩ := exists_find?_eq_head?_cuts hplain hordered htext hlimits
  refine ⟨r, hr, fun value => ?_⟩
  rw [accepts, hfind, Option.isSome_map, Layout.mem_language_iff, ← not_iff_not,
    Bool.not_eq_true, Option.isSome_eq_false_iff, Option.isNone_iff_eq_none]
  exact Layout.head?_cuts_eq_none_iff

/-- An optional reference number behind a fixed text. -/
theorem accepts_iff_mem_language_reference :
    ∃ l : Layout, ∃ r,
      l = ⟨[.literal "REF", .group .optional [.literal "/", .field ⟨1, 3, .digits, 1⟩]]⟩ ∧
      ofLayout l = .ok r ∧
      ∀ value : String, r.accepts value = true ↔ value.toList ∈ l.language := by
  have hlimits : Pattern.WithinLimits "^REF(?:/[0-9]\x7b1,3\x7d)?$" := by decide
  obtain ⟨r, hr⟩ := accepts_iff_mem_language
    (l := ⟨[.literal "REF", .group .optional [.literal "/", .field ⟨1, 3, .digits, 1⟩]]⟩)
    (by decide) (by decide) (by decide) hlimits
  refine ⟨⟨[.literal "REF", .group .optional [.literal "/", .field ⟨1, 3, .digits, 1⟩]]⟩, r, ?_⟩
  exact ⟨rfl, hr⟩

/-- With one group, what is extracted lies between the marks of this group. -/
theorem extract_of_find?_eq_some {r : Recognizer} {value : String} {t : Thread}
    (hcount : r.captureCount = 1) (hfind : r.pattern.find? value = some t) :
    r.extract value = .ok ((t.span? 1).map fun s => s.slice value) := by
  simp [extract, hfind, hcount]

theorem span?_of_isQuiet {a : Cut} (h : a.IsQuiet ⟨0, []⟩) (address index : Nat) :
    (a.reached.thread address).span? index = none := by
  rw [Thread.span?, Progress.thread, h.2]
  rfl

theorem span?_of_isCapture {chars : Array Char} {a : Cut} {index : Nat}
    (h : a.IsCapture chars index ⟨0, []⟩) (address : Nat) :
    ∃ s, (a.reached.thread address).span? index = some s ∧
      a.division.captured = [segment chars s.start s.stop] := by
  obtain ⟨start, stop, hcaptured, hmarks⟩ := h
  refine ⟨⟨start, stop⟩, ?_, hcaptured⟩
  have hslots : Program.startSlot index ≠ Program.stopSlot index := by
    unfold Program.startSlot Program.stopSlot
    omega
  simp [Thread.span?, Progress.thread, hmarks, List.lookup_cons, beq_false_of_ne hslots]

/-- If a layout has one capturing group, its recognizer extracts what this group takes in the
preferred division of a value. -/
theorem extract_preferred (hplain : l.IsPlain) (hordered : ∀ f ∈ l.fields, f.min ≤ f.max)
    (htext : l.patternText = .ok text) (hlimits : Pattern.WithinLimits text)
    (hcount : l.captureCount = 1) :
    ∃ r, ofLayout l = .ok r ∧ ∀ value : String,
      ((¬ ∃ d, l.Divides value.toList d) → r.extract value = .ok none) ∧
      ((∃ d, l.Divides value.toList d) → ∃! d, l.Prefers value.toList d) ∧
      ∀ d, l.Prefers value.toList d →
        (d.captured = [] ∧ r.extract value = .ok none) ∨
          ∃ piece, d.captured = [piece] ∧
            r.extract value = .ok (some (String.ofList piece)) := by
  obtain ⟨r, hr, hgroups, hfind⟩ := exists_find?_eq_head?_cuts hplain hordered htext hlimits
  rw [hcount] at hgroups
  have hfirst (value : String) (h : ∃ d, l.Divides value.toList d) :
      ∃ a, (l.cuts value.toList.toArray).head? = some a ∧ l.Prefers value.toList a.division :=
    Layout.exists_head?_cuts h
  refine ⟨r, hr, fun value => ⟨fun hnone => ?_, fun hsome => ?_, fun d hd => ?_⟩⟩
  · have hcuts : (l.cuts value.toList.toArray).head? = none :=
      Layout.head?_cuts_eq_none_iff.2 hnone
    rw [extract, hfind, hcuts]
    rfl
  · obtain ⟨a, -, ha⟩ := hfirst value hsome
    exact ⟨a.division, ha, fun e he => he.unique ha⟩
  · obtain ⟨a, hhead, ha⟩ := hfirst value ⟨d, hd.1⟩
    obtain rfl : d = a.division := hd.unique ha
    have hmem := (List.mem_filter.1 (List.mem_of_mem_head? hhead)).1
    rw [extract_of_find?_eq_some hgroups ((hfind value).trans (congrArg _ hhead))]
    -- The marks tell whether the group was entered.
    rcases Node.captured_of_mem_cutsList hcount.le hmem with hquiet | ⟨-, hcapture⟩
    · exact .inl ⟨hquiet.1, by rw [span?_of_isQuiet hquiet]; rfl⟩
    · obtain ⟨s, hspan, hpiece⟩ := span?_of_isCapture hcapture Program.done.entry
      exact .inr ⟨_, hpiece, by rw [hspan]; rfl⟩

/-- Digits of which the first ones are taken before an optional group can capture the others. -/
theorem extract_preferred_digits :
    ∃ l : Layout, ∃ r,
      l = ⟨[.field ⟨1, 2, .digits, 1⟩,
        .group .optional [.group .capture [.field ⟨0, 2, .digits, 1⟩]]]⟩ ∧
      ofLayout l = .ok r ∧ ∀ value : String,
        ((¬ ∃ d, l.Divides value.toList d) → r.extract value = .ok none) ∧
        ((∃ d, l.Divides value.toList d) → ∃! d, l.Prefers value.toList d) ∧
        ∀ d, l.Prefers value.toList d →
          (d.captured = [] ∧ r.extract value = .ok none) ∨
            ∃ piece, d.captured = [piece] ∧
              r.extract value = .ok (some (String.ofList piece)) := by
  have hlimits : Pattern.WithinLimits "^[0-9]\x7b1,2\x7d(?:([0-9]\x7b0,2\x7d))?$" := by decide
  obtain ⟨r, hr⟩ := extract_preferred
    (l := ⟨[.field ⟨1, 2, .digits, 1⟩,
      .group .optional [.group .capture [.field ⟨0, 2, .digits, 1⟩]]]⟩)
    (by decide) (by decide) (by decide) hlimits rfl
  refine ⟨⟨[.field ⟨1, 2, .digits, 1⟩,
    .group .optional [.group .capture [.field ⟨0, 2, .digits, 1⟩]]]⟩, r, ?_⟩
  exact ⟨rfl, hr⟩

end Recognizer

end FieldLayout
