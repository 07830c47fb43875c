import FieldLayout.Proofs.Layout.CaptureMarks
import FieldLayout.Proofs.Refusal

/-!
# The number of capturing groups

The capturing groups are counted twice. A layout counts the groups in its tree, and a recognizer
counts the groups that were found when its pattern was read. The pattern has more round brackets
than these: some stand in a set of characters, and some open a group that does not capture. Without
marks of the pattern language in the literals the two numbers agree all the same, and for a layout
that was read from a text both are the number of marks that open capturing groups there.

So whether a value can be extracted is decided by the layout.

## Main statements

* `Recognizer.eq_of_ofLayout_eq_ok`: a recognizer holds the pattern that its layout stands for.
* `Recognizer.captureCount_agrees`: the two numbers agree, and several groups prevent an extraction.
-/

namespace FieldLayout

namespace Recognizer

variable {l : Layout} {r : Recognizer}

/-- A recognizer holds the pattern that its layout stands for. No limit has to be assumed, since
there is no recognizer beyond the limits. -/
theorem eq_of_ofLayout_eq_ok (hplain : l.IsPlain) (h : ofLayout l = .ok r) :
    l.patternText = .ok r.patternText ∧ r.pattern = ⟨l.patternPlan⟩ := by
  rw [ofLayout] at h
  split at h
  · cases h
  · next text htext =>
    split at h
    · cases h
    · next pattern hpattern =>
      have hordered : ∀ f ∈ l.fields, f.min ≤ f.max := by
        refine Field.not_reversed_iff.1 fun hreversed => ?_
        rw [Pattern.ofText?, Expr.ofText?_patternText_eq_none hplain hreversed htext] at hpattern
        cases hpattern
      rw [Pattern.ofText?, Expr.ofText?_patternText ⟨hplain, hordered⟩ htext] at hpattern
      dsimp only at hpattern
      split at hpattern
      · cases hpattern
        cases h
        exact ⟨htext, rfl⟩
      · cases hpattern

theorem captureCount_eq_of_ofLayout (hplain : l.IsPlain) (h : ofLayout l = .ok r) :
    r.captureCount = l.captureCount := by
  obtain ⟨-, hpattern⟩ := eq_of_ofLayout_eq_ok hplain h
  rw [captureCount, hpattern]
  exact l.lastGroup_patternPlan

/-- An extraction fails if and only if the value is accepted and there are several groups. -/
theorem extract_eq_error_iff {value : String} {e : Fault} : r.extract value = .error e ↔
    r.accepts value ∧ 2 ≤ r.captureCount ∧ e = .severalCaptures r.captureCount := by
  rw [extract, accepts]
  cases r.pattern.find? value with
  | none => simp
  | some found =>
    dsimp only
    by_cases hseveral : 1 < r.captureCount
    · simp [hseveral, Nat.succ_le_of_lt hseveral, eq_comm]
    · rw [if_neg hseveral]
      split
      all_goals simp [hseveral, Nat.succ_le_iff]

/-- Without marks of the pattern language in the literals of a layout, its recognizer counts as many
groups as the layout has. For the layout of a text these are the marks that open capturing groups.
An extraction fails for several groups if and only if the value is accepted and the layout has
several. -/
theorem captureCount_agrees (hplain : l.IsPlain) (h : ofLayout l = .ok r) :
    r.captureCount = l.captureCount ∧
      (∀ s, Layout.parse s = .ok l →
        r.captureCount = s.toList.countP Token.isCaptureMark ∧
          l.captureCount = s.toList.countP Token.isCaptureMark) ∧
      ∀ value,
        ((∃ count, r.extract value = .error (.severalCaptures count)) ↔
          r.accepts value ∧ 2 ≤ l.captureCount) ∧
        ∀ count, r.extract value = .error (.severalCaptures count) → count = l.captureCount := by
  have hcount := captureCount_eq_of_ofLayout hplain h
  refine ⟨hcount, fun s hs => ?_, fun value => ⟨?_, fun count herror => ?_⟩⟩
  · have hmarks := Layout.captureCount_eq_countP hs
    exact ⟨hcount.trans hmarks, hmarks⟩
  · simp [extract_eq_error_iff, hcount]
  · obtain ⟨-, -, hfault⟩ := extract_eq_error_iff.1 herror
    rw [Fault.severalCaptures.inj hfault, hcount]

/-- A group inside another one, made by hand with an optional group in between, and two groups one
behind the other that are read from a text. -/
theorem captureCount_agrees_nested :
    (∃ l : Layout, ∃ r,
      l = ⟨[.group .capture [.field ⟨1, 2, .digits, 1⟩, .group .optional [.group .reformat []]]]⟩ ∧
      ofLayout l = .ok r ∧ r.captureCount = l.captureCount ∧ l.captureCount = 2 ∧
      ∀ value, (∃ count, r.extract value = .error (.severalCaptures count)) ↔
        r.accepts value ∧ 2 ≤ l.captureCount) ∧
    ∃ l r, Layout.parse "(2n)/[<3!a>]" = .ok l ∧ ofLayout l = .ok r ∧
      r.captureCount = "(2n)/[<3!a>]".toList.countP Token.isCaptureMark ∧
      l.captureCount = "(2n)/[<3!a>]".toList.countP Token.isCaptureMark := by
  constructor
  · have hlimits : Pattern.WithinLimits "^([0-9]\x7b1,2\x7d(?:())?)$" := by decide
    obtain ⟨r, hr, -⟩ := ofLayout_of_ordered
      (l := ⟨[.group .capture [.field ⟨1, 2, .digits, 1⟩, .group .optional [.group .reformat []]]]⟩)
      (by decide) (by decide) hlimits (by decide)
    obtain ⟨hcount, -, hextract⟩ := captureCount_agrees (by decide) hr
    exact ⟨_, r, rfl, hr, hcount, by decide, fun value => (hextract value).1⟩
  · have hlimits : Pattern.WithinLimits "^([0-9]\x7b1,2\x7d)/(?:([A-Z]\x7b3,3\x7d))?$" := by decide
    have hparse : Layout.parse "(2n)/[<3!a>]" = .ok ⟨[.group .capture [.field ⟨1, 2, .digits, 1⟩],
        .literal "/", .group .optional [.group .reformat [.field ⟨3, 3, .capitals, 1⟩]]]⟩ := by
      decide +kernel
    obtain ⟨r, hr, -⟩ := ofLayout_of_ordered
      (l := ⟨[.group .capture [.field ⟨1, 2, .digits, 1⟩],
        .literal "/", .group .optional [.group .reformat [.field ⟨3, 3, .capitals, 1⟩]]]⟩)
      (by decide) (by decide) hlimits (by decide)
    exact ⟨_, r, hparse, hr, (captureCount_agrees (by decide) hr).2.1 _ hparse⟩

end Recognizer

end FieldLayout
