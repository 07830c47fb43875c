import FieldLayout.Proofs.Layout.ImmediateNesting
import FieldLayout.Proofs.Recognition

/-!
# When a layout has a recognizer

Between a layout and its recognizer stand two checks: the layout must have a pattern, and the
pattern must be one that can be read. A layout without marks of the pattern language in its literals
fails the second check for one reason only. Some field has its bounds the wrong way round, and
reading stops at the counts of the first such field.

The parser makes such a field only from a greatest length of zero. The least length is one there,
unless an exclamation mark makes it zero as well.

## Main definitions

* `Builder.Stops`: reading finds no symbol at some place of a text.
* `Field.WrittenUnfixed`: a field is written among tokens without an exclamation mark.

## Main statements

* `Expr.ofText?_patternText_eq_none`: a field with reversed bounds spoils the whole pattern.
* `Recognizer.ofLayout_outcomes`: what comes of a layout without marks of the pattern language.
-/

namespace FieldLayout

theorem Field.not_reversed_iff {fs : List Field} :
    (¬ ∃ f ∈ fs, f.max < f.min) ↔ ∀ f ∈ fs, f.min ≤ f.max := by
  simp only [not_exists, not_and, UInt32.not_lt]

/-! ## Reading that stops -/

namespace Builder

variable {b b' : Builder} {cs rest : List Char} {inCapture : Bool} {first text : String}

/-- Reading gets to a place where no symbol can be read, however many symbols are allowed for. -/
def Stops (b : Builder) (cs : List Char) : Prop := ∀ n, cs.length ≤ n → read n b cs = none

theorem Reads.stops (h : b.Reads cs b' rest) (hrest : b'.Stops rest) : b.Stops cs := by
  intro n hn
  obtain ⟨m, hm, hread⟩ := h n hn
  rw [hread]
  exact hrest m hm

theorem stops_of_symbol {c : Char} (hflags : b.flags = .start)
    (hsymbol : Symbol.read false c cs = none) : b.Stops (c :: cs) := by
  intro n hn
  have hverbose : b.flags.verbose = false := by rw [hflags]; rfl
  cases n with
  | zero => cases hn
  | succ n =>
    rw [read]
    simp [hverbose, Verbose.skip, hsymbol]

theorem stops_field (hflags : b.flags = .start) {f : Field} (hf : f.max < f.min) :
    b.Stops (f.patternText.toList ++ rest) := by
  rw [Node.toList_patternText_field]
  simp only [List.append_assoc, List.cons_append, List.nil_append]
  refine (reads_charset hflags f.charset).stops ?_
  apply stops_of_symbol
  · exact hflags
  · rw [Symbol.read_counts_eq, if_neg (UInt32.not_le.2 hf)]

/-- Reading stops in a group if it stops in the content of the group. -/
theorem stops_group {bracket : Bracket} {children : List Node} (hflags : b.flags = .start)
    (hplain : Node.ArePlain children)
    (hfirst : (Node.group bracket children).patternText inCapture = .ok first)
    (hcontent : ∀ (b : Builder) (inCapture : Bool) (text : String) (rest : List Char),
      b.flags = .start → Node.patternTextList inCapture children = .ok text →
        Symbol.NotAsked rest → b.Stops (text.toList ++ rest)) :
    b.Stops (first.toList ++ rest) := by
  obtain ⟨body, hbody, htext⟩ := Node.patternText_group_eq_ok hfirst
  cases hb : bracket.captures with
  | true =>
    have hclose : Symbol.NotAsked (')' :: rest) := Symbol.NotAsked.cons (by decide) rest
    have hopen := Node.notAsked_patternTextList hplain hbody hclose
    have hstops := (reads_openCapture hflags hopen).stops (hcontent _ _ _ _ hflags hbody hclose)
    simpa [htext, hb] using hstops
  | false =>
    have hclose : Symbol.NotAsked (')' :: '?' :: rest) := Symbol.NotAsked.cons (by decide) _
    have hstops := (reads_openPlain hflags _).stops (hcontent _ _ _ _ hflags hbody hclose)
    simpa [htext, hb] using hstops

/-- A single part is read as its items. -/
theorem reads_patternText {n : Node} (hn : Node.Writable [n])
    (h : n.patternText inCapture = .ok first) (hflags : b.flags = .start)
    (hrest : Symbol.NotAsked rest) :
    ∃ b', b'.flags = .start ∧ b.Reads (first.toList ++ rest) b' rest := by
  have htext : Node.patternTextList inCapture [n] = .ok (first ++ "") :=
    Node.patternTextList_cons_of_eq_ok h rfl
  have hreads := reads_patternTextList hn htext hflags hrest
  rw [String.append_empty] at hreads
  refine ⟨_, ?_, hreads⟩
  exact hflags

/-- Reading stops in a part with reversed bounds or, behind a part without, in the others. -/
theorem stops_cons {n : Node} {ns : List Node} (hplain : Node.ArePlain (n :: ns))
    (hreversed : ∃ f ∈ Node.fieldsList (n :: ns), f.max < f.min) (hflags : b.flags = .start)
    (hfirst : n.patternText inCapture = .ok first) (hrest : Symbol.NotAsked rest)
    (hn : (∃ f ∈ n.fields, f.max < f.min) → b.Stops (first.toList ++ rest))
    (hns : ∀ b' : Builder, (∃ f ∈ Node.fieldsList ns, f.max < f.min) → b'.flags = .start →
      b'.Stops rest) : b.Stops (first.toList ++ rest) := by
  by_cases hhere : ∃ f ∈ n.fields, f.max < f.min
  · exact hn hhere
  · obtain ⟨f, hf, hlt⟩ := hreversed
    have hothers : f ∈ Node.fieldsList ns := by
      rcases List.mem_append.1 hf with hf | hf
      · exact absurd ⟨f, hf, hlt⟩ hhere
      · exact hf
    have hwritable : Node.Writable [n] := by
      refine ⟨fun t ht => hplain t (List.mem_append_left _ ?_), ?_⟩
      · simpa [Node.literalsList] using ht
      · simpa [Node.fieldsList] using Field.not_reversed_iff.1 hhere
    obtain ⟨b', hflags', hreads⟩ := reads_patternText hwritable hfirst hflags hrest
    exact hreads.stops (hns b' ⟨f, hothers, hlt⟩ hflags')

/-- Reading stops in the pattern of parts with a field that has its bounds the wrong way round. -/
theorem stops_patternTextList {ns : List Node} (hns : Node.ArePlain ns)
    (hreversed : ∃ f ∈ Node.fieldsList ns, f.max < f.min)
    (h : Node.patternTextList inCapture ns = .ok text) (hflags : b.flags = .start)
    (hrest : Symbol.NotAsked rest) : b.Stops (text.toList ++ rest) := by
  induction ns using Node.sequence_induction generalizing b inCapture text rest with
  | nil =>
    obtain ⟨f, hf, -⟩ := hreversed
    cases hf
  | literal _ ns ih | date _ ns ih | sign ns ih =>
    obtain ⟨first, behind, hfirst, hbehind, htext⟩ := Node.patternTextList_cons_eq_ok h
    have hnext := Node.notAsked_patternTextList hns.tail hbehind hrest
    rw [htext, List.append_assoc]
    refine stops_cons hns hreversed hflags hfirst hnext ?_ fun b' hothers hflags' => ?_
    · rintro ⟨f, hf, -⟩
      cases hf
    · exact ih hns.tail hothers hbehind hflags' hrest
  | field f ns ih =>
    obtain ⟨first, behind, hfirst, hbehind, htext⟩ := Node.patternTextList_cons_eq_ok h
    have hnext := Node.notAsked_patternTextList hns.tail hbehind hrest
    rw [htext, List.append_assoc]
    refine stops_cons hns hreversed hflags hfirst hnext ?_ fun b' hothers hflags' => ?_
    · rintro ⟨g, hg, hlt⟩
      cases hfirst
      obtain rfl := List.mem_singleton.1 hg
      exact stops_field hflags hlt
    · exact ih hns.tail hothers hbehind hflags' hrest
  | group bracket children ns ihc ih =>
    obtain ⟨first, behind, hfirst, hbehind, htext⟩ := Node.patternTextList_cons_eq_ok h
    have hnext := Node.notAsked_patternTextList hns.tail hbehind hrest
    rw [htext, List.append_assoc]
    refine stops_cons hns hreversed hflags hfirst hnext ?_ fun b' hothers hflags' => ?_
    · intro hinside
      apply stops_group hflags hns.children hfirst
      intro b' inCapture' body rest' hflags' hbody hrest'
      exact ihc hns.children hinside hbody hflags' hrest'
    · exact ih hns.tail hothers hbehind hflags' hrest

end Builder

/-- The pattern of a layout cannot be read if a field has its bounds the wrong way round. -/
theorem Expr.ofText?_patternText_eq_none {l : Layout} (hplain : l.IsPlain)
    (hreversed : ∃ f ∈ l.fields, f.max < f.min) {text : String} (h : l.patternText = .ok text) :
    Expr.ofText? text = none := by
  obtain ⟨body, hbody, htext⟩ := Layout.patternText_eq_ok h
  have hdollar : Symbol.NotAsked ['$'] := Symbol.NotAsked.cons (by decide) []
  have hstops : Builder.start.Stops text.toList := by
    rw [htext]
    exact (Builder.reads_caret _).stops
      (Builder.stops_patternTextList hplain hreversed hbody rfl hdollar)
  rw [Expr.ofText?, hstops _ (Nat.le_refl _)]
  rfl

theorem Layout.patternText_cases (l : Layout) :
    (∃ text, l.patternText = .ok text) ∨
      ∃ opener, l.patternText = .error (.nestedCapture opener none) := by
  cases h : l.patternText with
  | ok text => exact .inl ⟨text, rfl⟩
  | error e =>
    obtain ⟨g, -, rfl⟩ := patternText_eq_error_iff.1 h
    exact .inr ⟨g.bracket.opening, rfl⟩

/-! ## Fields in a text -/

/-- Among the tokens the field is written without an exclamation mark. -/
def Field.WrittenUnfixed (ts : List Token) (f : Field) : Prop :=
  ∃ used, used <:+: ts ∧ f.Derives used ∧ '!' ∉ (Token.join used).toList

/-- Every field of a layout is written somewhere in its text. -/
theorem Node.Derives.exists_field_derives {ts : List Token} {ns : List Node} (h : Derives ts ns)
    {f : Field} (hf : f ∈ fieldsList ns) : ∃ used, used <:+: ts ∧ f.Derives used := by
  induction h with
  | nil => cases hf
  | @date t _ rest _ _ _ ih | @sign t rest _ _ _ ih =>
    obtain ⟨used, hused, hd⟩ := ih hf
    exact ⟨used, hused.trans (List.suffix_cons t rest).isInfix, hd⟩
  | @field ts rest g ns first others ih =>
    rcases List.mem_append.1 hf with hf | hf
    · obtain rfl := List.mem_singleton.1 hf
      exact ⟨ts, (List.prefix_append ts rest).isInfix, first⟩
    · obtain ⟨used, hused, hd⟩ := ih hf
      exact ⟨used, hused.trans (List.suffix_append ts rest).isInfix, hd⟩
  | @literal t run rest _ _ _ _ _ ih =>
    obtain ⟨used, hused, hd⟩ := ih hf
    exact ⟨used, hused.trans (List.suffix_append (t :: run) rest).isInfix, hd⟩
  | @group t u inner rest b children ns ht content hu hflat others ihc ih =>
    rcases List.mem_append.1 hf with hf | hf
    · obtain ⟨used, hused, hd⟩ := ihc hf
      exact ⟨used, hused.trans ⟨[t], u :: rest, by simp⟩, hd⟩
    · obtain ⟨used, hused, hd⟩ := ih hf
      exact ⟨used, hused.trans ⟨t :: inner ++ [u], [], by simp⟩, hd⟩

/-- A field that is written in a text has its bounds the wrong way round exactly if its greatest
length is zero and nothing fixes the length. -/
theorem Field.Derives.max_lt_min_iff {used : List Token} {f : Field} (h : f.Derives used)
    (hused : ∀ t ∈ used, t.IsGenuine) :
    f.max < f.min ↔ f.max = 0 ∧ '!' ∉ (Token.join used).toList := by
  have hmem : '!' ∈ (Token.join used).toList ↔ ∃ t ∈ used, t.lexeme = .mark '!' := by
    simp only [Token.toList_join, List.mem_flatten, List.mem_map, exists_exists_and_eq_and]
    exact exists_congr fun t => and_congr_right fun ht => (hused t ht).mem_text_iff (by decide)
  rw [hmem]
  cases h with
  | @upTo head last n s hn hfix htimes hs =>
    simp [hn, hfix, UInt32.lt_one_iff]
  | @exactly head fix last n s hn hfix hs =>
    simp [hfix]
  | @repeated head times bound last n m s hn htimes hm hs =>
    have hlast : last.lexeme ≠ .mark '!' := by
      intro hmark
      have htext := (hused last (by simp)).text_of_mark hmark
      rw [hs] at htext
      cases s <;> exact absurd htext (by decide)
    simp [hn, htimes, hm, hlast, UInt32.lt_one_iff]

/-! ## Recognizers -/

namespace Recognizer

variable {l : Layout}

theorem ofLayout_of_patternText_eq_error {e : Fault} (h : l.patternText = .error e) :
    ofLayout l = .error e := by
  rw [ofLayout, h]

theorem ofLayout_of_reversed (hplain : l.IsPlain) {text : String} (htext : l.patternText = .ok text)
    (hreversed : ∃ f ∈ l.fields, f.max < f.min) :
    ofLayout l = .error (.invalidPattern text "") := by
  have hnone : Pattern.ofText? text = none := by
    rw [Pattern.ofText?, Expr.ofText?_patternText_eq_none hplain hreversed htext]
  rw [ofLayout, htext]
  dsimp only
  rw [hnone]

theorem ofLayout_of_ordered (hplain : l.IsPlain) {text : String} (htext : l.patternText = .ok text)
    (hlimits : Pattern.WithinLimits text) (hordered : ∀ f ∈ l.fields, f.min ≤ f.max) :
    ∃ r, ofLayout l = .ok r ∧ r.patternText = text := by
  have hl : Node.Writable l.nodes := ⟨hplain, hordered⟩
  have hpattern := Pattern.ofText?_of_withinLimits (Expr.ofText?_patternText hl htext) hlimits
  refine ⟨⟨l, text, ⟨.ofExpr l.patternTree⟩⟩, ?_, rfl⟩
  rw [ofLayout, htext]
  dsimp only
  rw [hpattern]

/-- All that can come of a layout without marks of the pattern language. -/
theorem ofLayout_cases (hplain : l.IsPlain)
    (hlimits : ∀ text, l.patternText = .ok text → Pattern.WithinLimits text) :
    (∃ opener, l.patternText = .error (.nestedCapture opener none) ∧
      ofLayout l = .error (.nestedCapture opener none)) ∨
    (∃ text, l.patternText = .ok text ∧ (∃ f ∈ l.fields, f.max < f.min) ∧
      ofLayout l = .error (.invalidPattern text "")) ∨
    ∃ r, l.patternText = .ok r.patternText ∧ (∀ f ∈ l.fields, f.min ≤ f.max) ∧
      ofLayout l = .ok r := by
  rcases l.patternText_cases with ⟨text, htext⟩ | ⟨opener, herror⟩
  · by_cases hreversed : ∃ f ∈ l.fields, f.max < f.min
    · exact .inr (.inl ⟨text, htext, hreversed, ofLayout_of_reversed hplain htext hreversed⟩)
    · have hordered := Field.not_reversed_iff.1 hreversed
      obtain ⟨r, hr, rfl⟩ := ofLayout_of_ordered hplain htext (hlimits text htext) hordered
      exact .inr (.inr ⟨r, htext, hordered, hr⟩)
  · exact .inl ⟨opener, herror, ofLayout_of_patternText_eq_error herror⟩

/-- In a layout that was read from a text, bounds are reversed only where a greatest length of zero
is written without an exclamation mark. -/
theorem reversed_iff_of_parse {s : String} (h : Layout.parse s = .ok l) :
    (∃ f ∈ l.fields, f.max < f.min) ↔
      ∃ f ∈ l.fields, f.max = 0 ∧ f.WrittenUnfixed (Token.scan s) := by
  rw [Layout.parse_eq_ok_iff_derives] at h
  have hgenuine {used : List Token} (hused : used <:+: Token.scan s) : ∀ t ∈ used, t.IsGenuine :=
    fun t ht => (Token.isScanned_scan s).genuine t (hused.subset ht)
  constructor
  · rintro ⟨f, hf, hlt⟩
    obtain ⟨used, hused, hd⟩ := h.exists_field_derives hf
    obtain ⟨hzero, hunfixed⟩ := (hd.max_lt_min_iff (hgenuine hused)).1 hlt
    exact ⟨f, hf, hzero, used, hused, hd, hunfixed⟩
  · rintro ⟨f, hf, hzero, used, hused, hd, hunfixed⟩
    exact ⟨f, hf, (hd.max_lt_min_iff (hgenuine hused)).2 ⟨hzero, hunfixed⟩⟩

/-- A layout without marks of the pattern language, within the limits of patterns, has no recognizer
if it has no pattern or if a field has its bounds the wrong way round, and for no other reason. -/
theorem ofLayout_outcomes (hplain : l.IsPlain)
    (hlimits : ∀ text, l.patternText = .ok text → Pattern.WithinLimits text) :
    (∀ opener place, ofLayout l = .error (.nestedCapture opener place) ↔
      l.patternText = .error (.nestedCapture opener place)) ∧
    (∀ text, (∃ reason, ofLayout l = .error (.invalidPattern text reason)) ↔
      l.patternText = .ok text ∧ ∃ f ∈ l.fields, f.max < f.min) ∧
    (∀ text, (∃ r, ofLayout l = .ok r ∧ r.patternText = text) ↔
      l.patternText = .ok text ∧ ∀ f ∈ l.fields, f.min ≤ f.max) ∧
    ((∃ text, l.patternText = .ok text) ∨
      ∃ opener place, l.patternText = .error (.nestedCapture opener place)) ∧
    ∀ s, Layout.parse s = .ok l →
      ((∃ text reason, ofLayout l = .error (.invalidPattern text reason)) ↔
        ∃ f ∈ l.fields, f.max = 0 ∧ f.WrittenUnfixed (Token.scan s)) := by
  rcases ofLayout_cases hplain hlimits with
    ⟨opener, htext, hl⟩ | ⟨text, htext, hreversed, hl⟩ | ⟨r, htext, hordered, hl⟩
  · refine ⟨by simp [htext, hl], by simp [htext, hl], by simp [htext, hl], by simp [htext], ?_⟩
    intro s hs
    obtain ⟨body, hbody⟩ := Layout.exists_patternTextList_of_parse hs
    rw [Layout.patternText_of_eq_ok hbody] at htext
    cases htext
  · have hunordered : ¬ ∀ f ∈ l.fields, f.min ≤ f.max :=
      fun hordered => Field.not_reversed_iff.2 hordered hreversed
    refine ⟨by simp [htext, hl], fun text' => ?_, fun text' => ?_, .inl ⟨text, htext⟩, ?_⟩
    · simp [htext, hl, hreversed]
    · simp only [hl, hunordered, and_false, iff_false]
      rintro ⟨r, h, -⟩
      cases h
    · intro s hs
      rw [← reversed_iff_of_parse hs]
      exact iff_of_true ⟨text, "", hl⟩ hreversed
  · have hnone := Field.not_reversed_iff.2 hordered
    refine ⟨by simp [htext, hl], fun text' => ?_, fun text' => ?_, .inl ⟨_, htext⟩, ?_⟩
    · simp only [hl, hnone, and_false, iff_false]
      rintro ⟨reason, h⟩
      cases h
    · rw [and_iff_left hordered]
      simp [htext, hl]
    · intro s hs
      rw [← reversed_iff_of_parse hs]
      refine iff_of_false ?_ hnone
      rintro ⟨text, reason, h⟩
      cases hl.symm.trans h

/-- An optional field of length zero. The length is fixed in one text and not in the other. -/
theorem ofLayout_outcomes_zero :
    (∃ l, Layout.parse "2!n[0a]" = .ok l ∧
      ∃ reason, ofLayout l =
        .error (.invalidPattern "^[0-9]\x7b2,2\x7d(?:[A-Z]\x7b1,0\x7d)?$" reason)) ∧
    ∃ l, Layout.parse "2!n[0!a]" = .ok l ∧
      ∃ r, ofLayout l = .ok r ∧
        r.patternText = "^[0-9]\x7b2,2\x7d(?:[A-Z]\x7b0,0\x7d)?$" := by
  constructor
  · have hparse : Layout.parse "2!n[0a]" = .ok ⟨[.field ⟨2, 2, .digits, 1⟩,
        .group .optional [.field ⟨1, 0, .capitals, 1⟩]]⟩ := by decide +kernel
    refine ⟨_, hparse, ((ofLayout_outcomes (by decide) ?_).2.1 _).2 ⟨by decide, by decide⟩⟩
    rintro _ ⟨⟩
    decide
  · have hparse : Layout.parse "2!n[0!a]" = .ok ⟨[.field ⟨2, 2, .digits, 1⟩,
        .group .optional [.field ⟨0, 0, .capitals, 1⟩]]⟩ := by decide +kernel
    refine ⟨_, hparse, ((ofLayout_outcomes (by decide) ?_).2.2.1 _).2 ⟨by decide, by decide⟩⟩
    rintro _ ⟨⟩
    decide

end Recognizer

end FieldLayout
