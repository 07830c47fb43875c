import FieldLayout.Layout.Pattern
import FieldLayout.Layout.Printer
import FieldLayout.Proofs.Layout.Grammar
import FieldLayout.Proofs.Token.Scanning

/-!
# Canonical layouts

A layout that is read from a text has some properties that a layout made by hand need not have: its
literals could not be cut differently, its dates are runs of date letters, and its fields can be
written. Such a layout is called canonical.

There is one exception. A field with no repeats can be read but not written: it is written like a
field that is not repeated. So a layout is normalized first, by counting no repeats as one.

## Main definitions

* `Layout.normalized`: no repeats are counted as one.
* `Node.isCanonicalList`: consecutive parts are canonical.

## Main statements

* `Node.renderList_normalizedList`, `Node.patternTextList_normalizedList`: this does not change what
  is written.
* `Node.isCanonicalList_of_derives`: what is read from a text is canonical, once normalized.
-/

namespace FieldLayout

/-! ## Normalized layouts -/

/-- A field with no repeats is taken as one that is not repeated. -/
def Field.normalized (f : Field) : Field := if f.repeats = 0 then { f with repeats := 1 } else f

mutual

/-- The fields of a part with no repeats are taken as not repeated. -/
def Node.normalized : Node → Node
  | .literal text => .literal text
  | .field f => .field f.normalized
  | .date run => .date run
  | .sign => .sign
  | .group bracket children => .group bracket (Node.normalizedList children)

/-- The fields of consecutive parts with no repeats are taken as not repeated. -/
def Node.normalizedList : List Node → List Node
  | [] => []
  | n :: ns => n.normalized :: Node.normalizedList ns

end

/-- The fields of a layout with no repeats, at any depth, are taken as not repeated. -/
def Layout.normalized (l : Layout) : Layout := ⟨Node.normalizedList l.nodes⟩

namespace Field

variable (f : Field)

theorem normalized_eq_self_iff : f.normalized = f ↔ f.repeats ≠ 0 := by
  unfold normalized
  constructor
  · intro h hzero
    rw [if_pos hzero] at h
    have hone : (1 : UInt32) = f.repeats := congrArg Field.repeats h
    rw [hzero] at hone
    exact absurd hone (by decide)
  · intro h
    rw [if_neg h]

theorem render_normalized : f.normalized.render = f.render := by
  unfold normalized
  split
  · next h =>
    have hone : ¬ (1 : UInt32) < 1 := by decide
    have hzero : ¬ (1 : UInt32) < 0 := by decide
    simp only [render, h, if_neg hone, if_neg hzero]
  · rfl

theorem patternText_normalized : f.normalized.patternText = f.patternText := by
  unfold normalized
  split <;> rfl

end Field

namespace Node

theorem normalizedList_eq_self_iff (ns : List Node) :
    normalizedList ns = ns ↔ ∀ f ∈ fieldsList ns, f.repeats ≠ 0 := by
  induction ns using Node.sequence_induction with
  | nil => simp [normalizedList, fieldsList]
  | literal text ns ih => simp [normalizedList, normalized, fieldsList, fields, ih]
  | field f ns ih =>
    simp [normalizedList, normalized, fieldsList, fields, ih, Field.normalized_eq_self_iff]
  | date run ns ih => simp [normalizedList, normalized, fieldsList, fields, ih]
  | sign ns ih => simp [normalizedList, normalized, fieldsList, fields, ih]
  | group bracket children ns ihc ih =>
    simp [normalizedList, normalized, fieldsList, fields, ihc, ih, or_imp, forall_and]

theorem renderList_normalizedList (ns : List Node) :
    renderList (normalizedList ns) = renderList ns := by
  induction ns using Node.sequence_induction with
  | nil => rfl
  | literal text ns ih => rw [normalizedList, normalized, renderList, ih, renderList]
  | field f ns ih =>
    rw [normalizedList, normalized, renderList, ih, renderList, render, f.render_normalized, render]
  | date run ns ih => rw [normalizedList, normalized, renderList, ih, renderList]
  | sign ns ih => rw [normalizedList, normalized, renderList, ih, renderList]
  | group bracket children ns ihc ih =>
    rw [normalizedList, normalized, renderList, ih, renderList, render, ihc, render]

theorem captureCountList_normalizedList (ns : List Node) :
    captureCountList (normalizedList ns) = captureCountList ns := by
  induction ns using Node.sequence_induction with
  | nil => rfl
  | literal text ns ih => rw [normalizedList, normalized, captureCountList, ih, captureCountList]
  | field f ns ih => rw [normalizedList, normalized, captureCountList, ih, captureCountList]; rfl
  | date run ns ih => rw [normalizedList, normalized, captureCountList, ih, captureCountList]
  | sign ns ih => rw [normalizedList, normalized, captureCountList, ih, captureCountList]
  | group bracket children ns ihc ih =>
    rw [normalizedList, normalized, captureCountList, ih, captureCountList, captureCount, ihc,
      captureCount]

theorem patternTextList_normalizedList (inCapture : Bool) (ns : List Node) :
    patternTextList inCapture (normalizedList ns) = patternTextList inCapture ns := by
  induction ns using Node.sequence_induction generalizing inCapture with
  | nil => rfl
  | literal text ns ih => rw [normalizedList, normalized, patternTextList, ih, patternTextList]
  | field f ns ih =>
    rw [normalizedList, normalized, patternTextList, ih, patternTextList, patternText,
      f.patternText_normalized, patternText]
  | date run ns ih => rw [normalizedList, normalized, patternTextList, ih, patternTextList]
  | sign ns ih => rw [normalizedList, normalized, patternTextList, ih, patternTextList]
  | group bracket children ns ihc ih =>
    rw [normalizedList, normalized, patternTextList, ih, patternTextList, patternText, ihc, ihc,
      patternText]

end Node

/-! ## Canonical layouts -/

/-- The text of a literal that can be read: ordinary characters behind one that may also be a mark
without a partner. -/
def Node.isLiteralText : List Char → Bool
  | [] => false
  | c :: cs => (Token.isPlainChar c || c == '!' || c == '*') && cs.all Token.isPlainChar

/-- The field is what is read from its own text. -/
def Field.isCanonical (f : Field) : Bool :=
  (1 < f.repeats && f.min == 1) || (f.repeats == 1 && (f.min == 1 || f.min == f.max))

/-- A part would be read as one with the part behind it. -/
def Node.clashes : Node → Node → Bool
  | .literal _, .literal text => text.toList.head?.any Token.isPlainChar
  | .date _, .date _ => true
  | _, _ => false

mutual

/-- A part is canonical. -/
def Node.isCanonical : Node → Bool
  | .literal text => Node.isLiteralText text.toList
  | .field f => f.isCanonical
  | .date run => run != "" && run.toList.all Token.isDateLetter
  | .sign => true
  | .group bracket children =>
    (!bracket.captures || Node.captureCountList children == 0) && Node.isCanonicalList children

/-- Consecutive parts are canonical. -/
def Node.isCanonicalList : List Node → Bool
  | [] => true
  | n :: ns => n.isCanonical && !ns.head?.any n.clashes && Node.isCanonicalList ns

end

/-- A layout is canonical. -/
def Layout.isCanonical (l : Layout) : Bool := Node.isCanonicalList l.nodes

theorem Node.isLiteralText_iff {text : List Char} : isLiteralText text ↔ ∃ c cs, text = c :: cs ∧
    (Token.isPlainChar c ∨ c = '!' ∨ c = '*') ∧ ∀ d ∈ cs, Token.isPlainChar d := by
  cases text with
  | nil => exact iff_of_false Bool.false_ne_true fun ⟨_, _, h, _⟩ => List.cons_ne_nil _ _ h.symm
  | cons c cs => simp [isLiteralText, or_assoc]

theorem Node.isCanonical_date_iff {run : String} : (Node.date run).isCanonical ↔
    run ≠ "" ∧ ∀ c ∈ run.toList, Token.isDateLetter c := by
  simp [isCanonical]

theorem Field.isCanonical_iff {f : Field} : f.isCanonical ↔
    (1 < f.repeats ∧ f.min = 1) ∨ (f.repeats = 1 ∧ (f.min = 1 ∨ f.min = f.max)) := by
  simp [isCanonical]

/-! ## Literals -/

namespace Token

theorem text_eq_of_isPlain {t : Token} (h : t.isPlain) (ht : t.IsGenuine) :
    ∃ c, t.text.toList = [c] ∧ isPlainChar c := by
  obtain ⟨c, hc⟩ := isPlain_iff.1 h
  rw [IsGenuine, hc] at ht
  exact ⟨c, by rw [ht.1, String.toList_singleton], ht.2⟩

/-- A genuine token at the start of a literal is a single character. -/
theorem StartsLiteral.text_eq {t : Token} (h : t.StartsLiteral) (ht : t.IsGenuine) :
    ∃ c, t.text.toList = [c] ∧
      ((t.isPlain ∧ isPlainChar c) ∨ (¬ t.isPlain ∧ (c = '!' ∨ c = '*'))) := by
  obtain hplain | ⟨c, hmark, hc⟩ := h
  · obtain ⟨c, htext, hc⟩ := text_eq_of_isPlain hplain ht
    exact ⟨c, htext, .inl ⟨hplain, hc⟩⟩
  · rw [IsGenuine, hmark] at ht
    refine ⟨c, by rw [ht.1, String.toList_singleton], .inr ⟨?_, ?_⟩⟩
    · simp [isPlain, hmark]
    · have hoptional := hc .optional
      have hcapture := hc .capture
      have hreformat := hc .reformat
      rcases isMarkChar_iff.1 ht.2 with h | h | h | h | h | h | h | h
      · exact .inl h
      · exact .inr h
      · exact absurd h hoptional.1
      · exact absurd h hoptional.2
      · exact absurd h hcapture.1
      · exact absurd h hcapture.2
      · exact absurd h hreformat.1
      · exact absurd h hreformat.2

end Token

namespace Node

theorem isCanonicalList_cons {n : Node} {ns : List Node} : isCanonicalList (n :: ns) ↔
    n.isCanonical ∧ (∀ m ∈ ns.head?, n.clashes m = false) ∧ isCanonicalList ns := by
  rw [isCanonicalList, Bool.and_eq_true, Bool.and_eq_true, and_assoc]
  cases ns with
  | nil => simp
  | cons m ns => simp

/-! ## What is read from a text -/

theorem clashes_normalized (n m : Node) : n.normalized.clashes m.normalized = n.clashes m := by
  cases n <;> cases m <;> rfl

theorem isCanonicalList_normalizedList_cons {n : Node} {ns : List Node} :
    isCanonicalList (normalizedList (n :: ns)) ↔ n.normalized.isCanonical ∧
      (∀ m ∈ ns.head?, n.clashes m = false) ∧ isCanonicalList (normalizedList ns) := by
  rw [normalizedList, isCanonicalList_cons]
  cases ns with
  | nil => simp [normalizedList]
  | cons m ns => simp [normalizedList, clashes_normalized]

theorem isLiteralText_join {t : Token} {run : List Token} (ht : t.StartsLiteral)
    (hrun : ∀ u ∈ run, u.isPlain) (hgenuine : ∀ u ∈ t :: run, u.IsGenuine) :
    isLiteralText (Token.join (t :: run)).toList := by
  obtain ⟨c, htext, hc⟩ := ht.text_eq (hgenuine t List.mem_cons_self)
  have hplain : ∀ d ∈ (Token.join run).toList, Token.isPlainChar d := by
    have hrun' : ∀ u ∈ run, u.IsGenuine := fun u hu => hgenuine u (List.mem_cons_of_mem t hu)
    clear hgenuine
    induction run with
    | nil => exact nofun
    | cons u run ih =>
      intro d hd
      rw [Token.join, String.toList_append, List.mem_append] at hd
      rcases hd with hd | hd
      · obtain ⟨e, he, hplain⟩ := Token.text_eq_of_isPlain (hrun u List.mem_cons_self)
          (hrun' u List.mem_cons_self)
        rw [he, List.mem_singleton] at hd
        rwa [hd]
      · exact ih (fun v hv => hrun v (List.mem_cons_of_mem u hv))
          (fun v hv => hrun' v (List.mem_cons_of_mem u hv)) d hd
  rw [Token.join, String.toList_append, htext]
  refine isLiteralText_iff.2 ⟨c, (Token.join run).toList, rfl, ?_, hplain⟩
  rcases hc with ⟨-, hc⟩ | ⟨-, hc⟩
  · exact .inl hc
  · exact .inr hc

variable {ts : List Token} {ns : List Node}

theorem isCanonical_of_field_derives {f : Field} (h : f.Derives ts) : f.normalized.isCanonical := by
  cases h with
  | upTo => exact Field.isCanonical_iff.2 (.inr ⟨rfl, .inl rfl⟩)
  | exactly => exact Field.isCanonical_iff.2 (.inr ⟨rfl, .inr rfl⟩)
  | @repeated _ _ _ _ n =>
    rw [Field.isCanonical_iff, Field.normalized]
    split
    · exact .inr ⟨rfl, .inl rfl⟩
    · next hn =>
      -- A count other than zero is one or above one.
      by_cases hone : n = 1
      · exact .inr ⟨hone, .inl rfl⟩
      · refine .inl ⟨?_, rfl⟩
        have hzero : n.toNat ≠ 0 := fun h => hn (UInt32.toNat_inj.1 h)
        have hone' : n.toNat ≠ 1 := fun h => hone (UInt32.toNat_inj.1 h)
        rw [UInt32.lt_iff_toNat_lt]
        change 1 < n.toNat
        omega

/-- Behind a date no date is read, since the two would have been one token. -/
theorem date_clashes_eq_false {t : Token} {run : String} (hts : Token.IsScanned (t :: ts))
    (ht : t.lexeme = .date run) (h : Derives ts ns) :
    ∀ m ∈ ns.head?, clashes (.date run) m = false := by
  cases h with
  | @date u run' _ _ hu =>
    have hapart := (List.isChain_cons_cons.1 hts.apart).1
    exact absurd hu (hapart.2 run run' ht)
  | nil => exact nofun
  | sign | field | literal | group =>
    rintro _ ⟨⟩
    rfl

/-- Behind a literal no other one is read that starts with an ordinary character. -/
theorem literal_clashes_eq_false (text : String) (hts : Token.IsScanned ts)
    (longest : ∀ u ∈ ts.head?, ¬ u.isPlain) (h : Derives ts ns) :
    ∀ m ∈ ns.head?, clashes (.literal text) m = false := by
  cases h with
  | @literal t run rest _ ht =>
    rintro _ ⟨⟩
    obtain ⟨c, htext, hc⟩ := ht.text_eq (hts.genuine t (by simp))
    rw [clashes, Token.join, String.toList_append, htext]
    rcases hc with ⟨hplain, -⟩ | ⟨-, rfl | rfl⟩
    · exact absurd hplain (longest t rfl)
    · rfl
    · rfl
  | nil => exact nofun
  | sign | field | date | group =>
    rintro _ ⟨⟩
    rfl

/-- What is read from a text is canonical, once it is normalized. -/
theorem isCanonicalList_of_derives (hts : Token.IsScanned ts) (h : Derives ts ns) :
    isCanonicalList (normalizedList ns) := by
  induction h with
  | nil => rfl
  | @date t run rest ns ht others ih =>
    have hgenuine := hts.genuine t List.mem_cons_self
    rw [Token.IsGenuine, ht] at hgenuine
    refine isCanonicalList_normalizedList_cons.2
      ⟨?_, date_clashes_eq_false hts ht others, ih hts.tail⟩
    exact isCanonical_date_iff.2 hgenuine.2
  | @sign t rest ns ht others ih =>
    refine isCanonicalList_normalizedList_cons.2 ⟨rfl, fun m _ => ?_, ih hts.tail⟩
    cases m <;> rfl
  | @field ts rest f ns first others ih =>
    refine isCanonicalList_normalizedList_cons.2
      ⟨isCanonical_of_field_derives first, fun m _ => ?_, ih hts.of_append.2⟩
    cases m <;> rfl
  | @literal t run rest ns ht hrun longest others ih =>
    obtain ⟨hfirst, hrest⟩ := hts.of_append
    exact isCanonicalList_normalizedList_cons.2 ⟨isLiteralText_join ht hrun hfirst.genuine,
      literal_clashes_eq_false _ hrest longest others, ih hrest⟩
  | @group t u inner rest b children ns ht content hu hflat others ihc ih =>
    obtain ⟨hfirst, hrest⟩ := hts.of_append
    refine isCanonicalList_normalizedList_cons.2 ⟨?_, fun m _ => ?_, ih hrest.tail⟩
    · rw [normalized, isCanonical, ihc hfirst.tail, captureCountList_normalizedList, Bool.and_true]
      cases hb : b.captures with
      | false => rfl
      | true => simp [hflat hb]
    · cases m <;> rfl

end Node

end FieldLayout
