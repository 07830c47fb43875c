import FieldLayout.Proofs.Layout.Concatenation
import FieldLayout.Proofs.Layout.PartByPart

/-!
# The marks that open capturing groups

The capturing groups of a layout can be told from its text without reading it: each of them is
opened by a round or an angle bracket, and these stand nowhere else in a layout text. So the groups
are counted by counting characters.

The first of these marks is also where the text fails if it is put inside a capturing group. All
that stands before it is read there as it is read elsewhere.

## Main definitions

* `Token.isCaptureMark`: the characters that open capturing groups.
* `Token.nestedCapture?`: the fault of a token that opens a capturing group inside another one.

## Main statements

* `Layout.captureCount_eq_countP`: the capturing groups of a text are counted by their marks.
* `Node.Derives.readFront_eq_error`: inside a capturing group, the first of these marks is a fault.
-/

namespace FieldLayout

namespace Token

/-- The character opens a capturing group. -/
def isCaptureMark (c : Char) : Bool := c == '(' || c == '<'

/-- The token opens a capturing group. -/
def opensCapture (t : Token) : Bool := t.opens?.any Bracket.captures

variable {t : Token} {ts : List Token}

theorem isCaptureMark_iff {c : Char} :
    isCaptureMark c ↔ ∃ b : Bracket, b.captures ∧ c = b.opening := by
  constructor
  · intro h
    simp only [isCaptureMark, Bool.or_eq_true, beq_iff_eq] at h
    rcases h with rfl | rfl
    · exact ⟨.capture, rfl, rfl⟩
    · exact ⟨.reformat, rfl, rfl⟩
  · rintro ⟨b, hb, rfl⟩
    cases b with
    | optional => cases hb
    | capture | reformat => rfl

theorem opensCapture_iff :
    t.opensCapture ↔ ∃ b : Bracket, b.captures ∧ t.lexeme = .mark b.opening := by
  rw [opensCapture, Option.any_eq_true]
  refine exists_congr fun b => ?_
  rw [opens?_eq_some_iff, and_comm]

theorem IsNoBracket.opensCapture_eq_false (h : t.IsNoBracket) : t.opensCapture = false := by
  rw [opensCapture, h.opens?_eq_none]
  rfl

theorem opensCapture_of_opening {b : Bracket} (h : t.lexeme = .mark b.opening) :
    t.opensCapture = b.captures := by
  rw [opensCapture, opens?_eq_some_iff.2 h]
  rfl

theorem opensCapture_of_closing {b : Bracket} (h : t.lexeme = .mark b.closing) :
    t.opensCapture = false := by
  rw [Bool.eq_false_iff]
  intro hopens
  obtain ⟨b', -, hb'⟩ := opensCapture_iff.1 hopens
  exact b'.opening_ne_closing b (Lexeme.mark.inj (hb'.symm.trans h))

theorem IsGenuine.isNoBracket_of_name {s : Charset} (h : t.IsGenuine) (ht : t.text = s.name) :
    t.IsNoBracket := by
  have hname {b : Bracket} : s.name ≠ String.singleton b.opening ∧
      s.name ≠ String.singleton b.closing := by
    cases s <;> cases b <;> decide
  intro b
  exact ⟨fun hb => hname.1 (ht.symm.trans (h.text_of_mark hb)),
    fun hb => hname.2 (ht.symm.trans (h.text_of_mark hb))⟩

/-! ## Characters -/

theorem IsGenuine.mem_isCaptureMark (h : t.IsGenuine) {c : Char} (hc : c ∈ t.text.toList)
    (hmark : isCaptureMark c) : t.opensCapture := by
  obtain ⟨b, hb, rfl⟩ := isCaptureMark_iff.1 hmark
  have hmarkchar : isMarkChar b.opening := by cases b <;> rfl
  exact opensCapture_iff.2 ⟨b, hb, (h.mem_text_iff hmarkchar).1 hc⟩

theorem IsGenuine.countP_isCaptureMark (h : t.IsGenuine) :
    t.text.toList.countP isCaptureMark = if t.opensCapture then 1 else 0 := by
  by_cases hopens : t.opensCapture
  · obtain ⟨b, hb, hmark⟩ := opensCapture_iff.1 hopens
    have hchar : isCaptureMark b.opening := isCaptureMark_iff.2 ⟨b, hb, rfl⟩
    rw [if_pos hopens, h.text_of_mark hmark, String.toList_singleton,
      List.countP_cons_of_pos hchar, List.countP_nil]
  · rw [if_neg hopens, List.countP_eq_zero]
    exact fun c hc hmark => hopens (h.mem_isCaptureMark hc hmark)

theorem countP_join (h : ∀ t ∈ ts, t.IsGenuine) :
    (join ts).toList.countP isCaptureMark = ts.countP opensCapture := by
  induction ts with
  | nil => rfl
  | cons t ts ih =>
    obtain ⟨ht, hts⟩ := List.forall_mem_cons.1 h
    rw [join, String.toList_append, List.countP_append, ih hts, ht.countP_isCaptureMark,
      List.countP_cons, Nat.add_comm]

theorem not_isCaptureMark_of_mem_join (h : ∀ t ∈ ts, t.IsGenuine)
    (hquiet : ∀ t ∈ ts, t.opensCapture = false) :
    ∀ c ∈ (join ts).toList, isCaptureMark c = false := by
  have hcount : (join ts).toList.countP isCaptureMark = 0 := by
    rw [countP_join h, List.countP_eq_zero]
    exact fun t ht => by simp [hquiet t ht]
  simpa using List.countP_eq_zero.1 hcount

/-! ## The fault inside a capturing group -/

/-- The fault of a token that opens a capturing group, if it stands inside another one. -/
def nestedCapture? (t : Token) : Option Fault :=
  (t.opens?.filter Bracket.captures).map fun b => .nestedCapture b.opening (some t.offset)

theorem nestedCapture?_of_opening {b : Bracket} (hb : b.captures)
    (h : t.lexeme = .mark b.opening) :
    t.nestedCapture? = some (.nestedCapture b.opening (some t.offset)) := by
  simp [nestedCapture?, opens?_eq_some_iff.2 h, Option.filter, hb]

theorem nestedCapture?_eq_none_iff : t.nestedCapture? = none ↔ t.opensCapture = false := by
  rw [nestedCapture?, opensCapture, Option.map_eq_none_iff]
  cases t.opens? with
  | none => simp
  | some b => cases hb : b.captures <;> simp [Option.filter, hb]

theorem nestedCapture?_eq_none (h : t.opensCapture = false) : t.nestedCapture? = none :=
  nestedCapture?_eq_none_iff.2 h

theorem findSome?_nestedCapture?_eq_none (h : ∀ t ∈ ts, t.opensCapture = false) :
    ts.findSome? nestedCapture? = none :=
  List.findSome?_eq_none_iff.2 fun t ht => nestedCapture?_eq_none (h t ht)

end Token

/-! ## Derivations -/

theorem Field.Derives.opensCapture_eq_false {ts : List Token} {f : Field} (h : f.Derives ts)
    (hts : ∀ t ∈ ts, t.IsGenuine) : ∀ t ∈ ts, t.opensCapture = false := by
  have hlength {t : Token} {c : Char} (ht : t.lexeme = .mark c) (hc : c = '!' ∨ c = '*') :
      t.opensCapture = false := by
    rcases hc with rfl | rfl
    · simp [Token.opensCapture, Token.opens?, ht, Bracket.ofOpening?]
    · simp [Token.opensCapture, Token.opens?, ht, Bracket.ofOpening?]
  have hnumber {t : Token} {n : UInt32} (ht : t.lexeme = .number n) : t.opensCapture = false := by
    simp [Token.opensCapture, Token.opens?, ht]
  have hname {t : Token} {s : Charset} (ht : t ∈ ts) (hs : t.text = s.name) :
      t.opensCapture = false := ((hts t ht).isNoBracket_of_name hs).opensCapture_eq_false
  cases h with
  | upTo hn hfix htimes hs => simp [hnumber hn, hname (by simp) hs]
  | exactly hn hfix hs => simp [hnumber hn, hlength hfix, hname (by simp) hs]
  | repeated hn htimes hm hs =>
    simp [hnumber hn, hnumber hm, hlength htimes, hname (by simp) hs]

namespace Node

variable {ts : List Token} {ns : List Node}

theorem opensCapture_eq_false_of_literal {t : Token} {run : List Token} (ht : t.StartsLiteral)
    (hrun : ∀ u ∈ run, u.isPlain) : ∀ u ∈ t :: run, u.opensCapture = false :=
  fun u hu => (ht.of_mem_cons hrun u hu).isNoBracket.opensCapture_eq_false

/-- The capturing groups of a layout are those that its tokens open. -/
theorem Derives.captureCountList_eq_countP (h : Derives ts ns) (hts : ∀ t ∈ ts, t.IsGenuine) :
    captureCountList ns = ts.countP Token.opensCapture := by
  have hquiet {us : List Token} (hus : ∀ u ∈ us, u.opensCapture = false) :
      us.countP Token.opensCapture = 0 := by
    rw [List.countP_eq_zero]
    exact fun u hu => by simp [hus u hu]
  induction h with
  | nil => rfl
  | @date t _ rest ns ht others ih | @sign t rest ns ht others ih =>
    have hother : t.IsNoBracket := .of_ne_mark (by simp [ht])
    rw [List.countP_cons_of_neg (by simp [hother.opensCapture_eq_false]),
      ← ih (List.forall_mem_cons.1 hts).2]
    exact Nat.zero_add _
  | @field ts rest f ns first others ih =>
    obtain ⟨hfirst, hrest⟩ := List.forall_mem_append.1 hts
    rw [List.countP_append, hquiet (first.opensCapture_eq_false hfirst), ← ih hrest]
    rfl
  | @literal t run rest ns ht hrun longest others ih =>
    obtain ⟨-, hrest⟩ := List.forall_mem_append.1 hts
    rw [List.countP_append, hquiet (opensCapture_eq_false_of_literal ht hrun), ← ih hrest]
    rfl
  | @group t u inner rest b children ns ht content hu hflat others ihc ih =>
    obtain ⟨hfirst, hrest⟩ := List.forall_mem_append.1 hts
    rw [List.countP_append, List.countP_cons, List.countP_cons, Token.opensCapture_of_opening ht,
      Token.opensCapture_of_closing hu, ← ihc (List.forall_mem_cons.1 hfirst).2,
      ← ih (List.forall_mem_cons.1 hrest).2, captureCountList, captureCount]
    simp only [Bool.false_eq_true, if_false, Nat.add_zero]
    omega

theorem Derives.captureCountList_eq_zero (h : Derives ts ns) (hts : ∀ t ∈ ts, t.IsGenuine)
    (hnone : ts.findSome? Token.nestedCapture? = none) : captureCountList ns = 0 := by
  rw [h.captureCountList_eq_countP hts, List.countP_eq_zero]
  intro t ht
  rw [Token.nestedCapture?_eq_none_iff.1 (List.findSome?_eq_none_iff.1 hnone t ht)]
  exact Bool.false_ne_true

/-- Inside a capturing group the parser fails at the first token that opens another one. Optional
groups do not hide it. -/
theorem Derives.readFront_eq_error (h : Derives ts ns) (hts : ∀ t ∈ ts, t.IsGenuine)
    {left : List Token} (hleft : ∀ t ∈ left.head?, t.closes?.isSome) {e : Fault}
    (he : ts.findSome? Token.nestedCapture? = some e) : readFront true (ts ++ left) = .error e := by
  induction h generalizing left e with
  | nil => cases he
  | @date t _ rest ns ht others ih | @sign t rest ns ht others ih =>
    have hother : t.IsNoBracket := .of_ne_mark (by simp [ht])
    rw [List.findSome?_cons, Token.nestedCapture?_eq_none hother.opensCapture_eq_false] at he
    have hothers := ih (List.forall_mem_cons.1 hts).2 hleft he
    exact readFront_eq_error_of_readPlain hother (by rw [readPlain, ht]; rfl) hothers
  | @field ts rest f ns first others ih =>
    obtain ⟨hfirst, hrest⟩ := List.forall_mem_append.1 hts
    have hquiet := first.opensCapture_eq_false hfirst
    rw [List.findSome?_append, Token.findSome?_nestedCapture?_eq_none hquiet,
      Option.none_or] at he
    obtain ⟨head, used, n, rfl, hhead⟩ := first.head
    have hn := readPlain_field_append hhead first (rest ++ left)
    rw [List.append_assoc]
    exact readFront_eq_error_of_readPlain (.of_ne_mark (by simp [hhead])) hn (ih hrest hleft he)
  | @literal t run rest ns ht hrun longest others ih =>
    obtain ⟨-, hrest⟩ := List.forall_mem_append.1 hts
    have hquiet := opensCapture_eq_false_of_literal ht hrun
    rw [List.findSome?_append, Token.findSome?_nestedCapture?_eq_none hquiet,
      Option.none_or] at he
    have hn := readPlain_literal_append ht hrun (not_isPlain_of_longest longest hleft)
    rw [List.append_assoc]
    exact readFront_eq_error_of_readPlain ht.isNoBracket hn (ih hrest hleft he)
  | @group t u inner rest b children ns ht content hu hflat others ihc ih =>
    obtain ⟨hfirst, hrest⟩ := List.forall_mem_append.1 hts
    have hinner := (List.forall_mem_cons.1 hfirst).2
    have hopen : t.opens? = some b := Token.opens?_eq_some_iff.2 ht
    have hclose : u.closes? = some b := Token.closes?_eq_some_iff.2 hu
    have hcloser : ∀ v ∈ (u :: (rest ++ left)).head?, v.closes?.isSome := by
      rintro _ ⟨⟩
      rw [hclose]
      rfl
    rw [List.append_assoc, List.cons_append, List.cons_append]
    cases hb : b.captures with
    | true =>
      rw [List.cons_append, List.findSome?_cons, Token.nestedCapture?_of_opening hb ht] at he
      cases he
      exact readFront_of_nested hopen (by rw [hb]; rfl)
    | false =>
      have hopened : ¬ (true && b.captures) := by simp [hb]
      have hnone : t.nestedCapture? = none :=
        Token.nestedCapture?_eq_none ((Token.opensCapture_of_opening ht).trans hb)
      have hnone' : u.nestedCapture? = none :=
        Token.nestedCapture?_eq_none (Token.opensCapture_of_closing hu)
      rw [List.cons_append, List.findSome?_cons, hnone, List.findSome?_append,
        List.findSome?_cons, hnone'] at he
      dsimp only at he
      cases hcontent : inner.findSome? Token.nestedCapture? with
      | some e' =>
        rw [hcontent, Option.some_or] at he
        cases he
        exact readFront_eq_error_of_content hopen hopened (ihc hinner hcloser hcontent)
      | none =>
        -- Nothing in the group captures, so the group is read.
        rw [hcontent, Option.none_or] at he
        have hzero := content.captureCountList_eq_zero hinner hcontent
        have hreads : readFront true (inner ++ u :: (rest ++ left)) =
            .ok (children, u :: (rest ++ left)) := content.reads true (fun _ => hzero) hcloser
        have hothers := ih (List.forall_mem_cons.1 hrest).2 hleft he
        exact readFront_eq_error_of_group hopen hopened hclose hreads hothers

end Node

/-- The capturing groups of a layout that was read from a text are counted by the marks that open
them. -/
theorem Layout.captureCount_eq_countP {s : String} {l : Layout} (h : parse s = .ok l) :
    l.captureCount = s.toList.countP Token.isCaptureMark := by
  rw [parse_eq_ok_iff_derives] at h
  have hgenuine := (Token.isScanned_scan s).genuine
  rw [captureCount, h.captureCountList_eq_countP hgenuine, ← Token.countP_join hgenuine,
    (Token.segments_scan s).joins]

end FieldLayout
