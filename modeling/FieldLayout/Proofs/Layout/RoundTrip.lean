import FieldLayout.Proofs.Layout.Canonical

/-!
# Writing a layout and reading it back

The text of a canonical layout is cut into tokens where its parts meet, since no part goes on with
the run of characters at the end of the part before it. So the layout is read back from its text.

What is read from a text is canonical up to fields with no repeats. So writing it and reading it
back changes nothing but these fields.

## Main statements

* `Node.exists_derives_render`: the tokens of the text of canonical parts derive them.
* `Layout.parse_render_of_isCanonical`: a canonical layout is read back from its text.
* `Layout.parse_render_of_parse`: so is a layout that was read, once it is normalized.
-/

namespace FieldLayout

/-! ## Tokens of written text -/

namespace Token

theorem locate_runs_cons {c : Char} (h : isLoner c) (cs : List Char) (offset : Nat) :
    locate offset (runs (c :: cs)) =
      ofRun offset c [] :: locate (offset + (String.ofList [c]).utf8ByteSize) (runs cs) := by
  rw [runs_cons h, locate_cons]

theorem lexeme_ofRun_of_isMarkChar {c : Char} (h : isMarkChar c) (offset : Nat) (cs : List Char) :
    (ofRun offset c cs).lexeme = .mark c := by
  have hloner := isLoner_of_isMarkChar h
  simp only [isLoner, Bool.and_eq_true, Bool.not_eq_true'] at hloner
  simp [ofRun, lexemeOf, hloner, h]

theorem locate_runs_number (n : UInt32) {cs : List Char} (hcs : ∀ c ∈ cs.head?, c.isDigit = false)
    (offset : Nat) : ∃ t offset', t.lexeme = .number n ∧
      locate offset (runs (n.toNat.repr.toList ++ cs)) = t :: locate offset' (runs cs) := by
  rw [Nat.toList_repr]
  have hne : Nat.toDigits 10 n.toNat ≠ [] := Nat.toDigits_ne_nil
  have hdigits : ∀ c ∈ Nat.toDigits 10 n.toNat, c.isDigit := fun c hc =>
    Nat.isDigit_of_mem_toDigits (by decide) (by decide) hc
  have hvalue : Nat.ofDigitChars 10 (Nat.toDigits 10 n.toNat) 0 = n.toNat :=
    Nat.ofDigitChars_ten_toDigits
  rw [runs_digits_append hne hdigits hcs]
  generalize Nat.toDigits 10 n.toNat = ds at hne hdigits hvalue
  cases ds with
  | nil => exact absurd rfl hne
  | cons d ds =>
    refine ⟨ofRun offset d ds, _, ?_, locate_cons offset d ds (runs cs)⟩
    simp [ofRun, lexemeOf, hdigits d List.mem_cons_self, hvalue]

theorem locate_runs_date {run cs : List Char} (hne : run ≠ []) (hrun : ∀ c ∈ run, isDateLetter c)
    (hcs : ∀ c ∈ cs.head?, isDateLetter c = false) (offset : Nat) :
    ∃ t offset', t.lexeme = .date (String.ofList run) ∧
      locate offset (runs (run ++ cs)) = t :: locate offset' (runs cs) := by
  rw [runs_date_append hne hrun hcs]
  cases run with
  | nil => exact absurd rfl hne
  | cons c run =>
    have hc : isDateLetter c := hrun c List.mem_cons_self
    refine ⟨ofRun offset c run, _, ?_, locate_cons offset c run (runs cs)⟩
    simp [ofRun, lexemeOf, hc, not_isDigit_of_isDateLetter hc]

theorem locate_runs_letter (s : Charset) (cs : List Char) (offset : Nat) : ∃ t offset',
    t.text = s.name ∧ t.lexeme = .plain s.letter ∧
      locate offset (runs (s.name.toList ++ cs)) = t :: locate offset' (runs cs) := by
  have hplain : isPlainChar s.letter := by cases s <;> decide
  refine ⟨ofRun offset s.letter [], offset + (String.ofList [s.letter]).utf8ByteSize,
    String.singleton_eq_ofList.symm, ?_, ?_⟩
  · cases s <;> rfl
  · rw [Charset.name, String.toList_singleton]
    exact locate_runs_cons (isLoner_of_isPlainChar hplain) cs offset

theorem locate_runs_mark {c : Char} (h : isMarkChar c) (cs : List Char) (offset : Nat) :
    ∃ t offset', t.lexeme = .mark c ∧
      locate offset (runs (c :: cs)) = t :: locate offset' (runs cs) :=
  ⟨ofRun offset c [], _, lexeme_ofRun_of_isMarkChar h offset [],
    locate_runs_cons (isLoner_of_isMarkChar h) cs offset⟩

/-- Ordinary characters are tokens one by one. -/
theorem locate_runs_plain {run : List Char} (h : ∀ c ∈ run, isPlainChar c) (cs : List Char)
    (offset : Nat) : ∃ ts offset', (∀ t ∈ ts, t.isPlain) ∧ join ts = String.ofList run ∧
      locate offset (runs (run ++ cs)) = ts ++ locate offset' (runs cs) := by
  induction run generalizing offset with
  | nil => exact ⟨[], offset, nofun, rfl, rfl⟩
  | cons c run ih =>
    have hc : isPlainChar c := h c List.mem_cons_self
    have hrun : ∀ d ∈ run, isPlainChar d := fun d hd => h d (List.mem_cons_of_mem c hd)
    obtain ⟨ts, offset', hplain, hjoin, hlocate⟩ :=
      ih hrun (offset + (String.ofList [c]).utf8ByteSize)
    refine ⟨ofRun offset c [] :: ts, offset', ?_, ?_, ?_⟩
    · intro t ht
      rcases List.mem_cons.1 ht with rfl | ht
      · exact isPlain_ofRun_iff.2 hc
      · exact hplain t ht
    · rw [join, hjoin, ofRun, ← String.ofList_append]
      rfl
    · rw [List.cons_append, locate_runs_cons (isLoner_of_isPlainChar hc), hlocate]
      rfl


/-- The tokens of the text of a literal. -/
theorem locate_runs_literal {text : List Char} (h : Node.isLiteralText text) (cs : List Char)
    (offset : Nat) : ∃ t run offset', t.StartsLiteral ∧ (∀ u ∈ run, u.isPlain) ∧
      join (t :: run) = String.ofList text ∧
      locate offset (runs (text ++ cs)) = t :: run ++ locate offset' (runs cs) := by
  obtain ⟨c, later, rfl, hc, hlater⟩ := Node.isLiteralText_iff.1 h
  have hstart : (ofRun offset c []).StartsLiteral ∧ isLoner c := by
    rcases hc with hplain | rfl | rfl
    · exact ⟨.inl (isPlain_ofRun_iff.2 hplain), isLoner_of_isPlainChar hplain⟩
    · exact ⟨.inr ⟨'!', rfl, fun b => by cases b <;> decide⟩, rfl⟩
    · exact ⟨.inr ⟨'*', rfl, fun b => by cases b <;> decide⟩, rfl⟩
  obtain ⟨run, o₁, hrun, hjoin, hlocate⟩ :=
    locate_runs_plain hlater cs (offset + (String.ofList [c]).utf8ByteSize)
  refine ⟨ofRun offset c [], run, o₁, hstart.1, hrun, ?_, ?_⟩
  · rw [join, hjoin, ofRun, ← String.ofList_append]
    rfl
  · rw [List.cons_append, locate_runs_cons hstart.2, hlocate]
    rfl

end Token

theorem Bracket.isMarkChar_opening (b : Bracket) : Token.isMarkChar b.opening := by
  cases b <;> rfl

theorem Bracket.isMarkChar_closing (b : Bracket) : Token.isMarkChar b.closing := by
  cases b <;> rfl

/-! ## Parts -/

/-- The letter of a set does not go on with a number. -/
theorem Charset.head_name_append (s : Charset) (cs : List Char) :
    ∀ c ∈ (s.name.toList ++ cs).head?, c.isDigit = false := by
  rw [name, String.toList_singleton]
  rintro _ ⟨⟩
  cases s <;> rfl

namespace Field

variable (s : Charset) (cs : List Char) (offset : Nat)

/-- The text `10*35x`. -/
theorem exists_derives_repeated (n m : UInt32) :
    ∃ ts offset', Derives ts ⟨1, m, s, n⟩ ∧
      Token.locate offset (Token.runs (n.toNat.repr.toList ++
        '*' :: (m.toNat.repr.toList ++ (s.name.toList ++ cs)))) =
          ts ++ Token.locate offset' (Token.runs cs) := by
  have hstar : ∀ c ∈ ('*' :: (m.toNat.repr.toList ++ (s.name.toList ++ cs))).head?,
      c.isDigit = false := by
    rintro _ ⟨⟩
    rfl
  obtain ⟨head, o₁, hhead, h₁⟩ := Token.locate_runs_number n hstar offset
  obtain ⟨times, o₂, htimes, h₂⟩ := Token.locate_runs_mark (c := '*') rfl
    (m.toNat.repr.toList ++ (s.name.toList ++ cs)) o₁
  obtain ⟨bound, o₃, hbound, h₃⟩ := Token.locate_runs_number m (s.head_name_append cs) o₂
  obtain ⟨last, o₄, hlast, -, h₄⟩ := Token.locate_runs_letter s cs o₃
  refine ⟨[head, times, bound, last], o₄, .repeated hhead htimes hbound hlast, ?_⟩
  rw [h₁, h₂, h₃, h₄]
  rfl

/-- The text `4!c`. -/
theorem exists_derives_exactly (n : UInt32) :
    ∃ ts offset', Derives ts ⟨n, n, s, 1⟩ ∧
      Token.locate offset (Token.runs (n.toNat.repr.toList ++ '!' :: (s.name.toList ++ cs))) =
        ts ++ Token.locate offset' (Token.runs cs) := by
  have hmark : ∀ c ∈ ('!' :: (s.name.toList ++ cs)).head?, c.isDigit = false := by
    rintro _ ⟨⟩
    rfl
  obtain ⟨head, o₁, hhead, h₁⟩ := Token.locate_runs_number n hmark offset
  obtain ⟨fix, o₂, hfix, h₂⟩ := Token.locate_runs_mark (c := '!') rfl (s.name.toList ++ cs) o₁
  obtain ⟨last, o₃, hlast, -, h₃⟩ := Token.locate_runs_letter s cs o₂
  refine ⟨[head, fix, last], o₃, .exactly hhead hfix hlast, ?_⟩
  rw [h₁, h₂, h₃]
  rfl

/-- The text `35x`. -/
theorem exists_derives_upTo (n : UInt32) :
    ∃ ts offset', Derives ts ⟨1, n, s, 1⟩ ∧
      Token.locate offset (Token.runs (n.toNat.repr.toList ++ (s.name.toList ++ cs))) =
        ts ++ Token.locate offset' (Token.runs cs) := by
  obtain ⟨head, o₁, hhead, h₁⟩ := Token.locate_runs_number n (s.head_name_append cs) offset
  obtain ⟨last, o₂, hlast, hplain, h₂⟩ := Token.locate_runs_letter s cs o₁
  refine ⟨[head, last], o₂, .upTo hhead (by simp [hplain]) (by simp [hplain]) hlast, ?_⟩
  rw [h₁, h₂]
  rfl

/-- The text of a field starts with a digit. -/
theorem exists_head_render (f : Field) : ∃ c cs, f.render.toList = c :: cs ∧ c.isDigit := by
  have hnumber (n : Nat) (rest : List Char) :
      ∃ c cs, n.repr.toList ++ rest = c :: cs ∧ c.isDigit := by
    rw [Nat.toList_repr]
    have hdigits : ∀ c ∈ Nat.toDigits 10 n, c.isDigit := fun c hc =>
      Nat.isDigit_of_mem_toDigits (by decide) (by decide) hc
    cases hn : Nat.toDigits 10 n with
    | nil => exact absurd hn Nat.toDigits_ne_nil
    | cons c cs => exact ⟨c, cs ++ rest, rfl, hdigits c (by rw [hn]; exact List.mem_cons_self)⟩
  unfold render
  split
  · simpa only [String.toList_append, List.append_assoc] using hnumber f.repeats.toNat _
  · split
    · simpa only [String.toList_append, List.append_assoc] using hnumber f.max.toNat _
    · simpa only [String.toList_append] using hnumber f.max.toNat _

/-- A canonical field is derived from the tokens of its text, whatever follows. -/
theorem exists_derives_render {f : Field} (h : f.isCanonical) (cs : List Char) (offset : Nat) :
    ∃ ts offset', f.Derives ts ∧ Token.locate offset (Token.runs (f.render.toList ++ cs)) =
      ts ++ Token.locate offset' (Token.runs cs) := by
  obtain ⟨min, max, s, repeats⟩ := f
  rcases isCanonical_iff.1 h with ⟨hrepeats, rfl⟩ | ⟨rfl, hmin⟩
  · have htext : (render ⟨1, max, s, repeats⟩).toList ++ cs = repeats.toNat.repr.toList ++
        '*' :: (max.toNat.repr.toList ++ (s.name.toList ++ cs)) := by
      rw [render, if_pos hrepeats]
      simp
    rw [htext]
    exact exists_derives_repeated s cs offset repeats max
  · have hone : ¬ (1 : UInt32) < 1 := by decide
    by_cases hfix : min = max ∧ max ≠ 1
    · obtain ⟨rfl, hne⟩ := hfix
      have htext : (render ⟨min, min, s, 1⟩).toList ++ cs =
          min.toNat.repr.toList ++ '!' :: (s.name.toList ++ cs) := by
        rw [render, if_neg hone, if_pos ⟨rfl, hne⟩]
        simp
      rw [htext]
      exact exists_derives_exactly s cs offset min
    · obtain rfl : min = 1 := by
        rcases hmin with hmin | hmin
        · exact hmin
        · by_contra hne
          have hmax : max = min := hmin.symm
          exact hfix ⟨hmin, hmax ▸ hne⟩
      have htext : (render ⟨1, max, s, 1⟩).toList ++ cs =
          max.toNat.repr.toList ++ (s.name.toList ++ cs) := by
        rw [render, if_neg hone, if_neg hfix]
        simp
      rw [htext]
      exact exists_derives_upTo s cs offset max

end Field

namespace Node

/-- The first character of a canonical part tells dates and literals from other parts. -/
theorem exists_head_render {n : Node} (h : n.isCanonical) : ∃ c cs, n.render.toList = c :: cs ∧
    (Token.isDateLetter c → ∃ run, n = .date run) ∧
    (Token.isPlainChar c → ∃ text, n = .literal text ∧ c ∈ text.toList.head?) := by
  cases n with
  | literal text =>
    rw [isCanonical] at h
    obtain ⟨c, cs, htext, hc, -⟩ := isLiteralText_iff.1 h
    refine ⟨c, cs, htext, fun hdate => ?_, fun _ => ⟨text, rfl, by rw [htext]; rfl⟩⟩
    rcases hc with hplain | rfl | rfl
    · exact absurd hdate (by simp [(Token.isPlainChar_iff.1 hplain).2.1])
    · cases hdate
    · cases hdate
  | field f =>
    obtain ⟨c, cs, hcs, hdigit⟩ := f.exists_head_render
    refine ⟨c, cs, hcs, fun hdate => ?_, fun hplain => ?_⟩
    · exact absurd hdigit (by simp [Token.not_isDigit_of_isDateLetter hdate])
    · exact absurd hdigit (by simp [(Token.isPlainChar_iff.1 hplain).1])
  | date run =>
    rw [isCanonical_date_iff] at h
    rw [render]
    cases hrun : run.toList with
    | nil => exact absurd (String.toList_eq_nil_iff.1 hrun) h.1
    | cons c cs =>
      refine ⟨c, cs, rfl, fun _ => ⟨run, rfl⟩, fun hplain => ?_⟩
      have hdate : Token.isDateLetter c := h.2 c (by rw [hrun]; exact List.mem_cons_self)
      exact absurd hdate (by simp [(Token.isPlainChar_iff.1 hplain).2.1])
  | sign =>
    have hdate : ¬ Token.isDateLetter 'N' := by decide
    have hplain : ¬ Token.isPlainChar 'N' := by decide
    exact ⟨'N', [], rfl, fun h => absurd h hdate, fun h => absurd h hplain⟩
  | group b children =>
    refine ⟨b.opening, (renderList children).toList ++ [b.closing], ?_, ?_, ?_⟩
    · rw [render, String.toList_append, String.toList_append, String.toList_singleton,
        String.toList_singleton]
      rfl
    · have hdate : ¬ Token.isDateLetter b.opening := by cases b <;> decide
      exact fun h => absurd h hdate
    · have hplain : ¬ Token.isPlainChar b.opening := by cases b <;> decide
      exact fun h => absurd h hplain

/-- Behind a part that does not clash with the next one, what is written does not go on with it. -/
theorem head_renderList_append {n : Node} {ns : List Node} (h : isCanonicalList ns)
    (hns : ∀ m ∈ ns.head?, n.clashes m = false) {cs : List Char}
    (hcs : ∀ c ∈ cs.head?, (Bracket.ofClosing? c).isSome) :
    ∀ c ∈ ((renderList ns).toList ++ cs).head?,
      (∀ run, n = .date run → Token.isDateLetter c = false) ∧
        ∀ text, n = .literal text → Token.isPlainChar c = false := by
  intro c hc
  cases ns with
  | nil =>
    obtain ⟨b, hb⟩ := Option.isSome_iff_exists.1 (hcs c hc)
    rw [Bracket.ofClosing?_eq_some_iff] at hb
    rw [hb]
    cases b <;> exact ⟨fun _ _ => rfl, fun _ _ => rfl⟩
  | cons m ns =>
    obtain ⟨hm, -, -⟩ := isCanonicalList_cons.1 h
    obtain ⟨d, ds, hd, hdate, hplain⟩ := exists_head_render hm
    rw [renderList, String.toList_append, hd] at hc
    obtain rfl : d = c := Option.some.inj hc
    have hclash := hns m rfl
    refine ⟨fun run hn => ?_, fun text hn => ?_⟩
    · rw [Bool.eq_false_iff]
      intro hd'
      obtain ⟨run', rfl⟩ := hdate hd'
      rw [hn] at hclash
      cases hclash
    · rw [Bool.eq_false_iff]
      intro hd'
      obtain ⟨text', rfl, hhead⟩ := hplain hd'
      rw [hn, clashes, Option.mem_def.1 hhead, Option.any_some, hd'] at hclash
      cases hclash

/-- Canonical parts are derived from the tokens of their text, in front of a closing bracket or of
the end. -/
theorem exists_derives_render {ns : List Node} (h : isCanonicalList ns) {cs : List Char}
    (hcs : ∀ c ∈ cs.head?, (Bracket.ofClosing? c).isSome) (offset : Nat) :
    ∃ ts offset', Derives ts ns ∧
      Token.locate offset (Token.runs ((renderList ns).toList ++ cs)) =
        ts ++ Token.locate offset' (Token.runs cs) := by
  induction ns using Node.sequence_induction generalizing cs offset with
  | nil => exact ⟨[], offset, .nil, rfl⟩
  | literal text ns ih =>
    obtain ⟨hn, hclash, hns⟩ := isCanonicalList_cons.1 h
    have hbehind := head_renderList_append hns hclash hcs
    obtain ⟨t, run, o₁, ht, hrun, hjoin, h₁⟩ :=
      Token.locate_runs_literal hn ((renderList ns).toList ++ cs) offset
    obtain ⟨ts, o₂, hd, h₂⟩ := ih hns hcs o₁
    -- An ordinary token right behind would show an ordinary character right behind.
    have hlongest : ∀ u ∈ ts.head?, ¬ u.isPlain := by
      intro u hu hplain
      have hfirst : u ∈ (Token.locate o₁ (Token.runs ((renderList ns).toList ++ cs))).head? := by
        rw [h₂, List.head?_append, Option.mem_def.1 hu]
        rfl
      obtain ⟨c, hc, hcplain⟩ := Token.exists_head?_of_isPlain hfirst hplain
      rw [(hbehind c hc).2 text rfl] at hcplain
      cases hcplain
    rw [String.ofList_toList] at hjoin
    refine ⟨t :: run ++ ts, o₂, hjoin ▸ .literal ht hrun hlongest hd, ?_⟩
    rw [renderList, String.toList_append, List.append_assoc, render, h₁, h₂, List.append_assoc]
  | field f ns ih =>
    obtain ⟨hn, -, hns⟩ := isCanonicalList_cons.1 h
    obtain ⟨us, o₁, hfield, h₁⟩ :=
      Field.exists_derives_render hn ((renderList ns).toList ++ cs) offset
    obtain ⟨ts, o₂, hd, h₂⟩ := ih hns hcs o₁
    refine ⟨us ++ ts, o₂, .field hfield hd, ?_⟩
    rw [renderList, String.toList_append, List.append_assoc, render, h₁, h₂, List.append_assoc]
  | date run ns ih =>
    obtain ⟨hn, hclash, hns⟩ := isCanonicalList_cons.1 h
    have hbehind := head_renderList_append hns hclash hcs
    rw [isCanonical_date_iff] at hn
    have hne : run.toList ≠ [] := mt String.toList_eq_nil_iff.1 hn.1
    obtain ⟨t, o₁, ht, h₁⟩ := Token.locate_runs_date hne hn.2
      (fun c hc => (hbehind c hc).1 run rfl) offset
    obtain ⟨ts, o₂, hd, h₂⟩ := ih hns hcs o₁
    rw [String.ofList_toList] at ht
    refine ⟨t :: ts, o₂, .date ht hd, ?_⟩
    rw [renderList, String.toList_append, List.append_assoc, render, h₁, h₂]
    rfl
  | sign ns ih =>
    obtain ⟨-, -, hns⟩ := isCanonicalList_cons.1 h
    obtain ⟨ts, o₁, hd, h₁⟩ := ih hns hcs (offset + (String.ofList ['N']).utf8ByteSize)
    refine ⟨Token.ofRun offset 'N' [] :: ts, o₁, .sign rfl hd, ?_⟩
    rw [renderList, String.toList_append, List.append_assoc, render]
    exact (Token.locate_runs_cons (c := 'N') rfl _ offset).trans (congrArg _ h₁)
  | group b children ns ihc ih =>
    obtain ⟨hn, -, hns⟩ := isCanonicalList_cons.1 h
    rw [isCanonical, Bool.and_eq_true] at hn
    have hflat : b.captures → captureCountList children = 0 := by
      intro hb
      simpa [hb] using hn.1
    -- The content stands in front of the closing bracket, so that the induction applies to it.
    have hclose : ∀ c ∈ (b.closing :: ((renderList ns).toList ++ cs)).head?,
        (Bracket.ofClosing? c).isSome := by
      rintro _ ⟨⟩
      rw [Bracket.ofClosing?_closing]
      rfl
    obtain ⟨t, o₁, ht, h₁⟩ := Token.locate_runs_mark b.isMarkChar_opening
      ((renderList children).toList ++ b.closing :: ((renderList ns).toList ++ cs)) offset
    obtain ⟨inner, o₂, hcontent, h₂⟩ := ihc hn.2 hclose o₁
    obtain ⟨u, o₃, hu, h₃⟩ :=
      Token.locate_runs_mark b.isMarkChar_closing ((renderList ns).toList ++ cs) o₂
    obtain ⟨ts, o₄, hd, h₄⟩ := ih hns hcs o₃
    have htext : (renderList (.group b children :: ns)).toList ++ cs = b.opening ::
        ((renderList children).toList ++ b.closing :: ((renderList ns).toList ++ cs)) := by
      simp [renderList, render]
    refine ⟨t :: inner ++ u :: ts, o₄, .group ht hcontent hu hflat hd, ?_⟩
    rw [htext, h₁, h₂, h₃, h₄]
    simp

end Node

/-! ## Layouts -/

namespace Layout

/-- A canonical layout is read back from its text. -/
theorem parse_render_of_isCanonical {l : Layout} (h : l.isCanonical) : parse l.render = .ok l := by
  obtain ⟨ts, offset, hd, hlocate⟩ :=
    Node.exists_derives_render h (show ∀ c ∈ [].head?, _ from nofun) 0
  rw [parse_eq_ok_iff_derives, Token.scan]
  rw [List.append_nil] at hlocate
  rw [render, hlocate]
  exact (List.append_nil ts).symm ▸ hd

theorem render_normalized (l : Layout) : l.normalized.render = l.render :=
  Node.renderList_normalizedList l.nodes

theorem patternText_normalized (l : Layout) : l.normalized.patternText = l.patternText := by
  rw [patternText, normalized, Node.patternTextList_normalizedList, patternText]

theorem normalized_eq_self_iff (l : Layout) :
    l.normalized = l ↔ ∀ f ∈ l.fields, f.repeats ≠ 0 := by
  obtain ⟨nodes⟩ := l
  rw [normalized, mk.injEq]
  exact Node.normalizedList_eq_self_iff nodes

/-- What is read from a text is canonical, once it is normalized. -/
theorem isCanonical_normalized_of_parse {s : String} {l : Layout} (h : parse s = .ok l) :
    l.normalized.isCanonical :=
  Node.isCanonicalList_of_derives (Token.isScanned_scan s) (parse_eq_ok_iff_derives.1 h)

/-- Writing a layout that was read from a text and reading it back gives the same layout, but for
fields with no repeats. It is written as before, and so is its pattern. -/
theorem parse_render_of_parse {s : String} {l : Layout} (h : parse s = .ok l) :
    parse l.render = .ok l.normalized ∧
      (l.normalized = l ↔ ∀ f ∈ l.fields, f.repeats ≠ 0) ∧
      l.normalized.render = l.render ∧
      (parse l.render).bind patternText = (parse s).bind patternText := by
  have hread : parse l.render = .ok l.normalized := by
    rw [← render_normalized]
    exact parse_render_of_isCanonical (isCanonical_normalized_of_parse h)
  refine ⟨hread, normalized_eq_self_iff l, render_normalized l, ?_⟩
  rw [hread, h]
  exact patternText_normalized l

/-- A sign and a field with no repeats whose length has a leading zero. -/
theorem parse_render_of_parse_no_repeats :
    let l : Layout := ⟨[.sign, .field ⟨1, 3, .digits, 0⟩]⟩
    parse "N0*03n" = .ok l ∧ l.render = "N3n" ∧
      parse "N3n" = .ok ⟨[.sign, .field ⟨1, 3, .digits, 1⟩]⟩ ∧ l.normalized ≠ l ∧
      l.normalized.render = "N3n" ∧
      (parse "N3n").bind patternText = (parse "N0*03n").bind patternText := by
  intro l
  have hread : parse "N0*03n" = .ok l := by
    rw [parse_eq_ok_iff_derives]
    exact .sign rfl (.field (.repeated rfl rfl rfl rfl) .nil)
  have hrender : l.render = "N3n" := by decide +kernel
  obtain ⟨hback, hsame, hnormalized, hpattern⟩ := parse_render_of_parse hread
  rw [hrender] at hback hnormalized hpattern
  refine ⟨hread, hrender, hback, fun h => ?_, hnormalized, hpattern⟩
  exact hsame.1 h ⟨1, 3, .digits, 0⟩ (by decide) rfl

end Layout

end FieldLayout
