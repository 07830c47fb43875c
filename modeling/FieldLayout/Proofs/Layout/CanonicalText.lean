import FieldLayout.Proofs.Layout.Concatenation

/-!
# Layout texts that are written as they were read

A layout that was read from a text need not be written in the same way. Only fields can change: a
number loses the zeros in front of it or is too large to be kept, and a mark that says nothing is
left out. All other tokens of the text come back as they are.

Written fields are never longer than the tokens that they were read from. So changes in different
fields cannot make up for each other, and the text comes back exactly if every field does.

## Main definitions

* `Token.IsShortest`: digits that write a number in the shortest way.
* `Token.AreCanonical`: no number and no mark among the tokens would be written in another way.
* `Token.Rewrites`: the text of tokens in which fields are written anew.

## Main statements

* `Field.Derives.replaces`, `Token.Rewrites.replaces`: what is written is no longer than what was
  read, and it is the same exactly for canonical tokens.
* `Layout.render_eq_iff_areCanonical`: which texts come back, and what is kept of the others.
-/

namespace FieldLayout

/-! ## Numbers -/

namespace Token

/-- The digits write a number that can be held, and there are no zeros in front of it. -/
def IsShortest (text : String) : Prop :=
  (text = "0" ∨ ∀ c ∈ text.toList.head?, c ≠ '0') ∧ decimalValue text.toList ≤ 4294967295

theorem digitChar_toNat_sub {c : Char} (h : c.isDigit) :
    c.toNat - '0'.toNat < 10 ∧ (c.toNat - '0'.toNat).digitChar = c := by
  obtain ⟨hlow, hhigh⟩ := Char.isDigit_iff_toNat.1 h
  simp only [Char.reduceToNat] at hlow hhigh ⊢
  have hlt : c.toNat - 48 < 10 := by omega
  refine ⟨hlt, ?_⟩
  rw [← Char.toNat_inj, Nat.toNat_digitChar_of_lt_ten hlt]
  omega

theorem ofDigitChars_lt {ds : List Char} (h : ∀ c ∈ ds, c.isDigit) :
    Nat.ofDigitChars 10 ds 0 < 10 ^ ds.length := by
  induction ds with
  | nil => simp
  | cons d ds ih =>
    obtain ⟨hd, hds⟩ := List.forall_mem_cons.1 h
    have hdigit := (digitChar_toNat_sub hd).1
    have hrest := ih hds
    rw [Nat.ofDigitChars_cons, Nat.ofDigitChars_eq_ofDigitChars_zero, Nat.mul_zero, Nat.zero_add,
      List.length_cons, Nat.pow_succ]
    generalize d.toNat - '0'.toNat = k at hdigit
    have hle : 10 ^ ds.length * k ≤ 10 ^ ds.length * 9 := Nat.mul_le_mul_left _ (by omega)
    omega

theorem head?_toDigits {n : Nat} (hn : n ≠ 0) : ∀ c ∈ (Nat.toDigits 10 n).head?, c ≠ '0' := by
  induction n using Nat.strong_induction_on with
  | _ n ih =>
    rw [Nat.toDigits_eq_if (by decide)]
    split
    · rintro _ ⟨⟩
      exact mt Nat.digitChar_eq_zero.1 hn
    · next hge =>
      rw [List.head?_append_of_ne_nil _ Nat.toDigits_ne_nil]
      exact ih (n / 10) (by omega) (by omega)

theorem toDigits_ofDigitChars {ds : List Char} (hne : ds ≠ []) (h : ∀ c ∈ ds, c.isDigit)
    (hhead : ∀ c ∈ ds.head?, c ≠ '0') : Nat.toDigits 10 (Nat.ofDigitChars 10 ds 0) = ds := by
  induction ds using List.reverseRecOn with
  | nil => exact absurd rfl hne
  | append_singleton ds d ih =>
    obtain ⟨hds, hd⟩ := List.forall_mem_append.1 h
    obtain ⟨hlt, hchar⟩ := digitChar_toNat_sub (hd d List.mem_cons_self)
    have hlast : Nat.toDigits 10 (d.toNat - '0'.toNat) = [d] := by
      rw [Nat.toDigits_of_lt_base hlt, hchar]
    rw [Nat.ofDigitChars_append, Nat.ofDigitChars_cons, Nat.ofDigitChars_nil]
    by_cases hnil : ds = []
    · rw [hnil, Nat.ofDigitChars_nil, Nat.mul_zero, Nat.zero_add, hlast]
      rfl
    · rw [List.head?_append_of_ne_nil _ hnil] at hhead
      have hfront := ih hnil hds hhead
      -- The digits in front do not write zero, since they do not start with a zero.
      have hpos : 0 < Nat.ofDigitChars 10 ds 0 := by
        rw [Nat.pos_iff_ne_zero]
        intro hzero
        rw [hzero, Nat.toDigits_zero] at hfront
        rw [← hfront] at hhead
        exact hhead '0' rfl rfl
      rw [← Nat.toDigits_append_toDigits (by decide) hpos hlt, hfront, hlast]

variable {t : Token} {n : UInt32} {ts us : List Token}

theorem IsGenuine.length_repr_le (h : t.IsGenuine) (ht : t.lexeme = .number n) :
    n.toNat.repr.length ≤ t.text.length := by
  rw [IsGenuine, ht] at h
  obtain ⟨hne, hdigits, rfl⟩ := h
  have hpos : 0 < t.text.toList.length :=
    List.length_pos_iff.2 (mt String.toList_eq_nil_iff.1 hne)
  have hlt := ofDigitChars_lt hdigits
  rw [← String.length_toList, ← String.length_toList, Nat.toList_repr, toNat_ofNatClamp]
  exact Nat.toDigits_length 10 _ _ hpos (by omega)

/-- A number is written as it was read exactly if it was read in the shortest way. -/
theorem IsGenuine.repr_eq_iff (h : t.IsGenuine) (ht : t.lexeme = .number n) :
    n.toNat.repr = t.text ↔ IsShortest t.text := by
  rw [IsGenuine, ht] at h
  obtain ⟨hne, hdigits, rfl⟩ := h
  have hne' : t.text.toList ≠ [] := mt String.toList_eq_nil_iff.1 hne
  rw [toNat_ofNatClamp, IsShortest, decimalValue_eq_ofDigitChars, ← String.toList_inj,
    Nat.toList_repr]
  constructor
  · intro h
    have hvalue := congrArg (fun ds => Nat.ofDigitChars 10 ds 0) h
    simp only [Nat.ofDigitChars_ten_toDigits] at hvalue
    refine ⟨?_, by omega⟩
    rw [hvalue] at h
    by_cases hzero : Nat.ofDigitChars 10 t.text.toList 0 = 0
    · rw [hzero, Nat.toDigits_zero] at h
      exact .inl (String.toList_inj.1 h.symm)
    · rw [← h]
      exact .inr (head?_toDigits hzero)
  · rintro ⟨hzeros, hle⟩
    rw [Nat.min_eq_left hle]
    rcases hzeros with hzero | hhead
    · rw [hzero]
      rfl
    · exact toDigits_ofDigitChars hne' hdigits hhead

/-! ## Canonical tokens -/

/-- A mark behind a number says something: a star stands behind two repeats or more, and no
exclamation mark behind a length of one. -/
def MarkCounts (t u : Token) : Prop :=
  ∀ n, t.lexeme = .number n → (u.lexeme = .mark '*' → 2 ≤ n) ∧ (u.lexeme = .mark '!' → n ≠ 1)

/-- Every number is written in the shortest way, and every mark behind a number says something. -/
structure AreCanonical (ts : List Token) : Prop where
  shortest : ∀ t ∈ ts, ∀ n, t.lexeme = .number n → IsShortest t.text
  marked : ts.IsChain MarkCounts

theorem areCanonical_nil : AreCanonical [] := ⟨nofun, List.isChain_nil⟩

theorem areCanonical_cons : AreCanonical (t :: ts) ↔
    (∀ n, t.lexeme = .number n → IsShortest t.text) ∧ (∀ u ∈ ts.head?, t.MarkCounts u) ∧
      AreCanonical ts := by
  constructor
  · rintro ⟨hshortest, hmarked⟩
    obtain ⟨ht, hts⟩ := List.forall_mem_cons.1 hshortest
    obtain ⟨hhead, htail⟩ := List.isChain_cons.1 hmarked
    exact ⟨ht, hhead, hts, htail⟩
  · rintro ⟨ht, hhead, hts, htail⟩
    exact ⟨List.forall_mem_cons.2 ⟨ht, hts⟩, List.isChain_cons.2 ⟨hhead, htail⟩⟩

/-- Only behind a number does it matter what follows. -/
theorem areCanonical_append (hts : ∀ t ∈ ts.getLast?, ∀ n, t.lexeme ≠ .number n) :
    AreCanonical (ts ++ us) ↔ AreCanonical ts ∧ AreCanonical us := by
  have hends : ∀ t ∈ ts.getLast?, ∀ u ∈ us.head?, t.MarkCounts u :=
    fun t ht _ _ n hn => absurd hn (hts t ht n)
  constructor
  · rintro ⟨hshortest, hmarked⟩
    obtain ⟨hleft, hright⟩ := List.forall_mem_append.1 hshortest
    obtain ⟨hleft', hright', -⟩ := List.isChain_append.1 hmarked
    exact ⟨⟨hleft, hleft'⟩, hright, hright'⟩
  · rintro ⟨⟨hleft, hleft'⟩, hright, hright'⟩
    exact ⟨List.forall_mem_append.2 ⟨hleft, hright⟩,
      List.isChain_append.2 ⟨hleft', hright', hends⟩⟩

/-! ## Texts in place of tokens -/

/-- The text is no longer than the tokens that it stands for, and it is their own text exactly if
they are canonical. -/
structure Replaces (text : String) (ts : List Token) : Prop where
  length_le : text.length ≤ (join ts).length
  eq_iff : text = join ts ↔ AreCanonical ts

theorem Replaces.of_length_lt {text : String} (hlt : text.length < (join ts).length)
    (h : ¬ AreCanonical ts) : Replaces text ts := by
  refine ⟨hlt.le, iff_of_false ?_ h⟩
  rintro rfl
  exact lt_irrefl _ hlt

theorem append_eq_append_iff_of_length_le {a b c d : String} (hac : a.length ≤ c.length)
    (hbd : b.length ≤ d.length) : a ++ b = c ++ d ↔ a = c ∧ b = d := by
  constructor
  · intro h
    have hlength := congrArg String.length h
    rw [String.length_append, String.length_append] at hlength
    rw [← String.toList_inj, String.toList_append, String.toList_append] at h
    have hfront : a.toList.length = c.toList.length := by
      rw [String.length_toList, String.length_toList]
      omega
    obtain ⟨hac', hbd'⟩ := List.append_inj h hfront
    exact ⟨String.toList_inj.1 hac', String.toList_inj.1 hbd'⟩
  · rintro ⟨rfl, rfl⟩
    rfl

/-- Neither of two texts can be too long, so that both are right if they are right together. -/
theorem Replaces.append {a b : String} (ha : Replaces a ts) (hb : Replaces b us)
    (hts : ∀ t ∈ ts.getLast?, ∀ n, t.lexeme ≠ .number n) : Replaces (a ++ b) (ts ++ us) := by
  refine ⟨?_, ?_⟩
  · rw [join_append, String.length_append, String.length_append]
    exact Nat.add_le_add ha.length_le hb.length_le
  · rw [join_append, append_eq_append_iff_of_length_le ha.length_le hb.length_le, ha.eq_iff,
      hb.eq_iff, areCanonical_append hts]

theorem Replaces.nil : Replaces "" [] := ⟨le_rfl, iff_of_true rfl areCanonical_nil⟩

theorem Replaces.cons {a b : String} (hlength : a.length ≤ t.text.length)
    (hiff : a = t.text ↔ ∀ n, t.lexeme = .number n → IsShortest t.text)
    (hmark : ∀ u ∈ us.head?, t.MarkCounts u) (h : Replaces b us) :
    Replaces (a ++ b) (t :: us) := by
  refine ⟨?_, ?_⟩
  · rw [join, String.length_append, String.length_append]
    exact Nat.add_le_add hlength h.length_le
  · rw [join, append_eq_append_iff_of_length_le hlength h.length_le, hiff, h.eq_iff,
      areCanonical_cons, and_iff_right hmark]

theorem Replaces.number {b : String} (ht : t.IsGenuine) (hn : t.lexeme = .number n)
    (hmark : ∀ u ∈ us.head?, t.MarkCounts u) (h : Replaces b us) :
    Replaces (n.toNat.repr ++ b) (t :: us) := by
  refine .cons (ht.length_repr_le hn) ?_ hmark h
  rw [ht.repr_eq_iff hn]
  exact ⟨fun h _ _ => h, fun h => h n hn⟩

theorem Replaces.kept {b : String} (ht : ∀ n, t.lexeme ≠ .number n) (h : Replaces b us) :
    Replaces (t.text ++ b) (t :: us) := by
  refine .cons le_rfl (iff_of_true rfl fun n hn => absurd hn (ht n)) ?_ h
  exact fun u _ n hn => absurd hn (ht n)

end Token

/-! ## Fields -/

namespace Field

variable {n m : UInt32} (s : Charset)

theorem one_lt_iff : 1 < n ↔ 2 ≤ n := Iff.rfl

theorem render_of_few (hn : ¬ 2 ≤ n) : render ⟨1, m, s, n⟩ = m.toNat.repr ++ s.name := by
  have hfree : ¬ (1 = m ∧ m ≠ 1) := fun h => h.2 h.1.symm
  rw [render, if_neg (mt one_lt_iff.1 hn), if_neg hfree]

theorem render_of_several (hn : 2 ≤ n) :
    render ⟨1, m, s, n⟩ = n.toNat.repr ++ ("*" ++ (m.toNat.repr ++ s.name)) := by
  rw [render, if_pos (one_lt_iff.2 hn)]
  simp only [String.append_assoc]

theorem render_of_fixed (hn : n ≠ 1) : render ⟨n, n, s, 1⟩ = n.toNat.repr ++ ("!" ++ s.name) := by
  have hone : ¬ (1 : UInt32) < 1 := by decide
  rw [render, if_neg hone, if_pos ⟨rfl, hn⟩]
  simp only [String.append_assoc]

/-- A field is written no longer than it was read, and in the same way exactly if its tokens are
canonical. -/
theorem Derives.replaces {used : List Token} {f : Field} (h : f.Derives used)
    (hused : ∀ t ∈ used, t.IsGenuine) : Token.Replaces f.render used := by
  -- The token behind the length is kept in all cases.
  have hset {t : Token} {s : Charset} (ht : t ∈ used) (hs : t.text = s.name) :
      Token.Replaces s.name [t] := by
    have hkept := Token.Replaces.kept ((hused t ht).lexeme_ne_of_name hs).1 .nil
    rwa [String.append_empty, hs] at hkept
  cases h with
  | @upTo head last n s hn hfix htimes hs =>
    rw [render_of_few s (by decide)]
    refine .number (hused head (by simp)) hn ?_ (hset (by simp) hs)
    rintro _ ⟨⟩ k -
    exact ⟨fun h => absurd h htimes, fun h => absurd h hfix⟩
  | @exactly head fix last n s hn hfix hs =>
    have hmark := (hused fix (by simp)).text_of_mark hfix
    by_cases hone : n = 1
    · -- The exclamation mark is left out.
      subst hone
      refine .of_length_lt ?_ fun h => ((Token.areCanonical_cons.1 h).2.1 fix rfl 1 hn).2 hfix rfl
      have hlength := (hused head (by simp)).length_repr_le hn
      rw [render_of_few s (by decide)]
      simp only [Token.join, hmark, hs, String.length_append, String.length_singleton]
      omega
    · rw [render_of_fixed s hone]
      have htail := (hset (by simp) hs).kept (t := fix) (by simp [hfix])
      rw [hmark] at htail
      refine .number (hused head (by simp)) hn ?_ htail
      rintro _ ⟨⟩ k hk
      obtain rfl := Lexeme.number.inj (hn.symm.trans hk)
      exact ⟨by simp [hfix], fun _ => hone⟩
  | @repeated head times bound last n m s hn htimes hm hs =>
    have hmark := (hused times (by simp)).text_of_mark htimes
    have hbound : Token.Replaces (m.toNat.repr ++ s.name) [bound, last] := by
      refine .number (hused bound (by simp)) hm ?_ (hset (by simp) hs)
      rintro _ ⟨⟩ k -
      have hname : s.name ≠ String.singleton '*' ∧ s.name ≠ String.singleton '!' := by
        cases s <;> decide
      have hlast := hused last (by simp)
      exact ⟨fun h => absurd (hs.symm.trans (hlast.text_of_mark h)) hname.1,
        fun h => absurd (hs.symm.trans (hlast.text_of_mark h)) hname.2⟩
    by_cases hseveral : 2 ≤ n
    · rw [render_of_several s hseveral]
      have htail := hbound.kept (t := times) (by simp [htimes])
      rw [hmark] at htail
      refine .number (hused head (by simp)) hn ?_ htail
      rintro _ ⟨⟩ k hk
      obtain rfl := Lexeme.number.inj (hn.symm.trans hk)
      exact ⟨fun _ => hseveral, by simp [htimes]⟩
    · -- The number of repeats is left out.
      refine .of_length_lt ?_ fun h =>
        hseveral (((Token.areCanonical_cons.1 h).2.1 times rfl n hn).1 htimes)
      have hlength := hbound.length_le
      rw [render_of_few s hseveral, Token.join, Token.join, hmark, String.length_append head.text,
        String.length_append (String.singleton '*'), String.length_singleton]
      omega

end Field

/-! ## Layouts -/

namespace Token

/-- The text of tokens in which fields are written anew. All other tokens are kept as they are, and
the fields are listed in order. -/
inductive Rewrites : List Token → String → List Field → Prop
  | nil : Rewrites [] "" []
  | kept {t : Token} {ts : List Token} {text : String} {fs : List Field}
      (ht : ∀ n, t.lexeme ≠ .number n) (others : Rewrites ts text fs) :
      Rewrites (t :: ts) (t.text ++ text) fs
  | field {used ts : List Token} {text : String} {f : Field} {fs : List Field}
      (first : f.Derives used) (others : Rewrites ts text fs) :
      Rewrites (used ++ ts) (f.render ++ text) (f :: fs)

namespace Rewrites

variable {ts us : List Token} {a b : String} {fs gs : List Field}

theorem append (h : Rewrites ts a fs) (h' : Rewrites us b gs) :
    Rewrites (ts ++ us) (a ++ b) (fs ++ gs) := by
  induction h with
  | nil =>
    rw [String.empty_append]
    exact h'
  | kept ht _ ih =>
    rw [String.append_assoc]
    exact .kept ht ih
  | field first _ ih =>
    rw [List.append_assoc, String.append_assoc]
    exact .field first ih

theorem of_kept (h : ∀ t ∈ ts, ∀ n, t.lexeme ≠ .number n) : Rewrites ts (join ts) [] := by
  induction ts with
  | nil => exact .nil
  | cons t ts ih =>
    obtain ⟨ht, hts⟩ := List.forall_mem_cons.1 h
    exact .kept ht (ih hts)

theorem replaces (h : Rewrites ts a fs) (hts : ∀ t ∈ ts, t.IsGenuine) : Replaces a ts := by
  induction h with
  | nil => exact .nil
  | kept ht _ ih => exact (ih (List.forall_mem_cons.1 hts).2).kept ht
  | @field used ts text f fs first others ih =>
    obtain ⟨hused, hrest⟩ := List.forall_mem_append.1 hts
    refine (first.replaces hused).append (ih hrest) fun t ht => ?_
    have hgenuine := hused t (List.mem_of_mem_getLast? ht)
    exact (hgenuine.lexeme_ne_of_name (first.text_getLast t ht)).1

end Rewrites

end Token

/-- What is read from tokens is written as these tokens with the fields written anew. -/
theorem Node.Derives.rewrites {ts : List Token} {ns : List Node} (h : Derives ts ns)
    (hts : ∀ t ∈ ts, t.IsGenuine) : Token.Rewrites ts (renderList ns) (fieldsList ns) := by
  induction h with
  | nil => exact .nil
  | @date t run rest ns ht others ih =>
    obtain ⟨hgenuine, hrest⟩ := List.forall_mem_cons.1 hts
    rw [Token.IsGenuine, ht] at hgenuine
    obtain ⟨rfl, -⟩ := hgenuine
    exact .kept (by simp [ht]) (ih hrest)
  | @sign t rest ns ht others ih =>
    obtain ⟨hgenuine, hrest⟩ := List.forall_mem_cons.1 hts
    rw [Token.IsGenuine, ht] at hgenuine
    rw [renderList, render, ← hgenuine]
    exact .kept (by simp [ht]) (ih hrest)
  | @field ts rest f ns first others ih =>
    exact .field first (ih (List.forall_mem_append.1 hts).2)
  | @literal t run rest ns ht hrun longest others ih =>
    have hkept := Token.Rewrites.of_kept fun u hu => (ht.of_mem_cons hrun u hu).lexeme_ne.1
    exact hkept.append (ih (List.forall_mem_append.1 hts).2)
  | @group t u inner rest b children ns ht content hu hflat others ihc ih =>
    obtain ⟨hfirst, hbehind⟩ := List.forall_mem_append.1 hts
    obtain ⟨hopen, hinner⟩ := List.forall_mem_cons.1 hfirst
    obtain ⟨hclose, hrest⟩ := List.forall_mem_cons.1 hbehind
    have hmark {v : Token} {c : Char} (hv : v.lexeme = .mark c) : ∀ n, v.lexeme ≠ .number n := by
      simp [hv]
    have hgroup := ((ihc hinner).append ((ih hrest).kept (hmark hu))).kept (hmark ht)
    rw [hopen.text_of_mark ht, hclose.text_of_mark hu] at hgroup
    simpa only [renderList, render, fieldsList, fields, String.append_assoc, List.cons_append]
      using hgroup

namespace Layout

/-- A layout that was read from a text is written as the same text exactly if the tokens of the text
are canonical. In any case nothing but the tokens of fields is written in another way. -/
theorem render_eq_iff_areCanonical {s : String} {l : Layout} (h : parse s = .ok l) :
    (l.render = s ↔ Token.AreCanonical (Token.scan s)) ∧
      Token.join (Token.scan s) = s ∧ Token.Rewrites (Token.scan s) l.render l.fields := by
  have hgenuine := (Token.isScanned_scan s).genuine
  have hjoin := (Token.segments_scan s).joins
  have hrewrites := (parse_eq_ok_iff_derives.1 h).rewrites hgenuine
  have hiff := (hrewrites.replaces hgenuine).eq_iff
  rw [hjoin] at hiff
  exact ⟨hiff, hjoin, hrewrites⟩

/-- A text that comes back, and one that loses a zero and an exclamation mark. -/
theorem render_eq_iff_areCanonical_marks :
    (∃ l, parse "2*35x[!N0!c]" = .ok l ∧ l.render = "2*35x[!N0!c]" ∧
      Token.AreCanonical (Token.scan "2*35x[!N0!c]")) ∧
    ∃ l, parse "ü02*35x(N1!c)" = .ok l ∧ l.render = "ü2*35x(N1c)" ∧
      ¬ Token.AreCanonical (Token.scan "ü02*35x(N1!c)") ∧
      Token.Rewrites (Token.scan "ü02*35x(N1!c)") "ü2*35x(N1c)" l.fields := by
  have hkept : parse "2*35x[!N0!c]" = .ok ⟨[.field ⟨1, 35, .text, 2⟩,
      .group .optional [.literal "!", .sign, .field ⟨0, 0, .alphanumeric, 1⟩]]⟩ := by
    decide +kernel
  have hchanged : parse "ü02*35x(N1!c)" = .ok ⟨[.literal "ü", .field ⟨1, 35, .text, 2⟩,
      .group .capture [.sign, .field ⟨1, 1, .alphanumeric, 1⟩]]⟩ := by decide +kernel
  obtain ⟨hkept', -⟩ := render_eq_iff_areCanonical hkept
  obtain ⟨hchanged', -, hrewrites⟩ := render_eq_iff_areCanonical hchanged
  refine ⟨⟨_, hkept, by decide +kernel, hkept'.1 (by decide +kernel)⟩, _, hchanged, ?_, ?_, ?_⟩
  · decide +kernel
  · exact mt hchanged'.2 (by decide +kernel)
  · exact hrewrites

end Layout

end FieldLayout
