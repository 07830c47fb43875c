import FieldLayout.Layout.Parser
import FieldLayout.Proofs.Token.Scanning
import Mathlib.Data.Nat.Digits.Defs

/-!
# The segmentation of a text

A text can be cut into pieces in many ways. It is segmented if every piece means something by itself
and no two neighbouring numbers or dates are left that could have been one. The lexer finds a
segmentation of every text, and there is no other one.

## Main definitions

* `Token.Spells`: what a piece of text stands for, told without the lexer.
* `Token.PlacedFrom`: the offsets of tokens count the bytes of the texts in front of them.
* `Token.Segments`: the tokens are a segmentation of a text.

## Main statements

* `Token.segments_scan`: the tokens that the lexer finds are a segmentation.
* `Token.Segments.scan_eq`: any segmentation is what the lexer finds.
-/

namespace FieldLayout

namespace Token

/-! ## What a piece stands for -/

/-- The number that digits write in base ten. -/
def decimalValue (digits : List Char) : Nat :=
  Nat.ofDigits 10 (digits.map fun d => d.toNat - '0'.toNat).reverse

/-- What a piece of text stands for. -/
inductive Spells : String → Lexeme → Prop
  /-- A number that is too large counts as the largest one. -/
  | number {text : String} {n : UInt32} (hne : text ≠ "") (hdigits : ∀ c ∈ text.toList, c.isDigit)
      (hn : n.toNat = min (decimalValue text.toList) 4294967295) : Spells text (.number n)
  | date {text : String} (hne : text ≠ "") (hletters : ∀ c ∈ text.toList, isDateLetter c) :
      Spells text (.date text)
  | mark {c : Char} (hc : isMarkChar c) : Spells (String.singleton c) (.mark c)
  | sign : Spells "N" .sign
  | plain {c : Char} (hc : isPlainChar c) : Spells (String.singleton c) (.plain c)

theorem Spells.ne_empty {text : String} {x : Lexeme} (h : Spells text x) : text ≠ "" := by
  cases h with
  | number hne | date hne => exact hne
  | mark | plain => exact fun h => by simpa using congrArg String.toList h
  | sign => decide

theorem decimalValue_eq_ofDigitChars (digits : List Char) :
    decimalValue digits = Nat.ofDigitChars 10 digits 0 := by
  induction digits with
  | nil => rfl
  | cons d digits ih =>
    rw [decimalValue] at ih
    rw [decimalValue, List.map_cons, Nat.ofDigits_reverse_cons, ih, List.length_map,
      Nat.ofDigitChars_cons, Nat.mul_zero, Nat.zero_add,
      @Nat.ofDigitChars_eq_ofDigitChars_zero digits (d.toNat - '0'.toNat), Nat.add_comm]

theorem toNat_ofNatClamp (n : Nat) : (UInt32.ofNatClamp n).toNat = min n 4294967295 := by
  unfold UInt32.ofNatClamp
  split
  · next h =>
    have hle : n ≤ 4294967295 := Nat.le_of_lt_succ h
    rw [Nat.min_eq_left hle]
    rfl
  · next h =>
    have hle : 4294967295 ≤ n := by
      have hsize : UInt32.size = 4294967296 := rfl
      omega
    rw [Nat.min_eq_right hle]
    rfl

theorem isGenuine_iff_spells {t : Token} : t.IsGenuine ↔ Spells t.text t.lexeme := by
  obtain ⟨lexeme, text, offset⟩ := t
  dsimp only [IsGenuine]
  constructor
  · intro h
    cases lexeme with
    | number n =>
      obtain ⟨hne, hdigits, rfl⟩ := h
      refine .number hne hdigits ?_
      rw [toNat_ofNatClamp, decimalValue_eq_ofDigitChars]
    | date run =>
      obtain ⟨rfl, hne, hletters⟩ := h
      exact .date hne hletters
    | mark c =>
      obtain ⟨rfl, hc⟩ := h
      exact .mark hc
    | sign =>
      obtain rfl : text = "N" := h
      exact .sign
    | plain c =>
      obtain ⟨rfl, hc⟩ := h
      exact .plain hc
  · intro h
    cases h with
    | number hne hdigits hn =>
      refine ⟨hne, hdigits, UInt32.toNat_inj.1 ?_⟩
      rw [hn, toNat_ofNatClamp, decimalValue_eq_ofDigitChars]
    | date hne hletters => exact ⟨rfl, hne, hletters⟩
    | mark hc => exact ⟨rfl, hc⟩
    | sign => rfl
    | plain hc => exact ⟨rfl, hc⟩

/-! ## Places -/

/-- The offsets count the bytes of the texts in front, from a given start. -/
def PlacedFrom (start : Nat) (ts : List Token) : Prop :=
  ∀ before t after, ts = before ++ t :: after → t.offset = start + (join before).utf8ByteSize

theorem placedFrom_nil (start : Nat) : PlacedFrom start [] := by
  intro before t after h
  exact absurd h.symm (List.append_ne_nil_of_right_ne_nil _ (List.cons_ne_nil t after))

theorem placedFrom_cons {start : Nat} {t : Token} {ts : List Token} :
    PlacedFrom start (t :: ts) ↔
      t.offset = start ∧ PlacedFrom (start + t.text.utf8ByteSize) ts := by
  constructor
  · intro h
    refine ⟨h [] t ts rfl, fun before u after hts => ?_⟩
    have hu := h (t :: before) u after (by rw [hts, List.cons_append])
    rw [join, String.utf8ByteSize_append] at hu
    omega
  · rintro ⟨ht, hts⟩ before u after h
    cases before with
    | nil =>
      obtain ⟨rfl, -⟩ := List.cons.inj h
      exact ht
    | cons v before =>
      obtain ⟨rfl, hrest⟩ := List.cons.inj h
      have hu := hts before u after hrest
      rw [join, String.utf8ByteSize_append]
      omega

theorem toList_join (ts : List Token) :
    (join ts).toList = (ts.map fun t => t.text.toList).flatten := by
  induction ts with
  | nil => rfl
  | cons t ts ih => rw [join, String.toList_append, ih, List.map_cons, List.flatten_cons]

theorem join_append (ts us : List Token) : join (ts ++ us) = join ts ++ join us := by
  induction ts with
  | nil => exact String.empty_append.symm
  | cons t ts ih => rw [List.cons_append, join, ih, join, String.append_assoc]

/-! ## Segmentations -/

/-- The tokens are a segmentation of a text. -/
structure Segments (s : String) (ts : List Token) : Prop where
  nonempty : ∀ t ∈ ts, t.text ≠ ""
  joins : join ts = s
  placed : PlacedFrom 0 ts
  spelled : ∀ t ∈ ts, Spells t.text t.lexeme
  apart : ts.IsChain Apart

theorem placedFrom_locate {rs : List (List Char)} (h : ∀ r ∈ rs, r ≠ []) (start : Nat) :
    PlacedFrom start (locate start rs) := by
  induction rs generalizing start with
  | nil => exact placedFrom_nil start
  | cons r rs ih =>
    cases r with
    | nil => exact absurd rfl (h [] List.mem_cons_self)
    | cons c cs =>
      rw [locate_cons]
      exact placedFrom_cons.2 ⟨rfl, ih (fun r hr => h r (List.mem_cons_of_mem _ hr)) _⟩

theorem segments_scan (s : String) : Segments s (scan s) := by
  have hscanned := isScanned_scan s
  have hspelled : ∀ t ∈ scan s, Spells t.text t.lexeme := fun t ht =>
    isGenuine_iff_spells.1 (hscanned.genuine t ht)
  refine ⟨fun t ht => (hspelled t ht).ne_empty, ?_, ?_, hspelled, hscanned.apart⟩
  · rw [← String.toList_inj, toList_join, scan, flatten_map_text_locate, runs,
      List.flatten_splitBy]
  · exact placedFrom_locate (areRuns_runs s.toList).nonempty 0

/-! ## Uniqueness -/

theorem exists_eq_ofList_cons {text : String} (h : text ≠ "") :
    ∃ c cs, text = String.ofList (c :: cs) := by
  cases hcs : text.toList with
  | nil => exact absurd (String.toList_eq_nil_iff.1 hcs) h
  | cons c cs => exact ⟨c, cs, by rw [← hcs, String.ofList_toList]⟩

/-- A genuine token is the token of its own text, which sticks together. -/
theorem IsGenuine.exists_eq_ofRun {t : Token} (h : t.IsGenuine) :
    ∃ c cs, t = ofRun t.offset c cs ∧ (c :: cs).IsChain fun c d => sticks c d := by
  obtain ⟨lexeme, text, offset⟩ := t
  dsimp only [IsGenuine] at h
  cases lexeme with
  | number n =>
    obtain ⟨hne, hdigits, rfl⟩ := h
    obtain ⟨c, cs, rfl⟩ := exists_eq_ofList_cons hne
    rw [String.toList_ofList] at hdigits ⊢
    refine ⟨c, cs, ?_, isChain_of_all (fun _ hc => sticks_iff_of_isDigit hc) hdigits⟩
    rw [ofRun, lexemeOf, if_pos (hdigits c List.mem_cons_self)]
  | date run =>
    obtain ⟨rfl, hne, hletters⟩ := h
    obtain ⟨c, cs, rfl⟩ := exists_eq_ofList_cons hne
    rw [String.toList_ofList] at hletters
    refine ⟨c, cs, ?_, isChain_of_all (fun _ hc => sticks_iff_of_isDateLetter hc) hletters⟩
    have hc := hletters c List.mem_cons_self
    simp [ofRun, lexemeOf, hc, not_isDigit_of_isDateLetter hc]
  | mark c =>
    obtain ⟨rfl, hc⟩ := h
    have hloner := isLoner_of_isMarkChar hc
    simp only [isLoner, Bool.and_eq_true, Bool.not_eq_true'] at hloner
    refine ⟨c, [], ?_, List.isChain_singleton c⟩
    simp [ofRun, lexemeOf, hloner, hc]
  | sign =>
    obtain rfl : text = "N" := h
    exact ⟨'N', [], rfl, List.isChain_singleton 'N'⟩
  | plain c =>
    obtain ⟨rfl, hc⟩ := h
    obtain ⟨hdigit, hdate, hmark, hsign⟩ := isPlainChar_iff.1 hc
    refine ⟨c, [], ?_, List.isChain_singleton c⟩
    simp [ofRun, lexemeOf, hdigit, hdate, hmark, hsign]

theorem sticks_eq_false_of_apart {offset offset' : Nat} {c d : Char} {cs ds : List Char}
    (h : (c :: cs).IsChain fun c d => sticks c d)
    (hapart : (ofRun offset c cs).Apart (ofRun offset' d ds)) :
    sticks ((c :: cs).getLast (List.cons_ne_nil c cs)) d = false := by
  have hlast := List.getLast_mem (List.cons_ne_nil c cs)
  rw [Bool.eq_false_iff]
  intro hsticks
  by_cases hdigit : c.isDigit
  · have hall := all_of_isChain (fun _ hc => sticks_iff_of_isDigit hc) hdigit h
    rw [sticks_iff_of_isDigit (hall _ hlast)] at hsticks
    obtain ⟨m, hm⟩ : ∃ m, (ofRun offset c cs).lexeme = .number m :=
      lexeme_ofRun_eq_number_iff.2 hdigit
    obtain ⟨n, hn⟩ : ∃ n, (ofRun offset' d ds).lexeme = .number n :=
      lexeme_ofRun_eq_number_iff.2 hsticks
    exact hapart.1 m n hm hn
  · by_cases hdate : isDateLetter c
    · have hall := all_of_isChain (fun _ hc => sticks_iff_of_isDateLetter hc) hdate h
      rw [sticks_iff_of_isDateLetter (hall _ hlast)] at hsticks
      obtain ⟨r, hr⟩ : ∃ r, (ofRun offset c cs).lexeme = .date r :=
        lexeme_ofRun_eq_date_iff.2 hdate
      obtain ⟨s, hs⟩ : ∃ s, (ofRun offset' d ds).lexeme = .date s :=
        lexeme_ofRun_eq_date_iff.2 hsticks
      exact hapart.2 r s hr hs
    · have hloner : isLoner c := by simp [isLoner, hdigit, hdate]
      obtain rfl := eq_nil_of_isLoner hloner h
      rw [List.getLast_singleton, sticks_eq_false_of_isLoner hloner] at hsticks
      cases hsticks

theorem areRuns_map_text {ts : List Token} (h : IsScanned ts) :
    AreRuns (ts.map fun t => t.text.toList) := by
  have hrun : ∀ t ∈ ts, ∃ offset c cs, t = ofRun offset c cs ∧ t.text.toList = c :: cs ∧
      (c :: cs).IsChain fun c d => sticks c d := by
    intro t ht
    obtain ⟨c, cs, hc, hchain⟩ := (h.genuine t ht).exists_eq_ofRun
    refine ⟨t.offset, c, cs, hc, ?_, hchain⟩
    rw [hc, ofRun, String.toList_ofList]
  refine ⟨?_, ?_, ?_⟩
  · intro r hr
    obtain ⟨t, ht, rfl⟩ := List.mem_map.1 hr
    obtain ⟨_, c, cs, -, htext, -⟩ := hrun t ht
    rw [htext]
    exact List.cons_ne_nil c cs
  · intro r hr
    obtain ⟨t, ht, rfl⟩ := List.mem_map.1 hr
    obtain ⟨_, c, cs, -, htext, hchain⟩ := hrun t ht
    rwa [htext]
  · rw [List.isChain_map, List.isChain_iff_getElem]
    intro i hi
    obtain ⟨o, c, cs, ht, htext, hchain⟩ := hrun ts[i] (List.getElem_mem _)
    obtain ⟨o', d, ds, hu, hutext, -⟩ := hrun ts[i + 1] (List.getElem_mem _)
    have hapart := List.isChain_iff_getElem.1 h.apart i hi
    rw [ht, hu] at hapart
    simp only [htext, hutext, List.head_cons]
    exact ⟨List.cons_ne_nil c cs, List.cons_ne_nil d ds, sticks_eq_false_of_apart hchain hapart⟩

theorem locate_map_text {ts : List Token} (h : ∀ t ∈ ts, t.IsGenuine) {start : Nat}
    (hplaced : PlacedFrom start ts) : locate start (ts.map fun t => t.text.toList) = ts := by
  induction ts generalizing start with
  | nil => rfl
  | cons t ts ih =>
    obtain ⟨rfl, hrest⟩ := placedFrom_cons.1 hplaced
    obtain ⟨c, cs, ht, -⟩ := (h t List.mem_cons_self).exists_eq_ofRun
    have htext : t.text = String.ofList (c :: cs) := by rw [ht, ofRun]
    rw [htext] at hrest
    rw [List.map_cons, htext, String.toList_ofList, locate_cons, ← ht,
      ih (fun u hu => h u (List.mem_cons_of_mem t hu)) hrest]

theorem Segments.isScanned {s : String} {ts : List Token} (h : Segments s ts) : IsScanned ts :=
  ⟨fun t ht => isGenuine_iff_spells.2 (h.spelled t ht), h.apart⟩

theorem Segments.scan_eq {s : String} {ts : List Token} (h : Segments s ts) : scan s = ts := by
  have hruns := areRuns_map_text h.isScanned
  have hnil : [] ∉ ts.map fun t => t.text.toList := fun hmem => hruns.nonempty [] hmem rfl
  have hsplit : runs s.toList = ts.map fun t => t.text.toList := by
    rw [← h.joins, toList_join, runs]
    exact List.splitBy_flatten hnil hruns.sticking hruns.ends
  rw [scan, hsplit, locate_map_text h.isScanned.genuine h.placed]

/-- The tokens of a text are its only segmentation. -/
theorem eq_scan_iff_segments (s : String) (ts : List Token) : ts = scan s ↔ Segments s ts := by
  constructor
  · rintro rfl
    exact segments_scan s
  · intro h
    exact h.scan_eq.symm

end Token

end FieldLayout
