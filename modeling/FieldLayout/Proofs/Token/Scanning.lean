import FieldLayout.Token.Lexer
import Mathlib.Data.List.SplitBy

/-!
# Scanned tokens

The tokens of a text agree with their lexemes, and no two neighbours could have been one token. In
front of a text, a run of digits or of date letters is a token of its own unless the text goes on
with the run, and any other character is a token by itself.

## Main definitions

* `Token.isPlainChar`: the ordinary characters.
* `Token.IsGenuine`: the text of a token agrees with its lexeme.
* `Token.IsScanned`: genuine tokens that are apart from each other.

## Main statements

* `Token.isScanned_scan`: the tokens of a text are scanned.
* `Token.runs_cons`, `Token.runs_digits_append`, `Token.runs_date_append`: the first run of a text.
-/

namespace FieldLayout

namespace Token

/-! ## Characters -/

/-- A character that has no meaning of its own. -/
def isPlainChar (c : Char) : Bool := !c.isDigit && !isDateLetter c && !isMarkChar c && c != 'N'

/-- A character that sticks to no other one. -/
def isLoner (c : Char) : Bool := !c.isDigit && !isDateLetter c

theorem isDateLetter_iff {c : Char} :
    isDateLetter c ↔ c = 'Y' ∨ c = 'M' ∨ c = 'D' ∨ c = 'H' ∨ c = 'S' := by
  simp [isDateLetter, or_assoc]

theorem isMarkChar_iff {c : Char} : isMarkChar c ↔
    c = '!' ∨ c = '*' ∨ c = '[' ∨ c = ']' ∨ c = '(' ∨ c = ')' ∨ c = '<' ∨ c = '>' := by
  simp [isMarkChar, or_assoc]

theorem not_isDigit_of_isDateLetter {c : Char} (h : isDateLetter c) : c.isDigit = false := by
  rcases isDateLetter_iff.1 h with rfl | rfl | rfl | rfl | rfl
  all_goals decide

theorem isLoner_of_isMarkChar {c : Char} (h : isMarkChar c) : isLoner c := by
  rcases isMarkChar_iff.1 h with rfl | rfl | rfl | rfl | rfl | rfl | rfl | rfl
  all_goals decide

theorem isPlainChar_iff {c : Char} : isPlainChar c ↔
    c.isDigit = false ∧ isDateLetter c = false ∧ isMarkChar c = false ∧ c ≠ 'N' := by
  simp [isPlainChar, and_assoc]

theorem isLoner_of_isPlainChar {c : Char} (h : isPlainChar c) : isLoner c := by
  obtain ⟨hdigit, hdate, -, -⟩ := isPlainChar_iff.1 h
  simp [isLoner, hdigit, hdate]

theorem sticks_eq_false_of_isLoner {c : Char} (h : isLoner c) (d : Char) : sticks c d = false := by
  simp only [isLoner, Bool.and_eq_true, Bool.not_eq_true'] at h
  simp [sticks, h.1, h.2]

theorem sticks_iff_of_isDigit {c : Char} (h : c.isDigit) (d : Char) : sticks c d = d.isDigit := by
  have hdate : isDateLetter c = false := by
    rw [Bool.eq_false_iff]
    intro hdate
    rw [not_isDigit_of_isDateLetter hdate] at h
    exact Bool.false_ne_true h
  simp [sticks, h, hdate]

theorem sticks_iff_of_isDateLetter {c : Char} (h : isDateLetter c) (d : Char) :
    sticks c d = isDateLetter d := by
  simp [sticks, h, not_isDigit_of_isDateLetter h]

/-! ## Runs -/

theorem runs_cons {c : Char} (h : isLoner c) (cs : List Char) :
    runs (c :: cs) = [c] :: runs cs := by
  have happend : ([c] ++ cs).splitBy sticks = [c].splitBy sticks ++ cs.splitBy sticks := by
    refine List.splitBy_append ?_
    rintro _ ⟨⟩ d -
    exact sticks_eq_false_of_isLoner h d
  exact happend

theorem isChain_of_all {p : Char → Bool} (hp : ∀ c, p c → ∀ d, sticks c d = p d)
    {run : List Char} (hrun : ∀ c ∈ run, p c) : run.IsChain fun c d => sticks c d := by
  rw [List.isChain_iff_getElem]
  intro i hi
  rw [hp _ (hrun _ (List.getElem_mem _))]
  exact hrun _ (List.getElem_mem _)

/-- Characters of one kind are a run in front of another kind. -/
theorem runs_append_of_all {p : Char → Bool} (hp : ∀ c, p c → ∀ d, sticks c d = p d)
    {run : List Char} (hne : run ≠ []) (hrun : ∀ c ∈ run, p c) {cs : List Char}
    (hcs : ∀ c ∈ cs.head?, p c = false) : runs (run ++ cs) = run :: runs cs := by
  have happend : (run ++ cs).splitBy sticks = run.splitBy sticks ++ cs.splitBy sticks := by
    refine List.splitBy_append ?_
    intro c hc d hd
    rw [hp c (hrun c (List.mem_of_mem_getLast? hc)), hcs d hd]
  rw [runs, happend, List.splitBy_of_isChain hne (isChain_of_all hp hrun)]
  rfl

theorem runs_digits_append {run cs : List Char} (hne : run ≠ []) (hrun : ∀ c ∈ run, c.isDigit)
    (hcs : ∀ c ∈ cs.head?, c.isDigit = false) : runs (run ++ cs) = run :: runs cs :=
  runs_append_of_all (fun _ hc => sticks_iff_of_isDigit hc) hne hrun hcs

theorem runs_date_append {run cs : List Char} (hne : run ≠ []) (hrun : ∀ c ∈ run, isDateLetter c)
    (hcs : ∀ c ∈ cs.head?, isDateLetter c = false) : runs (run ++ cs) = run :: runs cs :=
  runs_append_of_all (fun _ hc => sticks_iff_of_isDateLetter hc) hne hrun hcs

/-- The characters of a run that sticks together are all of the kind of the first one. -/
theorem all_of_isChain {p : Char → Bool} (hp : ∀ c, p c → ∀ d, sticks c d = p d) {c : Char}
    {cs : List Char} (hc : p c) (h : (c :: cs).IsChain fun c d => sticks c d) :
    ∀ d ∈ c :: cs, p d := by
  induction cs generalizing c with
  | nil =>
    rintro d hd
    rwa [List.mem_singleton.1 hd]
  | cons b cs ih =>
    obtain ⟨hstick, hchain⟩ := List.isChain_cons_cons.1 h
    rw [hp c hc] at hstick
    intro d hd
    rcases List.mem_cons.1 hd with rfl | hd
    · exact hc
    · exact ih hstick hchain d hd

theorem eq_nil_of_isLoner {c : Char} {cs : List Char} (hc : isLoner c)
    (h : (c :: cs).IsChain fun c d => sticks c d) : cs = [] := by
  cases cs with
  | nil => rfl
  | cons d cs =>
    have hstick := (List.isChain_cons_cons.1 h).1
    rw [sticks_eq_false_of_isLoner hc] at hstick
    cases hstick

/-! ## Tokens -/

/-- The text of a token agrees with its lexeme. -/
def IsGenuine (t : Token) : Prop :=
  match t.lexeme with
  | .number n =>
    t.text ≠ "" ∧ (∀ c ∈ t.text.toList, c.isDigit) ∧
      n = UInt32.ofNatClamp (Nat.ofDigitChars 10 t.text.toList 0)
  | .date run => t.text = run ∧ run ≠ "" ∧ ∀ c ∈ run.toList, isDateLetter c
  | .mark c => t.text = String.singleton c ∧ isMarkChar c
  | .sign => t.text = "N"
  | .plain c => t.text = String.singleton c ∧ isPlainChar c

/-- Two neighbours that could not have been one token. -/
def Apart (t u : Token) : Prop :=
  (∀ m n, t.lexeme = .number m → u.lexeme ≠ .number n) ∧
    ∀ r s, t.lexeme = .date r → u.lexeme ≠ .date s

/-- Genuine tokens that are apart from each other. -/
structure IsScanned (ts : List Token) : Prop where
  genuine : ∀ t ∈ ts, t.IsGenuine
  apart : ts.IsChain Apart

/-- The token of a run. -/
def ofRun (offset : Nat) (c : Char) (cs : List Char) : Token :=
  ⟨lexemeOf c (c :: cs), String.ofList (c :: cs), offset⟩

theorem isGenuine_ofRun (offset : Nat) {c : Char} {cs : List Char}
    (h : (c :: cs).IsChain fun c d => sticks c d) : (ofRun offset c cs).IsGenuine := by
  unfold IsGenuine ofRun lexemeOf
  by_cases hdigit : c.isDigit
  · have hall := all_of_isChain (fun _ hc => sticks_iff_of_isDigit hc) hdigit h
    rw [if_pos hdigit]
    exact ⟨by simp, by simpa using hall, by simp⟩
  · rw [if_neg hdigit]
    by_cases hdate : isDateLetter c
    · have hall := all_of_isChain (fun _ hc => sticks_iff_of_isDateLetter hc) hdate h
      rw [if_pos hdate]
      exact ⟨rfl, by simp, by simpa using hall⟩
    · rw [if_neg hdate]
      have hloner : isLoner c := by simp [isLoner, hdigit, hdate]
      obtain rfl := eq_nil_of_isLoner hloner h
      by_cases hmark : isMarkChar c
      · rw [if_pos hmark]
        exact ⟨String.singleton_eq_ofList.symm, hmark⟩
      · rw [if_neg hmark]
        by_cases hsign : c = 'N'
        · rw [if_pos hsign, hsign]
        · rw [if_neg hsign]
          refine ⟨String.singleton_eq_ofList.symm, ?_⟩
          simp [isPlainChar, hdigit, hdate, hmark, hsign]

theorem lexeme_ofRun_eq_number_iff {offset : Nat} {c : Char} {cs : List Char} :
    (∃ n, (ofRun offset c cs).lexeme = .number n) ↔ c.isDigit := by
  unfold ofRun lexemeOf
  split_ifs <;> simp_all

theorem lexeme_ofRun_eq_date_iff {offset : Nat} {c : Char} {cs : List Char} :
    (∃ run, (ofRun offset c cs).lexeme = .date run) ↔ isDateLetter c := by
  have hdisjoint : isDateLetter c → c.isDigit = false := not_isDigit_of_isDateLetter
  unfold ofRun lexemeOf
  split_ifs <;> simp_all

theorem isPlain_ofRun_iff {offset : Nat} {c : Char} {cs : List Char} :
    (ofRun offset c cs).isPlain ↔ isPlainChar c := by
  unfold ofRun lexemeOf isPlain isPlainChar
  split_ifs <;> simp_all

theorem locate_cons (offset : Nat) (c : Char) (cs : List Char) (rest : List (List Char)) :
    locate offset ((c :: cs) :: rest) =
      ofRun offset c cs :: locate (offset + (String.ofList (c :: cs)).utf8ByteSize) rest :=
  rfl

/-- Runs whose ends do not stick together give tokens that are apart. -/
theorem apart_ofRun {offset offset' : Nat} {c d : Char} {cs ds : List Char}
    (h : (c :: cs).IsChain fun c d => sticks c d)
    (hends : sticks ((c :: cs).getLast (List.cons_ne_nil c cs)) d = false) :
    (ofRun offset c cs).Apart (ofRun offset' d ds) := by
  have hlast := List.getLast_mem (List.cons_ne_nil c cs)
  constructor
  · intro m n hm hn
    have hc : c.isDigit := lexeme_ofRun_eq_number_iff.1 ⟨m, hm⟩
    have hd : d.isDigit := lexeme_ofRun_eq_number_iff.1 ⟨n, hn⟩
    have hall := all_of_isChain (fun _ hc => sticks_iff_of_isDigit hc) hc h
    rw [sticks_iff_of_isDigit (hall _ hlast), hd] at hends
    cases hends
  · intro r s hr hs
    have hc : isDateLetter c := lexeme_ofRun_eq_date_iff.1 ⟨r, hr⟩
    have hd : isDateLetter d := lexeme_ofRun_eq_date_iff.1 ⟨s, hs⟩
    have hall := all_of_isChain (fun _ hc => sticks_iff_of_isDateLetter hc) hc h
    rw [sticks_iff_of_isDateLetter (hall _ hlast), hd] at hends
    cases hends

/-- Runs are as the lexer cuts them. -/
structure AreRuns (rs : List (List Char)) : Prop where
  nonempty : ∀ r ∈ rs, r ≠ []
  sticking : ∀ r ∈ rs, r.IsChain fun c d => sticks c d
  ends : rs.IsChain fun r s => ∃ hr hs, sticks (r.getLast hr) (s.head hs) = false

theorem areRuns_runs (cs : List Char) : AreRuns (runs cs) where
  nonempty _ hr := List.ne_nil_of_mem_splitBy hr
  sticking _ hr := List.isChain_of_mem_splitBy hr
  ends := List.isChain_getLast_head_splitBy sticks cs

theorem isScanned_locate {rs : List (List Char)} (h : AreRuns rs) (offset : Nat) :
    IsScanned (locate offset rs) := by
  induction rs generalizing offset with
  | nil => exact ⟨nofun, List.isChain_nil⟩
  | cons r rs ih =>
    have htail : AreRuns rs :=
      ⟨fun s hs => h.nonempty s (List.mem_cons_of_mem r hs),
        fun s hs => h.sticking s (List.mem_cons_of_mem r hs), h.ends.tail⟩
    have hr := h.nonempty r List.mem_cons_self
    have hsticking := h.sticking r List.mem_cons_self
    cases r with
    | nil => exact absurd rfl hr
    | cons c cs =>
      rw [locate_cons]
      have hrest := ih htail (offset + (String.ofList (c :: cs)).utf8ByteSize)
      refine ⟨?_, ?_⟩
      · intro t ht
        rcases List.mem_cons.1 ht with rfl | ht
        · exact isGenuine_ofRun offset hsticking
        · exact hrest.genuine t ht
      · -- The tokens of two neighbouring runs are apart since the ends of the runs do not stick.
        cases rs with
        | nil => exact List.isChain_singleton _
        | cons s rs =>
          obtain ⟨⟨_, hs, hends⟩, -⟩ := List.isChain_cons_cons.1 h.ends
          cases s with
          | nil => exact absurd rfl hs
          | cons d ds =>
            rw [locate_cons] at hrest ⊢
            exact List.isChain_cons_cons.2 ⟨apart_ofRun hsticking hends, hrest.apart⟩

/-- The tokens of a text are genuine and apart from each other. -/
theorem isScanned_scan (s : String) : IsScanned (scan s) :=
  isScanned_locate (areRuns_runs s.toList) 0

theorem IsScanned.of_append {ts us : List Token} (h : IsScanned (ts ++ us)) :
    IsScanned ts ∧ IsScanned us := by
  obtain ⟨hts, hus, -⟩ := List.isChain_append.1 h.apart
  exact ⟨⟨fun t ht => h.genuine t (List.mem_append_left us ht), hts⟩,
    ⟨fun t ht => h.genuine t (List.mem_append_right ts ht), hus⟩⟩

theorem IsScanned.tail {t : Token} {ts : List Token} (h : IsScanned (t :: ts)) : IsScanned ts :=
  (of_append (show IsScanned ([t] ++ ts) from h)).2

/-- If the first token of a text is an ordinary character, so is the first character. -/
theorem exists_head?_of_isPlain {offset : Nat} {cs : List Char} {t : Token}
    (ht : t ∈ (locate offset (runs cs)).head?) (h : t.isPlain) :
    ∃ c ∈ cs.head?, isPlainChar c := by
  have hflatten : (runs cs).flatten = cs := List.flatten_splitBy sticks cs
  have hruns := areRuns_runs cs
  cases hr : runs cs with
  | nil =>
    rw [hr] at ht
    cases ht
  | cons r rs =>
    rw [hr] at ht hflatten hruns
    cases r with
    | nil => exact absurd rfl (hruns.nonempty [] List.mem_cons_self)
    | cons c run =>
      rw [locate_cons] at ht
      cases ht
      rw [← hflatten]
      exact ⟨c, rfl, isPlain_ofRun_iff.1 h⟩

end Token

end FieldLayout
