import FieldLayout.Proofs.Layout.Grammar
import FieldLayout.Proofs.Token.Segmentation

/-!
# The places that faults name

A fault of the parser names a token by its offset, or the end of a token. The tokens of a text know
their places, so the offset is a place of the text, and what stands there is what the fault is
about: a text that names no character set, a bracket that is not closed, and so on.

The offset of a closing bracket that nothing has opened tells more. All that stands in front of it
is a layout text by itself.

## Main definitions

* `Fault.offset?`: the place that a fault names.
* `Fault.AtFront`, `Fault.Located`: the tokens that a fault is about.
* `Fault.PointsInto`: the characters around the place that a fault names.

## Main statements

* `Node.located_of_readList_eq_error`: every fault of the parser is about some of the tokens.
* `Layout.pointsInto_of_parse_eq_error`: every fault of a text names the place of what it is about.
-/

namespace FieldLayout

/-- The place in the layout text that a fault names. -/
def Fault.offset? : Fault → Option Nat
  | unknownCharset _ offset | missingCharset offset | missingLength offset
  | unclosedGroup _ offset | strayCloser _ offset => some offset
  | nestedCapture _ offset => offset
  | severalCaptures _ | invalidPattern _ _ => none

/-! ## Tokens -/

/-- The token is the last one of a length, unless a repeat count is only begun. -/
def Token.EndsLength (t : Token) : Prop := (∃ n, t.lexeme = .number n) ∨ t.lexeme = .mark '!'

/-- The fault is about the first tokens. -/
inductive Fault.AtFront : List Token → Fault → Prop
  | unknownCharset {last t : Token} {after : List Token} (hlast : last.EndsLength)
      (ht : t.text ∉ Charset.names) :
      AtFront (last :: t :: after) (.unknownCharset t.text t.offset)
  | missingCharset {last : Token} (hlast : last.EndsLength) :
      AtFront [last] (.missingCharset last.stop)
  | missingLength {head t : Token} {after : List Token} {n : UInt32}
      (hhead : head.lexeme = .number n) (ht : t.lexeme = .mark '*')
      (hafter : ∀ u ∈ after.head?, ∀ m, u.lexeme ≠ .number m) :
      AtFront (head :: t :: after) (.missingLength t.offset)
  | unclosedGroup {t : Token} {after : List Token} {b : Bracket}
      (ht : t.lexeme = .mark b.opening) :
      AtFront (t :: after) (.unclosedGroup b.closing t.offset)
  | nestedCapture {t : Token} {after : List Token} {b : Bracket}
      (ht : t.lexeme = .mark b.opening) (hb : b.captures) :
      AtFront (t :: after) (.nestedCapture b.opening (some t.offset))

/-- The fault is about some of the tokens. -/
def Fault.Located (ts : List Token) (e : Fault) : Prop :=
  ∃ before rest, ts = before ++ rest ∧ e.AtFront rest

namespace Fault

variable {ts : List Token} {e : Fault}

theorem AtFront.located (h : e.AtFront ts) : e.Located ts := ⟨[], ts, rfl, h⟩

theorem Located.append_left (h : e.Located ts) (front : List Token) : e.Located (front ++ ts) := by
  obtain ⟨before, rest, rfl, h⟩ := h
  exact ⟨front ++ before, rest, (List.append_assoc front before rest).symm, h⟩

theorem Located.offset?_isSome (h : e.Located ts) : e.offset?.isSome := by
  obtain ⟨before, rest, -, h⟩ := h
  cases h <;> rfl

end Fault

/-! ## The parser -/

variable {head t : Token} {n : UInt32} {ts rest : List Token} {e : Fault}

theorem Charset.atFront_of_read_eq_error {last : Token} (hlast : last.EndsLength)
    (h : Charset.read last.stop ts = .error e) : e.AtFront (last :: ts) := by
  cases ts with
  | nil =>
    cases h
    exact .missingCharset hlast
  | cons t rest =>
    rw [Charset.read] at h
    split at h
    · cases h
    · next hnone =>
      cases h
      refine .unknownCharset hlast fun hmem => ?_
      obtain ⟨s, hs⟩ := Charset.mem_names_iff.1 hmem
      rw [Charset.ofText?_eq_some_iff.2 hs] at hnone
      cases hnone

theorem Extent.atFront_of_read_eq_error (hn : head.lexeme = .number n)
    (h : Extent.read head n ts = .error e) : e.AtFront (head :: ts) := by
  cases ts with
  | nil => cases h
  | cons t rest =>
    unfold Extent.read at h
    dsimp only at h
    split at h
    · cases h
    · split at h
      · next htimes =>
        rw [Token.isMark_iff] at htimes
        cases rest with
        | nil =>
          cases h
          exact .missingLength hn htimes nofun
        | cons u rest =>
          dsimp only at h
          split at h
          · cases h
          · next hu =>
            cases h
            refine .missingLength hn htimes ?_
            rintro _ ⟨⟩ m hm
            exact hu m hm
      · cases h

theorem Field.located_of_read_eq_error (hn : head.lexeme = .number n)
    (h : Field.read head n ts = .error e) : e.Located (head :: ts) := by
  rw [Field.read] at h
  split at h
  · next hextent =>
    cases h
    exact (Extent.atFront_of_read_eq_error hn hextent).located
  · next x mid hextent =>
    split at h
    · next hcharset =>
      cases h
      -- The set is looked for behind the last token of the length.
      obtain ⟨rfl, -, rfl⟩ | ⟨fix, rfl, hfix, rfl⟩ | ⟨times, bound, m, rfl, -, hm, rfl⟩ :=
        Extent.read_eq_ok hextent
      · exact (Charset.atFront_of_read_eq_error (.inl ⟨n, hn⟩) hcharset).located
      · have hfront := Charset.atFront_of_read_eq_error (.inr hfix) hcharset
        exact hfront.located.append_left [head]
      · have hfront := Charset.atFront_of_read_eq_error (.inl ⟨m, hm⟩) hcharset
        exact hfront.located.append_left [head, times]
    · cases h

namespace Node

theorem located_of_readPlain_eq_error (h : readPlain t rest = .error e) :
    e.Located (t :: rest) := by
  unfold readPlain at h
  split at h
  · next n hn =>
    split at h
    · next hfield =>
      cases h
      exact Field.located_of_read_eq_error hn hfield
    · cases h
  all_goals cases h

theorem exists_eq_append_of_readPlain {node : Node} {inner : List Token} (hc : ¬ t.closes?.isSome)
    (ho : t.opens? = none) (h : readPlain t rest = .ok (node, inner)) :
    ∃ used, t :: rest = used ++ inner := by
  obtain ⟨-, used, hused, -⟩ := derives_of_readPlain hc ho h (List.nil_append inner).symm .nil
  exact ⟨used, hused⟩

/-- Every fault of the parser is about some of the tokens. -/
theorem located_of_readList_eq_error {inCapture : Bool} (h : readList inCapture ts = .error e) :
    e.Located ts := by
  fun_induction readList inCapture ts with
  | case1 | case2 | case7 | case11 => cases h
  -- Faults of a bracket: it may not be opened here, or it is not closed.
  | case3 inCapture t rest hc b ho hnested =>
    cases h
    rw [Bool.and_eq_true] at hnested
    exact (Fault.AtFront.nestedCapture (Token.opens?_eq_some_iff.1 ho) hnested.2).located
  | case5 inCapture t rest hc b ho hflat children hi hcontent ih =>
    cases h
    exact (Fault.AtFront.unclosedGroup (Token.opens?_eq_some_iff.1 ho)).located
  | case8 inCapture t rest hc b ho hflat children u inner hi hcontent hu ih =>
    cases h
    exact (Fault.AtFront.unclosedGroup (Token.opens?_eq_some_iff.1 ho)).located
  -- Faults of the content and of the parts behind.
  | case4 inCapture t rest hc b ho hflat e' hcontent ih =>
    cases h
    exact (ih hcontent).append_left [t]
  | case6 inCapture t rest hc b ho hflat children u inner hi hcontent hu e' hothers ihc ih =>
    cases h
    obtain ⟨⟨front, hfront, -⟩, -⟩ := Reads.sound ((reads_iff_of_eq_ok hcontent).2 rfl)
    have hlocated := (ih hothers).append_left (t :: front ++ [u])
    rw [hfront]
    simpa using hlocated
  | case9 inCapture t rest hc ho e' hplain =>
    cases h
    exact located_of_readPlain_eq_error hplain
  | case10 inCapture t rest hc ho node inner hplain e' hothers ih =>
    cases h
    obtain ⟨used, hused⟩ := exists_eq_append_of_readPlain hc ho hplain
    rw [hused]
    exact (ih hothers).append_left used

end Node

namespace Layout

/-- A fault of a list of tokens is about some of them, or it is a closing bracket behind tokens that
describe a layout by themselves. -/
theorem located_of_ofTokens_eq_error (h : ofTokens ts = .error e) : e.Located ts ∨
    ∃ front ns left b, ∃ t : Token, ts = front ++ t :: left ∧ Node.Derives front ns ∧
      t.lexeme = .mark (Bracket.closing b) ∧ e = .strayCloser b.closing t.offset := by
  rw [ofTokens] at h
  split at h
  · next hlist =>
    cases h
    exact .inl (Node.located_of_readList_eq_error hlist)
  · cases h
  · next ns t left hl hlist =>
    cases h
    obtain ⟨⟨front, hfront, hd⟩, -⟩ := Node.Reads.sound ((Node.reads_iff_of_eq_ok hlist).2 rfl)
    have hclose := (Option.some_get (hl.2 t rfl)).symm
    exact .inr ⟨front, ns, left, _, t, hfront, hd, Token.closes?_eq_some_iff.1 hclose, rfl⟩

theorem offset?_of_ofTokens_eq_error (h : ofTokens ts = .error e) : e.offset?.isSome := by
  rcases located_of_ofTokens_eq_error h with h | ⟨_, _, _, _, _, -, -, -, rfl⟩
  · exact h.offset?_isSome
  · rfl

end Layout

/-! ## Texts -/

/-- A text in two parts, the second of which starts at an offset. -/
structure SplitsAt (s : String) (offset : Nat) (before after : String) : Prop where
  joins : before ++ after = s
  size : before.utf8ByteSize = offset

/-- The last character of the text is one that may end the length of a field. -/
def EndsInLength (s : String) : Prop := ∃ c ∈ s.toList.getLast?, c.isDigit ∨ c = '!'

/-- What stands around the place that a fault names is what the fault is about. -/
def Fault.PointsInto (s : String) : Fault → Prop
  | unknownCharset found offset =>
    ∃ before after, SplitsAt s offset before (found ++ after) ∧ found ≠ "" ∧
      found ∉ Charset.names ∧ EndsInLength before
  | missingCharset offset => offset = s.utf8ByteSize ∧ EndsInLength s
  | missingLength offset =>
    ∃ before after, SplitsAt s offset before ("*" ++ after) ∧
      (∃ c ∈ before.toList.getLast?, c.isDigit) ∧ ∀ c ∈ after.toList.head?, ¬ c.isDigit
  | unclosedGroup expected offset =>
    ∃ b : Bracket, expected = b.closing ∧
      ∃ before after, SplitsAt s offset before (String.singleton b.opening ++ after)
  | strayCloser found offset =>
    (∃ b : Bracket, found = b.closing) ∧
      ∃ before after, SplitsAt s offset before (String.singleton found ++ after) ∧
        ∃ l, Layout.parse before = .ok l
  | nestedCapture opener place =>
    (opener = '(' ∨ opener = '<') ∧ ∃ offset, place = some offset ∧
      ∃ before after, SplitsAt s offset before (String.singleton opener ++ after)
  | severalCaptures _ | invalidPattern _ _ => False

theorem SplitsAt.isValid {s before after : String} {offset : Nat}
    (h : SplitsAt s offset before after) : String.Pos.Raw.IsValid s ⟨offset⟩ := by
  obtain ⟨rfl, rfl⟩ := h
  exact String.Pos.Raw.isValid_iff_exists_append.2 ⟨before, after, rfl, rfl⟩

theorem splitsAt_end (s : String) : SplitsAt s s.utf8ByteSize s "" :=
  ⟨String.append_empty, rfl⟩

/-- A fault that points into a text names a place of the text. -/
theorem Fault.PointsInto.exists_isValid {s : String} (h : e.PointsInto s) :
    ∃ offset, e.offset? = some offset ∧ String.Pos.Raw.IsValid s ⟨offset⟩ := by
  cases e with
  | unknownCharset found offset =>
    obtain ⟨before, after, hsplit, -⟩ := h
    exact ⟨offset, rfl, hsplit.isValid⟩
  | missingCharset offset =>
    obtain ⟨rfl, -⟩ := h
    exact ⟨_, rfl, (splitsAt_end s).isValid⟩
  | missingLength offset =>
    obtain ⟨before, after, hsplit, -⟩ := h
    exact ⟨offset, rfl, hsplit.isValid⟩
  | unclosedGroup expected offset =>
    obtain ⟨b, -, before, after, hsplit⟩ := h
    exact ⟨offset, rfl, hsplit.isValid⟩
  | strayCloser found offset =>
    obtain ⟨-, before, after, hsplit, -⟩ := h
    exact ⟨offset, rfl, hsplit.isValid⟩
  | nestedCapture opener place =>
    obtain ⟨-, offset, rfl, before, after, hsplit⟩ := h
    exact ⟨offset, rfl, hsplit.isValid⟩
  | severalCaptures | invalidPattern => cases h

/-! ### The characters of tokens -/

namespace Token

theorem IsGenuine.text_of_mark {c : Char} (h : t.IsGenuine) (ht : t.lexeme = .mark c) :
    t.text = String.singleton c := by
  rw [IsGenuine, ht] at h
  exact h.1

/-- The character of a mark stands in no other token. -/
theorem IsGenuine.mem_text_iff (h : t.IsGenuine) {c : Char} (hc : isMarkChar c) :
    c ∈ t.text.toList ↔ t.lexeme = .mark c := by
  have hloner := isLoner_of_isMarkChar hc
  simp only [isLoner, Bool.and_eq_true, Bool.not_eq_true'] at hloner
  constructor
  · intro hmem
    rw [IsGenuine] at h
    split at h
    · have hdigit := h.2.1 c hmem
      simp [hloner.1] at hdigit
    · have hdate := h.2.2 c (h.1 ▸ hmem)
      simp [hloner.2] at hdate
    · next d hd =>
      rw [h.1, String.toList_singleton, List.mem_singleton] at hmem
      rw [hd, hmem]
    · rw [h] at hmem
      obtain rfl := List.mem_singleton.1 hmem
      cases hc
    · next d hd =>
      rw [h.1, String.toList_singleton, List.mem_singleton] at hmem
      obtain rfl := hmem
      simp [(isPlainChar_iff.1 h.2).2.2.1] at hc
  · intro hmark
    rw [h.text_of_mark hmark, String.toList_singleton]
    exact List.mem_singleton_self c

theorem IsGenuine.text_ne_empty (h : t.IsGenuine) : t.text ≠ "" :=
  (isGenuine_iff_spells.1 h).ne_empty

theorem IsGenuine.exists_getLast?_isDigit (h : t.IsGenuine) (ht : t.lexeme = .number n) :
    ∃ c ∈ t.text.toList.getLast?, c.isDigit := by
  rw [IsGenuine, ht] at h
  obtain ⟨hne, hdigits, -⟩ := h
  have hne' : t.text.toList ≠ [] := mt String.toList_eq_nil_iff.1 hne
  exact ⟨_, List.getLast?_eq_some_getLast hne', hdigits _ (List.getLast_mem hne')⟩

theorem IsGenuine.endsInLength (h : t.IsGenuine) (ht : t.EndsLength) : EndsInLength t.text := by
  obtain ⟨n, hn⟩ | hfix := ht
  · obtain ⟨c, hc, hdigit⟩ := h.exists_getLast?_isDigit hn
    exact ⟨c, hc, .inl hdigit⟩
  · refine ⟨'!', ?_, .inr rfl⟩
    rw [h.text_of_mark hfix]
    rfl

/-- A token that starts with a digit is a number. -/
theorem IsGenuine.not_isDigit_of_head? (h : t.IsGenuine) (ht : ∀ m, t.lexeme ≠ .number m) :
    ∀ c ∈ t.text.toList.head?, ¬ c.isDigit := by
  obtain ⟨c, cs, hrun, -⟩ := h.exists_eq_ofRun
  intro d hd hdigit
  rw [hrun, ofRun, String.toList_ofList] at hd
  cases hd
  obtain ⟨m, hm⟩ := lexeme_ofRun_eq_number_iff.2 hdigit
  exact ht m ((congrArg Token.lexeme hrun).trans hm)

theorem getLast?_join_append {last : Token} (hne : last.text ≠ "") (before : List Token) :
    (join (before ++ [last])).toList.getLast? = last.text.toList.getLast? := by
  have hne' : last.text.toList ≠ [] := mt String.toList_eq_nil_iff.1 hne
  rw [join_append, String.toList_append, List.getLast?_append, join, join, String.append_empty,
    List.getLast?_eq_some_getLast hne', Option.some_or]

namespace Segments

variable {s : String} {before after : List Token}

theorem splitsAt (h : Segments s (before ++ t :: after)) :
    SplitsAt s t.offset (join before) (t.text ++ join after) := by
  refine ⟨?_, ?_⟩
  · rw [← h.joins, join_append, join]
  · rw [h.placed before t after rfl, Nat.zero_add]

theorem splitsAt_mark {c : Char} (h : Segments s (before ++ t :: after))
    (ht : t.lexeme = .mark c) :
    SplitsAt s t.offset (join before) (String.singleton c ++ join after) := by
  have hgenuine := h.isScanned.genuine t (List.mem_append_right before List.mem_cons_self)
  rw [← hgenuine.text_of_mark ht]
  exact h.splitsAt

/-- The tokens in front are a segmentation of their own text. -/
theorem of_append {us : List Token} (h : Segments s (before ++ us)) :
    Segments (join before) before where
  nonempty t ht := h.nonempty t (List.mem_append_left us ht)
  joins := rfl
  placed := by
    rintro front t rest rfl
    exact h.placed front t (rest ++ us) (by simp)
  spelled t ht := h.spelled t (List.mem_append_left us ht)
  apart := (List.isChain_append.1 h.apart).1

end Segments

end Token

/-! ### The places of faults -/

theorem Fault.Located.pointsInto {s : String} (hs : Token.Segments s ts) (h : e.Located ts) :
    e.PointsInto s := by
  obtain ⟨before, rest, rfl, hfront⟩ := h
  have hgenuine := hs.isScanned.genuine
  cases hfront with
  | @unknownCharset last t after hlast ht =>
    have hsplit : Token.Segments s ((before ++ [last]) ++ t :: after) := by simpa using hs
    have hl := hgenuine last (by simp)
    refine ⟨_, _, hsplit.splitsAt, (hgenuine t (by simp)).text_ne_empty, ht, ?_⟩
    rw [EndsInLength, Token.getLast?_join_append hl.text_ne_empty]
    exact hl.endsInLength hlast
  | @missingCharset last hlast =>
    have hl := hgenuine last (by simp)
    refine ⟨?_, ?_⟩
    · rw [Token.stop, hs.placed before last [] rfl, ← hs.joins, Token.join_append,
        String.utf8ByteSize_append]
      simp [Token.join]
    · rw [EndsInLength, ← hs.joins, Token.getLast?_join_append hl.text_ne_empty]
      exact hl.endsInLength hlast
  | @missingLength head t after n hhead ht hafter =>
    have hsplit : Token.Segments s ((before ++ [head]) ++ t :: after) := by simpa using hs
    have hnumber := hgenuine head (by simp)
    refine ⟨_, _, hsplit.splitsAt_mark ht, ?_, ?_⟩
    · rw [Token.getLast?_join_append hnumber.text_ne_empty]
      exact hnumber.exists_getLast?_isDigit hhead
    · cases after with
      | nil =>
        intro c hc
        cases hc
      | cons u after =>
        have hu := hgenuine u (by simp)
        have hne : u.text.toList ≠ [] := mt String.toList_eq_nil_iff.1 hu.text_ne_empty
        rw [Token.join, String.toList_append, List.head?_append_of_ne_nil _ hne]
        exact hu.not_isDigit_of_head? (hafter u rfl)
  | @unclosedGroup t after b ht => exact ⟨b, rfl, _, _, hs.splitsAt_mark ht⟩
  | @nestedCapture t after b ht hb =>
    refine ⟨?_, _, rfl, _, _, hs.splitsAt_mark ht⟩
    cases b with
    | optional => cases hb
    | capture => exact .inl rfl
    | reformat => exact .inr rfl

namespace Layout

/-- Tokens that describe a layout describe it as a text as well. -/
theorem parse_join_of_derives {front : List Token} {ns : List Node}
    (hs : Token.Segments (Token.join front) front) (h : Node.Derives front ns) :
    parse (Token.join front) = .ok ⟨ns⟩ := by
  rw [parse_eq_ok_iff_derives, hs.scan_eq]
  exact h

/-- A fault of a text points into the text, at what the fault is about. -/
theorem pointsInto_of_parse_eq_error {s : String} (h : parse s = .error e) :
    e.PointsInto s ∧ ∃ offset, e.offset? = some offset ∧ offset ≤ s.utf8ByteSize ∧
      String.Pos.Raw.IsValid s ⟨offset⟩ := by
  have hs := Token.segments_scan s
  have hpoints : e.PointsInto s := by
    rcases located_of_ofTokens_eq_error h with h | ⟨front, ns, left, b, t, hfront, hd, ht, rfl⟩
    · exact h.pointsInto hs
    · rw [hfront] at hs
      exact ⟨⟨b, rfl⟩, _, _, hs.splitsAt_mark ht, _, parse_join_of_derives hs.of_append hd⟩
  obtain ⟨offset, hoffset, hvalid⟩ := hpoints.exists_isValid
  exact ⟨hpoints, offset, hoffset, hvalid.le_utf8ByteSize, hvalid⟩

/-- The first character of both texts takes two bytes. -/
theorem pointsInto_of_parse_eq_error_umlaut :
    (parse "ü([<N>])" = .error (.nestedCapture '<' (some 4)) ∧
      (Fault.nestedCapture '<' (some 4)).PointsInto "ü([<N>])") ∧
      parse "ü3!n]2a" = .error (.strayCloser ']' 5) ∧
      (Fault.strayCloser ']' 5).PointsInto "ü3!n]2a" := by
  have hnested : parse "ü([<N>])" = .error (.nestedCapture '<' (some 4)) := by decide +kernel
  have hstray : parse "ü3!n]2a" = .error (.strayCloser ']' 5) := by decide +kernel
  exact ⟨⟨hnested, (pointsInto_of_parse_eq_error hnested).1⟩, hstray,
    (pointsInto_of_parse_eq_error hstray).1⟩

end Layout

end FieldLayout
