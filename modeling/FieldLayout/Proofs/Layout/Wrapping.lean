import FieldLayout.Proofs.Layout.CaptureMarks
import FieldLayout.Proofs.Layout.RoundTrip

/-!
# Layout texts in brackets

Brackets around a layout text make one group of all its parts. This always works for an optional
group. A capturing group must not hold another one, so there it fails at the first mark that opens a
capturing group, and only if there is such a mark.

## Main definitions

* `Bracket.wrap`: a text in brackets.

## Main statements

* `Token.scan_wrap`: the tokens of the text stand between those of the brackets.
* `Layout.parse_wrap`: what is read from a layout text in brackets.
-/

namespace FieldLayout

/-- The text in brackets. -/
def Bracket.wrap (b : Bracket) (s : String) : String :=
  String.singleton b.opening ++ s ++ String.singleton b.closing

namespace Token

variable {t u : Token}

theorem scan_singleton {c : Char} (h : isMarkChar c) :
    scan (String.singleton c) = [⟨.mark c, String.singleton c, 0⟩] := by
  have hlexeme : lexemeOf c [c] = .mark c := lexeme_ofRun_of_isMarkChar h 0 []
  rw [scan, String.toList_singleton, locate_runs_cons (isLoner_of_isMarkChar h), ofRun, hlexeme,
    String.singleton_eq_ofList]
  rfl

theorem fuse?_eq_none_of_mark_left {c : Char} (h : t.lexeme = .mark c) (u : Token) :
    t.fuse? u = none :=
  fuse?_eq_none_of_ne (by simp [h]) (by simp [h]) u

theorem fuse?_eq_none_of_mark_right {c : Char} (h : u.lexeme = .mark c) (t : Token) :
    t.fuse? u = none :=
  fuse?_eq_none_iff.2 ⟨by simp [h], by simp [h]⟩

/-- The tokens of the brackets around a text. -/
def bracketed (b : Bracket) (size : Nat) (ts : List Token) : List Token :=
  ⟨.mark b.opening, String.singleton b.opening, 0⟩ :: ts.map (shift 1) ++
    [⟨.mark b.closing, String.singleton b.closing, 1 + size⟩]

/-- No token of a text goes on into a bracket. -/
theorem scan_wrap (b : Bracket) (s : String) :
    scan (b.wrap s) = bracketed b s.utf8ByteSize (scan s) := by
  have hsize : (String.singleton b.opening).utf8ByteSize = 1 := by cases b <;> rfl
  have hopening : scan (String.singleton b.opening ++ s) =
      ⟨.mark b.opening, String.singleton b.opening, 0⟩ :: (scan s).map (shift 1) := by
    rw [scan_append, scan_singleton b.isMarkChar_opening, hsize, weld_of_forall_eq_none]
    · rfl
    · rintro t ht u -
      obtain rfl := List.mem_singleton.1 ht
      exact fuse?_eq_none_of_mark_left rfl u
  rw [Bracket.wrap, scan_append, hopening, scan_singleton b.isMarkChar_closing,
    weld_of_forall_eq_none]
  · rw [String.utf8ByteSize_append, hsize]
    rfl
  · rintro t - u hu
    cases hu
    exact fuse?_eq_none_of_mark_right rfl t

end Token

namespace Layout

variable {s : String} {l : Layout} {b : Bracket}

theorem parse_wrap_eq_ok (h : parse s = .ok l) (hflat : b.captures → l.captureCount = 0) :
    parse (b.wrap s) = .ok ⟨[.group b l.nodes]⟩ := by
  rw [parse_eq_ok_iff_derives] at h ⊢
  rw [Token.scan_wrap]
  exact .group rfl (h.map_shift 1) rfl hflat .nil

/-- In a capturing group the first token that opens another one is a fault. -/
theorem parse_wrap_eq_error (h : parse s = .ok l) (hb : b.captures) {before after : List Token}
    {t : Token} {c : Bracket} (hscan : Token.scan s = before ++ t :: after)
    (hquiet : ∀ u ∈ before, u.opensCapture = false) (hc : c.captures)
    (ht : t.lexeme = .mark c.opening) :
    parse (b.wrap s) = .error (.nestedCapture c.opening (some (1 + t.offset))) := by
  have hderives := (parse_eq_ok_iff_derives.1 h).map_shift 1
  have hgenuine : ∀ u ∈ (Token.scan s).map (Token.shift 1), u.IsGenuine :=
    List.forall_mem_map.2 (Token.isScanned_scan s).genuine
  have hfirst : ((Token.scan s).map (Token.shift 1)).findSome? Token.nestedCapture? =
      some (.nestedCapture c.opening (some (1 + t.offset))) := by
    have hnone : ∀ u ∈ before.map (Token.shift 1), u.opensCapture = false :=
      List.forall_mem_map.2 hquiet
    have hsome : (t.shift 1).nestedCapture? =
        some (.nestedCapture c.opening (some (1 + t.offset))) :=
      Token.nestedCapture?_of_opening hc ht
    rw [hscan, List.map_append, List.map_cons, List.findSome?_append,
      Token.findSome?_nestedCapture?_eq_none hnone, List.findSome?_cons, hsome]
    rfl
  have hopen : Token.opens? ⟨.mark b.opening, String.singleton b.opening, 0⟩ = some b :=
    Token.opens?_eq_some_iff.2 rfl
  have hcloser : ∀ u ∈ [(⟨.mark b.closing, String.singleton b.closing, 1 + s.utf8ByteSize⟩ :
      Token)].head?, u.closes?.isSome := by
    rintro _ ⟨⟩
    rw [Token.closes?_eq_some_iff.2 rfl]
    rfl
  have hcontent := hderives.readFront_eq_error hgenuine hcloser hfirst
  rw [parse, Token.scan_wrap, Token.bracketed, List.cons_append]
  apply ofTokens_eq_error_of_readFront
  apply Node.readFront_eq_error_of_content hopen (by simp)
  rw [hb, Bool.or_true]
  exact hcontent

theorem exists_first_opensCapture (h : parse s = .ok l) (hcount : l.captureCount ≠ 0) :
    ∃ before t after, Token.scan s = before ++ t :: after ∧ t.opensCapture ∧
      ∀ u ∈ before, u.opensCapture = false := by
  have hgenuine := (Token.isScanned_scan s).genuine
  rw [captureCount, (parse_eq_ok_iff_derives.1 h).captureCountList_eq_countP hgenuine,
    ← Nat.pos_iff_ne_zero, List.countP_pos_iff, ← List.find?_isSome,
    Option.isSome_iff_exists] at hcount
  obtain ⟨t, ht⟩ := hcount
  obtain ⟨hopens, before, after, hscan, hquiet⟩ := List.find?_eq_some_iff_append.1 ht
  exact ⟨before, t, after, hscan, hopens, fun u hu => by simpa using hquiet u hu⟩

/-- Brackets around a layout text make one group of its parts. Only a capturing group around another
one fails, at the first mark of the text that opens a capturing group. -/
theorem parse_wrap (h : parse s = .ok l) :
    parse (Bracket.optional.wrap s) = .ok ⟨[.group .optional l.nodes]⟩ ∧
      ∀ b : Bracket, b.captures →
        (l.captureCount = 0 → parse (b.wrap s) = .ok ⟨[.group b l.nodes]⟩) ∧
        (l.captureCount ≠ 0 → ∃ c offset before after,
          SplitsAt s offset before (String.singleton c ++ after) ∧ Token.isCaptureMark c ∧
          (∀ d ∈ before.toList, Token.isCaptureMark d = false) ∧
          parse (b.wrap s) = .error (.nestedCapture c (some (1 + offset)))) := by
  refine ⟨parse_wrap_eq_ok h nofun, fun b hb => ⟨fun hcount => ?_, fun hcount => ?_⟩⟩
  · exact parse_wrap_eq_ok h fun _ => hcount
  · obtain ⟨before, t, after, hscan, hopens, hquiet⟩ := exists_first_opensCapture h hcount
    obtain ⟨c, hc, ht⟩ := Token.opensCapture_iff.1 hopens
    have hs := Token.segments_scan s
    rw [hscan] at hs
    have hgenuine : ∀ u ∈ before, u.IsGenuine := fun u hu =>
      hs.isScanned.genuine u (List.mem_append_left _ hu)
    refine ⟨c.opening, t.offset, _, _, hs.splitsAt_mark ht, ?_, ?_, ?_⟩
    · exact Token.isCaptureMark_iff.2 ⟨c, hc, rfl⟩
    · exact Token.not_isCaptureMark_of_mem_join hgenuine hquiet
    · exact parse_wrap_eq_error h hb hscan hquiet hc ht

/-- The first character of both texts takes two bytes. An optional group does not hide the capturing
group in the second one. -/
theorem parse_wrap_umlaut :
    (∃ l, parse "ü[2n]" = .ok l ∧ l.captureCount = 0 ∧
      parse (Bracket.capture.wrap "ü[2n]") = .ok ⟨[.group .capture l.nodes]⟩) ∧
    ∃ l, parse "ü[2n<3!a>](N)" = .ok l ∧ l.captureCount ≠ 0 ∧ ∃ c offset before after,
      SplitsAt "ü[2n<3!a>](N)" offset before (String.singleton c ++ after) ∧
      Token.isCaptureMark c ∧ (∀ d ∈ before.toList, Token.isCaptureMark d = false) ∧
      parse (Bracket.capture.wrap "ü[2n<3!a>](N)") =
        .error (.nestedCapture c (some (1 + offset))) := by
  have hquiet : parse "ü[2n]" = .ok ⟨[.literal "ü",
      .group .optional [.field ⟨1, 2, .digits, 1⟩]]⟩ := by decide +kernel
  have hnested : parse "ü[2n<3!a>](N)" = .ok ⟨[.literal "ü",
      .group .optional [.field ⟨1, 2, .digits, 1⟩,
        .group .reformat [.field ⟨3, 3, .capitals, 1⟩]], .group .capture [.sign]]⟩ := by
    decide +kernel
  refine ⟨⟨_, hquiet, rfl, ((parse_wrap hquiet).2 .capture rfl).1 rfl⟩, _, hnested, ?_, ?_⟩
  · decide
  · exact ((parse_wrap hnested).2 .capture rfl).2 (by decide)

end Layout

end FieldLayout
