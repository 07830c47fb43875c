import FieldLayout.Layout.Parser
import FieldLayout.Proofs.Layout.Sequences
import Mathlib.Data.List.TakeWhile

/-!
# The grammar of layouts

The tokens of a layout can be described by rules alone. The grammar says which tokens a part is made
of, and the parser is shown to follow it exactly: it accepts the tokens that the grammar derives and
builds the tree of the derivation.

Two rules look beyond the part itself. A literal goes on as long as ordinary characters follow, and
a capturing group holds no other one at any depth.

## Main definitions

* `Field.Derives`: the three forms of a field.
* `Node.Derives`: consecutive parts.
* `Node.Reads`: what the parser reads, without its bookkeeping.

## Main statements

* `Node.Reads.sound`, `Node.Derives.reads`: the parser and the grammar agree in front of any tokens
  that a closing bracket may leave behind.
* `Node.Derives.unique`: the grammar is unambiguous.
* `Layout.ofTokens_eq_ok_iff_derives`: a layout is read from exactly the tokens that derive it.
-/

namespace FieldLayout

/-! ## Rules -/

/-- The tokens of a field. The set is named by the text of the last token, whatever its lexeme. -/
inductive Field.Derives : List Token → Field → Prop
  /-- A number alone is a greatest length. -/
  | upTo {head last : Token} {n : UInt32} {s : Charset} (hn : head.lexeme = .number n)
      (hfix : last.lexeme ≠ .mark '!') (htimes : last.lexeme ≠ .mark '*')
      (hs : last.text = s.name) : Derives [head, last] ⟨1, n, s, 1⟩
  /-- An exclamation mark fixes the length. -/
  | exactly {head fix last : Token} {n : UInt32} {s : Charset} (hn : head.lexeme = .number n)
      (hfix : fix.lexeme = .mark '!') (hs : last.text = s.name) :
      Derives [head, fix, last] ⟨n, n, s, 1⟩
  /-- An asterisk stands between the repeats and the greatest length. -/
  | repeated {head times bound last : Token} {n m : UInt32} {s : Charset}
      (hn : head.lexeme = .number n) (htimes : times.lexeme = .mark '*')
      (hm : bound.lexeme = .number m) (hs : last.text = s.name) :
      Derives [head, times, bound, last] ⟨1, m, s, n⟩

/-- A literal starts with an ordinary character or with a mark that is no bracket. -/
def Token.StartsLiteral (t : Token) : Prop :=
  t.isPlain ∨ ∃ c, t.lexeme = .mark c ∧ ∀ b : Bracket, c ≠ b.opening ∧ c ≠ b.closing

/-- The tokens of consecutive parts. -/
inductive Node.Derives : List Token → List Node → Prop
  | nil : Derives [] []
  | date {t : Token} {run : String} {rest : List Token} {ns : List Node}
      (ht : t.lexeme = .date run) (others : Derives rest ns) :
      Derives (t :: rest) (.date run :: ns)
  | sign {t : Token} {rest : List Token} {ns : List Node} (ht : t.lexeme = .sign)
      (others : Derives rest ns) : Derives (t :: rest) (.sign :: ns)
  | field {ts rest : List Token} {f : Field} {ns : List Node} (first : f.Derives ts)
      (others : Derives rest ns) : Derives (ts ++ rest) (.field f :: ns)
  /-- The run of ordinary characters of a literal is the longest one. -/
  | literal {t : Token} {run rest : List Token} {ns : List Node} (ht : t.StartsLiteral)
      (hrun : ∀ u ∈ run, u.isPlain) (longest : ∀ u ∈ rest.head?, ¬ u.isPlain)
      (others : Derives rest ns) :
      Derives (t :: run ++ rest) (.literal (Token.join (t :: run)) :: ns)
  /-- Nothing in a capturing group captures, at any depth. -/
  | group {t u : Token} {inner rest : List Token} {b : Bracket} {children ns : List Node}
      (ht : t.lexeme = .mark b.opening) (content : Derives inner children)
      (hu : u.lexeme = .mark b.closing)
      (hflat : b.captures → Node.captureCountList children = 0) (others : Derives rest ns) :
      Derives (t :: inner ++ u :: rest) (.group b children :: ns)

/-! ## Tokens -/

namespace Bracket

theorem ofOpening?_eq_some_iff {c : Char} {b : Bracket} :
    ofOpening? c = some b ↔ c = b.opening := by
  constructor
  · intro h
    unfold ofOpening? at h
    split at h
    all_goals cases h
    all_goals rfl
  · rintro rfl
    exact ofOpening?_opening b

theorem ofClosing?_eq_some_iff {c : Char} {b : Bracket} :
    ofClosing? c = some b ↔ c = b.closing := by
  constructor
  · intro h
    unfold ofClosing? at h
    split at h
    all_goals cases h
    all_goals rfl
  · rintro rfl
    exact ofClosing?_closing b

theorem opening_ne_closing (b b' : Bracket) : b.opening ≠ b'.closing := by
  cases b <;> cases b' <;> decide

end Bracket

theorem Charset.ofText?_eq_some_iff {t : String} {s : Charset} :
    ofText? t = some s ↔ t = s.name := by
  rw [name, ← String.toList_inj, String.toList_singleton]
  unfold ofText?
  split
  · next c hc => rw [hc, ofLetter?_eq_some_iff, List.cons.injEq, and_iff_left rfl]
  · next hc =>
    refine iff_of_false nofun fun h => ?_
    exact hc _ h

/-- The texts that name a character set. -/
def Charset.names : List String := ["n", "a", "c", "x", "e", "d"]

theorem Charset.mem_names_iff {text : String} : text ∈ names ↔ ∃ s : Charset, text = s.name := by
  constructor
  · intro h
    simp only [names, List.mem_cons, List.not_mem_nil, or_false] at h
    rcases h with h | h | h | h | h | h
    · exact ⟨.digits, h⟩
    · exact ⟨.capitals, h⟩
    · exact ⟨.alphanumeric, h⟩
    · exact ⟨.text, h⟩
    · exact ⟨.blank, h⟩
    · exact ⟨.decimal, h⟩
  · rintro ⟨s, rfl⟩
    cases s <;> decide

namespace Token

theorem opens?_eq_some_iff {t : Token} {b : Bracket} :
    t.opens? = some b ↔ t.lexeme = .mark b.opening := by
  unfold opens?
  split
  · next c hc => rw [hc, Lexeme.mark.injEq, Bracket.ofOpening?_eq_some_iff]
  · next hc => exact iff_of_false nofun fun h => hc _ h

theorem closes?_eq_some_iff {t : Token} {b : Bracket} :
    t.closes? = some b ↔ t.lexeme = .mark b.closing := by
  unfold closes?
  split
  · next c hc => rw [hc, Lexeme.mark.injEq, Bracket.ofClosing?_eq_some_iff]
  · next hc => exact iff_of_false nofun fun h => hc _ h

theorem closes?_eq_none_of_opens? {t : Token} {b : Bracket} (h : t.opens? = some b) :
    t.closes? = none := by
  rw [Option.eq_none_iff_forall_ne_some]
  intro b' h'
  rw [opens?_eq_some_iff] at h
  rw [closes?_eq_some_iff, h, Lexeme.mark.injEq] at h'
  exact b.opening_ne_closing b' h'

theorem isPlain_iff {t : Token} : t.isPlain ↔ ∃ c, t.lexeme = .plain c := by
  unfold isPlain
  split
  · next c hc => exact iff_of_true rfl ⟨c, hc⟩
  · next hc => exact iff_of_false nofun fun ⟨c, h⟩ => hc c h

theorem not_isPlain_of_closes {t : Token} (h : t.closes?.isSome) : ¬ t.isPlain := by
  intro hplain
  obtain ⟨c, hc⟩ := isPlain_iff.1 hplain
  rw [closes?, hc] at h
  exact Bool.false_ne_true h

/-- A token that neither opens nor closes a group. -/
def IsNoBracket (t : Token) : Prop :=
  ∀ b : Bracket, t.lexeme ≠ .mark b.opening ∧ t.lexeme ≠ .mark b.closing

theorem IsNoBracket.opens?_eq_none {t : Token} (h : t.IsNoBracket) : t.opens? = none := by
  rw [Option.eq_none_iff_forall_ne_some]
  intro b hb
  exact (h b).1 (opens?_eq_some_iff.1 hb)

theorem IsNoBracket.not_closes {t : Token} (h : t.IsNoBracket) : ¬ t.closes?.isSome := by
  rw [Option.isSome_iff_exists]
  rintro ⟨b, hb⟩
  exact (h b).2 (closes?_eq_some_iff.1 hb)

theorem IsNoBracket.of_ne_mark {t : Token} (h : ∀ c, t.lexeme ≠ .mark c) : t.IsNoBracket :=
  fun b => ⟨h b.opening, h b.closing⟩

theorem StartsLiteral.isNoBracket {t : Token} (h : t.StartsLiteral) : t.IsNoBracket := by
  obtain hplain | ⟨c, hmark, hc⟩ := h
  · obtain ⟨c, hc⟩ := isPlain_iff.1 hplain
    exact .of_ne_mark (by simp [hc])
  · intro b
    rw [hmark]
    exact ⟨fun h => (hc b).1 (Lexeme.mark.inj h), fun h => (hc b).2 (Lexeme.mark.inj h)⟩

end Token

/-! ## Fields -/

theorem Field.Derives.head {ts : List Token} {f : Field} (h : f.Derives ts) :
    ∃ t rest n, ts = t :: rest ∧ t.lexeme = .number n := by
  cases h with
  | upTo hn | exactly hn | repeated hn => exact ⟨_, _, _, rfl, hn⟩

theorem Charset.read_eq_ok_iff {stop : Nat} {ts rest : List Token} {s : Charset} :
    Charset.read stop ts = .ok (s, rest) ↔ ∃ t, ts = t :: rest ∧ t.text = s.name := by
  cases ts with
  | nil => exact iff_of_false nofun fun ⟨t, h, _⟩ => by cases h
  | cons t ts =>
    rw [Charset.read]
    constructor
    · intro h
      split at h
      · next s' hs =>
        cases h
        exact ⟨t, rfl, ofText?_eq_some_iff.1 hs⟩
      · cases h
    · rintro ⟨_, h, hs⟩
      cases h
      rw [ofText?_eq_some_iff.2 hs]

theorem Token.isMark_iff {t : Token} {c : Char} : t.isMark c ↔ t.lexeme = .mark c := by
  rw [isMark, beq_iff_eq]

/-- What the marks behind the first number of a field say. -/
theorem Extent.read_eq_ok {head : Token} {n : UInt32} {ts mid : List Token} {x : Extent}
    (h : Extent.read head n ts = .ok (x, mid)) :
    (ts = mid ∧ (∀ t ∈ mid.head?, t.lexeme ≠ .mark '!' ∧ t.lexeme ≠ .mark '*') ∧
      x = ⟨1, n, 1, head.stop⟩) ∨
    (∃ fix, ts = fix :: mid ∧ fix.lexeme = .mark '!' ∧ x = ⟨n, n, 1, fix.stop⟩) ∨
    ∃ times bound m, ts = times :: bound :: mid ∧ times.lexeme = .mark '*' ∧
      bound.lexeme = .number m ∧ x = ⟨1, m, n, bound.stop⟩ := by
  cases ts with
  | nil =>
    cases h
    exact .inl ⟨rfl, nofun, rfl⟩
  | cons t rest =>
    unfold Extent.read at h
    dsimp only at h
    by_cases hfix : t.isMark '!'
    · rw [if_pos hfix] at h
      cases h
      exact .inr (.inl ⟨t, rfl, Token.isMark_iff.1 hfix, rfl⟩)
    · rw [if_neg hfix] at h
      by_cases htimes : t.isMark '*'
      · rw [if_pos htimes] at h
        split at h
        · cases h
        · next u rest =>
          split at h
          · next m hm =>
            cases h
            exact .inr (.inr ⟨t, u, m, rfl, Token.isMark_iff.1 htimes, hm, rfl⟩)
          · cases h
      · rw [if_neg htimes] at h
        cases h
        refine .inl ⟨rfl, ?_, rfl⟩
        rintro _ ⟨⟩
        exact ⟨mt Token.isMark_iff.2 hfix, mt Token.isMark_iff.2 htimes⟩

/-- A field is read from the tokens that the grammar allows. -/
theorem Field.read_eq_ok_iff {head : Token} {n : UInt32} {ts rest : List Token} {f : Field}
    (hn : head.lexeme = .number n) : Field.read head n ts = .ok (f, rest) ↔
      ∃ used, ts = used ++ rest ∧ f.Derives (head :: used) := by
  constructor
  · intro h
    rw [Field.read] at h
    split at h
    · cases h
    · next x mid hx =>
      split at h
      · cases h
      · next s left hs =>
        cases h
        obtain ⟨last, rfl, hlast⟩ := Charset.read_eq_ok_iff.1 hs
        obtain ⟨rfl, hno, rfl⟩ | ⟨fix, rfl, hfix, rfl⟩ | ⟨times, bound, m, rfl, htimes, hm, rfl⟩ :=
          Extent.read_eq_ok hx
        · obtain ⟨hfix, htimes⟩ := hno last rfl
          exact ⟨[last], rfl, .upTo hn hfix htimes hlast⟩
        · exact ⟨[fix, last], rfl, .exactly hn hfix hlast⟩
        · exact ⟨[times, bound, last], rfl, .repeated hn htimes hm hlast⟩
  · rintro ⟨used, rfl, hd⟩
    cases hd with
    | @upTo _ last n' s hn' hfix htimes hs =>
      obtain rfl : n = n' := Lexeme.number.inj (hn.symm.trans hn')
      simp [Field.read, Extent.read, Charset.read, Token.isMark, hfix, htimes,
        Charset.ofText?_eq_some_iff.2 hs]
    | @exactly _ fix last n' s hn' hfix hs =>
      obtain rfl : n = n' := Lexeme.number.inj (hn.symm.trans hn')
      simp [Field.read, Extent.read, Charset.read, Token.isMark, hfix,
        Charset.ofText?_eq_some_iff.2 hs]
    | @repeated _ times bound last n' m s hn' htimes hm hs =>
      obtain rfl : n = n' := Lexeme.number.inj (hn.symm.trans hn')
      simp [Field.read, Extent.read, Charset.read, Token.isMark, htimes, hm,
        Charset.ofText?_eq_some_iff.2 hs]

/-! ## Readings -/

namespace Node

/-- The parser reads parts from the front of tokens and leaves the others behind. -/
def Reads (inCapture : Bool) (ts : List Token) (ns : List Node) (left : List Token) : Prop :=
  (readList inCapture ts).map (·.1) = .ok (ns, left)

variable {inCapture : Bool} {t : Token} {rest left : List Token} {ns : List Node}

theorem map_error_ne_ok {ts : List Token} {e : Fault} {r : List Node × List Token} :
    (Except.error e : Except Fault (Reading ts)).map (·.1) ≠ .ok r := by
  intro h
  cases h

theorem not_reads_of_eq_error {ts : List Token} {e : Fault} (h : readList inCapture ts = .error e) :
    ¬ Reads inCapture ts ns left := by
  rw [Reads, h]
  exact map_error_ne_ok

theorem reads_iff_of_eq_ok {ts : List Token} {r : Reading ts} (h : readList inCapture ts = .ok r) :
    Reads inCapture ts ns left ↔ r.1 = (ns, left) := by
  rw [Reads, h, Except.map, Except.ok.injEq]

theorem Reads.unique {ts left' : List Token} {ns' : List Node} (h : Reads inCapture ts ns left)
    (h' : Reads inCapture ts ns' left') : ns = ns' ∧ left = left' :=
  Prod.mk.inj (Except.ok.inj (h.symm.trans h'))

theorem reads_nil : Reads inCapture [] ns left ↔ ns = [] ∧ left = [] := by
  rw [Reads, readList]
  simp [Except.map, eq_comm]

theorem reads_of_closes (h : t.closes?.isSome) :
    Reads inCapture (t :: rest) ns left ↔ ns = [] ∧ left = t :: rest := by
  rw [Reads, readList, dif_pos h]
  simp [Except.map, eq_comm]

theorem reads_of_plain (hc : ¬ t.closes?.isSome) (ho : t.opens? = none) :
    Reads inCapture (t :: rest) ns left ↔ ∃ n inner ns', readPlain t rest = .ok (n, inner) ∧
      Reads inCapture inner ns' left ∧ ns = n :: ns' := by
  rw [Reads, readList, dif_neg hc]
  split
  · next b hb =>
    rw [ho] at hb
    cases hb
  · split
    · next e he =>
      refine iff_of_false map_error_ne_ok ?_
      rintro ⟨n, inner, ns', hn, -⟩
      rw [he] at hn
      cases hn
    · next n inner hn =>
      cases hr : readList inCapture inner with
      | error e =>
        refine iff_of_false map_error_ne_ok ?_
        rintro ⟨_, _, ns', h, hothers, -⟩
        cases hn.symm.trans h
        exact not_reads_of_eq_error hr hothers
      | ok r =>
        obtain ⟨⟨ns', left'⟩, hl⟩ := r
        constructor
        · rintro ⟨⟩
          exact ⟨n, inner, ns', hn, (reads_iff_of_eq_ok hr).2 rfl, rfl⟩
        · rintro ⟨_, _, _, h, hothers, rfl⟩
          cases hn.symm.trans h
          cases (reads_iff_of_eq_ok hr).1 hothers
          rfl

theorem reads_of_opens {b : Bracket} (h : t.opens? = some b) :
    Reads inCapture (t :: rest) ns left ↔ ¬ (inCapture && b.captures) ∧
      ∃ children u inner ns', Reads (inCapture || b.captures) rest children (u :: inner) ∧
        u.closes? = some b ∧ Reads inCapture inner ns' left ∧ ns = .group b children :: ns' := by
  have hc : ¬ t.closes?.isSome := by
    rw [Token.closes?_eq_none_of_opens? h]
    exact Bool.false_ne_true
  rw [Reads, readList, dif_neg hc]
  split
  · next b' hb =>
    obtain rfl : b = b' := Option.some.inj (h.symm.trans hb)
    by_cases hflat : inCapture && b.captures
    · rw [if_pos hflat]
      exact iff_of_false map_error_ne_ok fun hreads => hreads.1 hflat
    · rw [if_neg hflat, and_iff_right hflat]
      -- The content has to be read up to a closing bracket, and this has to be the right one.
      cases hi : readList (inCapture || b.captures) rest with
      | error e =>
        refine iff_of_false map_error_ne_ok ?_
        rintro ⟨children, u, inner, ns', hcontent, -⟩
        exact not_reads_of_eq_error hi hcontent
      | ok r =>
        obtain ⟨⟨children, inner⟩, hi'⟩ := r
        cases inner with
        | nil =>
          refine iff_of_false map_error_ne_ok ?_
          rintro ⟨_, u, inner, ns', hcontent, -⟩
          cases (reads_iff_of_eq_ok hi).1 hcontent
        | cons u inner =>
          dsimp only
          by_cases hu : u.closes? = some b
          · rw [if_pos hu]
            cases hr : readList inCapture inner with
            | error e =>
              refine iff_of_false map_error_ne_ok ?_
              rintro ⟨_, _, _, ns', hcontent, -, hothers, -⟩
              cases (reads_iff_of_eq_ok hi).1 hcontent
              exact not_reads_of_eq_error hr hothers
            | ok r =>
              obtain ⟨⟨ns', left'⟩, hl⟩ := r
              constructor
              · rintro ⟨⟩
                exact ⟨children, u, inner, ns', (reads_iff_of_eq_ok hi).2 rfl, hu,
                  (reads_iff_of_eq_ok hr).2 rfl, rfl⟩
              · rintro ⟨_, _, _, _, hcontent, -, hothers, rfl⟩
                cases (reads_iff_of_eq_ok hi).1 hcontent
                cases (reads_iff_of_eq_ok hr).1 hothers
                rfl
          · rw [if_neg hu]
            refine iff_of_false map_error_ne_ok ?_
            rintro ⟨_, _, _, ns', hcontent, hu', -⟩
            cases (reads_iff_of_eq_ok hi).1 hcontent
            exact hu hu'
  · next hb =>
    rw [h] at hb
    cases hb

/-! ## Soundness -/

/-- A literal and the longest run behind it, in front of the derivation of the others. -/
theorem derives_literal_takeWhile {front : List Token} (ht : t.StartsLiteral)
    (hfront : rest.dropWhile Token.isPlain = front ++ left) (hd : Derives front ns) :
    ∃ used, t :: rest = used ++ left ∧
      Derives used (.literal (Token.join (t :: rest.takeWhile Token.isPlain)) :: ns) := by
  refine ⟨t :: rest.takeWhile Token.isPlain ++ front, ?_, ?_⟩
  · rw [List.append_assoc, List.cons_append, ← hfront, List.takeWhile_append_dropWhile]
  · refine .literal ht (fun u hu => List.mem_takeWhile_imp hu) ?_ hd
    intro u hu
    have hhead : (rest.dropWhile Token.isPlain).head? = some u := by
      rw [hfront, List.head?_append, hu]
      rfl
    have hnot := List.head?_dropWhile_not Token.isPlain rest
    rw [hhead] at hnot
    simpa using hnot

/-- A part that is no group is derived from the tokens read, in front of the derivation of the
others. -/
theorem derives_of_readPlain {n : Node} {inner front : List Token}
    (hc : ¬ t.closes?.isSome) (ho : t.opens? = none) (h : readPlain t rest = .ok (n, inner))
    (hinner : inner = front ++ left) (hd : Derives front ns) :
    n.captureCount = 0 ∧ ∃ used, t :: rest = used ++ left ∧ Derives used (n :: ns) := by
  unfold readPlain at h
  split at h
  · next k hk =>
    split at h
    · cases h
    · next f left' hf =>
      cases h
      obtain ⟨used, rfl, hfield⟩ := (Field.read_eq_ok_iff hk).1 hf
      refine ⟨rfl, t :: used ++ front, ?_, .field hfield hd⟩
      rw [hinner, List.append_assoc, List.cons_append]
  · next run hrun =>
    cases h
    exact ⟨rfl, t :: front, by rw [hinner]; rfl, .date hrun hd⟩
  · next hsign =>
    cases h
    exact ⟨rfl, t :: front, by rw [hinner]; rfl, .sign hsign hd⟩
  · next c hmark =>
    cases h
    refine ⟨rfl, derives_literal_takeWhile (.inr ⟨c, hmark, fun b => ⟨?_, ?_⟩⟩) hinner hd⟩
    · rintro rfl
      rw [Token.opens?_eq_some_iff.2 hmark] at ho
      cases ho
    · rintro rfl
      rw [Token.closes?_eq_some_iff.2 hmark] at hc
      exact hc rfl
  · next c hplain =>
    cases h
    have ht : t.StartsLiteral := .inl (Token.isPlain_iff.2 ⟨c, hplain⟩)
    exact ⟨rfl, derives_literal_takeWhile ht hinner hd⟩

/-- What is read is derived. Inside a capturing group nothing captures. -/
theorem Reads.sound {ts : List Token} (h : Reads inCapture ts ns left) :
    (∃ front, ts = front ++ left ∧ Derives front ns) ∧
      (∀ u ∈ left.head?, u.closes?.isSome) ∧ (inCapture → captureCountList ns = 0) := by
  -- The tokens of a group and those behind it are both fewer than all tokens.
  induction hk : ts.length using Nat.strong_induction_on generalizing inCapture ts ns left with
  | _ k ih =>
    cases ts with
    | nil =>
      obtain ⟨rfl, rfl⟩ := reads_nil.1 h
      exact ⟨⟨[], rfl, .nil⟩, nofun, fun _ => rfl⟩
    | cons t rest =>
      by_cases hc : t.closes?.isSome
      · obtain ⟨rfl, rfl⟩ := (reads_of_closes hc).1 h
        refine ⟨⟨[], rfl, .nil⟩, ?_, fun _ => rfl⟩
        rintro _ ⟨⟩
        exact hc
      · cases ho : t.opens? with
        | some b =>
          obtain ⟨hflat, children, u, inner, ns', hchildren, hu, hothers, rfl⟩ :=
            (reads_of_opens ho).1 h
          obtain ⟨⟨front, rfl, hcontent⟩, -, hquiet⟩ :=
            ih rest.length (by simp [← hk]) hchildren rfl
          have hlt : inner.length < k := by
            simp [← hk]
            omega
          obtain ⟨⟨front', rfl, hd⟩, hleft, hquiet'⟩ := ih inner.length hlt hothers rfl
          refine ⟨⟨t :: front ++ u :: front', by simp, ?_⟩, hleft, fun hin => ?_⟩
          · refine .group (Token.opens?_eq_some_iff.1 ho) hcontent
              (Token.closes?_eq_some_iff.1 hu) (fun hb => hquiet ?_) hd
            rw [hb, Bool.or_true]
          · have hb : b.captures = false := by simpa [hin] using hflat
            rw [captureCountList, captureCount, hquiet' hin, hquiet (by rw [hin, Bool.true_or]), hb]
            rfl
        | none =>
          obtain ⟨n, inner, ns', hn, hothers, rfl⟩ := (reads_of_plain hc ho).1 h
          have hlt : inner.length < k := by
            have hle := length_le_of_readPlain hn
            rw [← hk, List.length_cons]
            omega
          obtain ⟨⟨front, hfront, hd⟩, hleft, hquiet⟩ := ih inner.length hlt hothers rfl
          obtain ⟨hzero, used, hused, hderives⟩ := derives_of_readPlain hc ho hn hfront hd
          refine ⟨⟨used, hused, hderives⟩, hleft, fun hin => ?_⟩
          rw [captureCountList, hzero, hquiet hin]

/-! ## Completeness -/

theorem Reads.of_readPlain {n : Node} {inner : List Token} (ht : t.IsNoBracket)
    (hn : readPlain t rest = .ok (n, inner)) (h : Reads inCapture inner ns left) :
    Reads inCapture (t :: rest) (n :: ns) left :=
  (reads_of_plain ht.not_closes ht.opens?_eq_none).2 ⟨n, inner, ns, hn, h, rfl⟩

theorem readPlain_of_startsLiteral (ht : t.StartsLiteral) (ts : List Token) :
    readPlain t ts = .ok (.literal (Token.join (t :: ts.takeWhile Token.isPlain)),
      ts.dropWhile Token.isPlain) := by
  obtain hplain | ⟨c, hmark, -⟩ := ht
  · obtain ⟨c, hc⟩ := Token.isPlain_iff.1 hplain
    rw [readPlain, hc]
    rfl
  · rw [readPlain, hmark]
    rfl

/-- A literal stops where its longest run stops. -/
theorem readPlain_literal_append {run after : List Token} (ht : t.StartsLiteral)
    (hrun : ∀ u ∈ run, u.isPlain) (hafter : ∀ u ∈ after.head?, ¬ u.isPlain) :
    readPlain t (run ++ after) = .ok (.literal (Token.join (t :: run)), after) := by
  have hstop : after.takeWhile Token.isPlain = [] ∧ after.dropWhile Token.isPlain = after := by
    cases after with
    | nil => exact ⟨rfl, rfl⟩
    | cons u us =>
      have hu : ¬ u.isPlain := hafter u rfl
      exact ⟨List.takeWhile_cons_of_neg hu, List.dropWhile_cons_of_neg hu⟩
  rw [readPlain_of_startsLiteral ht, List.takeWhile_append_of_pos hrun,
    List.dropWhile_append_of_pos hrun, hstop.1, hstop.2, List.append_nil]

theorem readPlain_field_append {used : List Token} {f : Field} {n : UInt32}
    (ht : t.lexeme = .number n) (h : f.Derives (t :: used)) (after : List Token) :
    readPlain t (used ++ after) = .ok (.field f, after) := by
  rw [readPlain, ht]
  dsimp only
  rw [(Field.read_eq_ok_iff ht).2 ⟨used, rfl, h⟩]

/-- Nothing behind the longest run of a literal belongs to it, if what comes behind the parts starts
with a closing bracket. -/
theorem not_isPlain_of_longest {after : List Token} (hrest : ∀ u ∈ rest.head?, ¬ u.isPlain)
    (hafter : ∀ u ∈ after.head?, u.closes?.isSome) :
    ∀ u ∈ (rest ++ after).head?, ¬ u.isPlain := by
  intro u hu
  cases rest with
  | nil => exact Token.not_isPlain_of_closes (hafter u hu)
  | cons v rest => exact hrest u hu

/-- What is derived is read, in front of anything that starts with a closing bracket. -/
theorem Derives.reads {ts : List Token} (h : Derives ts ns) (inCapture : Bool)
    (hquiet : inCapture → captureCountList ns = 0) (hleft : ∀ u ∈ left.head?, u.closes?.isSome) :
    Reads inCapture (ts ++ left) ns left := by
  induction h generalizing inCapture left with
  | nil =>
    cases left with
    | nil => exact reads_nil.2 ⟨rfl, rfl⟩
    | cons u left => exact (reads_of_closes (hleft u rfl)).2 ⟨rfl, rfl⟩
  | @date t run rest ns ht others ih =>
    have hn : readPlain t (rest ++ left) = .ok (.date run, rest ++ left) := by
      rw [readPlain, ht]
    have hothers := ih inCapture (fun hin => (Nat.add_eq_zero_iff.1 (hquiet hin)).2) hleft
    exact hothers.of_readPlain (.of_ne_mark (by simp [ht])) hn
  | @sign t rest ns ht others ih =>
    have hn : readPlain t (rest ++ left) = .ok (.sign, rest ++ left) := by
      rw [readPlain, ht]
    have hothers := ih inCapture (fun hin => (Nat.add_eq_zero_iff.1 (hquiet hin)).2) hleft
    exact hothers.of_readPlain (.of_ne_mark (by simp [ht])) hn
  | @field ts rest f ns first others ih =>
    obtain ⟨head, used, n, rfl, hhead⟩ := first.head
    have hn := readPlain_field_append hhead first (rest ++ left)
    have hothers := ih inCapture (fun hin => (Nat.add_eq_zero_iff.1 (hquiet hin)).2) hleft
    rw [List.append_assoc]
    exact hothers.of_readPlain (.of_ne_mark (by simp [hhead])) hn
  | @literal t run rest ns ht hrun longest others ih =>
    have hn := readPlain_literal_append ht hrun (not_isPlain_of_longest longest hleft)
    have hothers := ih inCapture (fun hin => (Nat.add_eq_zero_iff.1 (hquiet hin)).2) hleft
    rw [List.append_assoc]
    exact hothers.of_readPlain ht.isNoBracket hn
  | @group t u inner rest b children ns ht content hu hflat others ihc ih =>
    -- Inside a capturing group neither this group nor anything in it captures.
    have hcount : inCapture → b.captures = false ∧ captureCountList children = 0 ∧
        captureCountList ns = 0 := by
      intro hin
      have hzero := hquiet hin
      rw [captureCountList, captureCount] at hzero
      cases hb : b.captures with
      | true =>
        rw [hb] at hzero
        simp at hzero
      | false =>
        rw [hb] at hzero
        simp at hzero
        exact ⟨rfl, hzero⟩
    have hclose : u.closes? = some b := Token.closes?_eq_some_iff.2 hu
    have hcontent : Reads (inCapture || b.captures) (inner ++ u :: (rest ++ left)) children
        (u :: (rest ++ left)) := by
      refine ihc _ (fun hor => ?_) ?_
      · rcases Bool.or_eq_true_iff.1 hor with hin | hb
        · exact (hcount hin).2.1
        · exact hflat hb
      · rintro _ ⟨⟩
        rw [hclose]
        rfl
    have hothers := ih inCapture (fun hin => (hcount hin).2.2) hleft
    have hopen : t.opens? = some b := Token.opens?_eq_some_iff.2 ht
    rw [List.append_assoc]
    refine (reads_of_opens hopen).2 ⟨fun hboth => ?_, children, u, rest ++ left, ns, hcontent,
      hclose, hothers, rfl⟩
    rw [Bool.and_eq_true] at hboth
    rw [(hcount hboth.1).1] at hboth
    exact Bool.false_ne_true hboth.2

/-- All tokens are read if and only if they are derived. -/
theorem reads_all_iff {ts : List Token} : Reads false ts ns [] ↔ Derives ts ns := by
  constructor
  · intro h
    obtain ⟨⟨front, rfl, hd⟩, -, -⟩ := h.sound
    rwa [List.append_nil]
  · intro h
    have hall : Reads false (ts ++ []) ns [] := h.reads false nofun nofun
    rwa [List.append_nil] at hall

/-- The grammar is unambiguous. -/
theorem Derives.unique {ts : List Token} {ns' : List Node} (h : Derives ts ns)
    (h' : Derives ts ns') : ns = ns' :=
  ((reads_all_iff.2 h).unique (reads_all_iff.2 h')).1

end Node

/-! ## Layouts -/

theorem Layout.ofTokens_eq_ok_iff_reads {ts : List Token} {l : Layout} :
    Layout.ofTokens ts = .ok l ↔ Node.Reads false ts l.nodes [] := by
  rw [Layout.ofTokens]
  cases hr : Node.readList false ts with
  | error e => exact iff_of_false nofun (Node.not_reads_of_eq_error hr)
  | ok r =>
    rw [Node.reads_iff_of_eq_ok hr]
    obtain ⟨⟨nodes, left⟩, hl⟩ := r
    cases left with
    | nil =>
      cases l
      simp
    | cons t left => exact iff_of_false nofun nofun

theorem Layout.parse_eq_ok_iff_derives {s : String} {l : Layout} :
    Layout.parse s = .ok l ↔ Node.Derives (Token.scan s) l.nodes :=
  ofTokens_eq_ok_iff_reads.trans Node.reads_all_iff

/-- A layout is read from exactly the tokens that the grammar derives for it. -/
theorem Layout.ofTokens_eq_ok_iff_derives (ts : List Token) (l : Layout) :
    Layout.ofTokens ts = .ok l ↔ Node.Derives ts l.nodes :=
  ofTokens_eq_ok_iff_reads.trans Node.reads_all_iff

end FieldLayout
