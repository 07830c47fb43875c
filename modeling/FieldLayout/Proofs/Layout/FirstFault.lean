import FieldLayout.Proofs.Layout.PartByPart
import FieldLayout.Proofs.Layout.WordPlaces

/-!
# The first fault of a list of tokens

The parser descends into groups, and a fault comes up through all groups around it. Which of several
faults it reports can be told without the descent: a scan goes over the tokens once, from left to
right, and keeps the open brackets on a stack. The first fault that the scan meets is the one that
is reported.

The tokens are made by hand, so their places are words. The scan adds them as a machine does, and
where the parser is stopped by a carry, the scan is stopped by the same one.

## Main definitions

* `FaultScan.step`: what the scan does at a token.
* `FaultScan.firstFailure?`: the first failure that the scan meets.
* `FaultScan.Follows`: the scan meets the fault of a reading, or it goes on behind what is read.

## Main statements

* `FaultScan.follows_readPart`: one part leaves the scan as it was before the part.
* `FaultScan.follows_readFront`: so do consecutive parts.
* `Layout.ofRawTokens_agrees_with_firstFailure?`: the parser reports the first failure of the scan.
-/

namespace FieldLayout

namespace FaultScan

/-! ## The scan -/

/-- A bracket that has been opened and not yet closed. -/
structure Opened where
  bracket : Bracket
  /-- The place of the opening mark. -/
  offset : UInt64
  deriving DecidableEq, Repr

/-- The failure of a bracket that is not closed. -/
def Opened.unclosed (opened : Opened) : Failure :=
  .fault (.unclosedGroup opened.bracket.closing opened.offset.toNat)

/-- One of the open brackets captures. -/
def capturing (stack : List Opened) : Bool := stack.any fun opened => opened.bracket.captures

def isNumber (t : RawToken) : Bool :=
  match t.lexeme with
  | .number _ => true
  | _ => false

variable (carry : Carry)

/-- Goes over the character set behind a length, of which `last` is the last token. -/
def passCharset (last : RawToken) : List RawToken → Except Failure (List RawToken)
  | [] => .error (last.missingCharset carry)
  | t :: rest =>
    if t.text ∈ Charset.names then .ok rest
    else .error (.fault (.unknownCharset t.text t.offset.toNat))

/-- Goes over a field, behind its first number. -/
def passField (head : RawToken) : List RawToken → Except Failure (List RawToken)
  | [] => passCharset carry head []
  | t :: rest =>
    if t.lexeme = .mark '*' then
      match rest with
      | [] => .error (.fault (.missingLength t.offset.toNat))
      | bound :: rest =>
        if isNumber bound then passCharset carry bound rest
        else .error (.fault (.missingLength t.offset.toNat))
    else if t.lexeme = .mark '!' then passCharset carry t rest
    else passCharset carry head (t :: rest)

/-- What the scan does at a token: it stops at a failure, or it goes on behind the token or the
field with the brackets that are open there. -/
def step (stack : List Opened) (t : RawToken) (rest : List RawToken) :
    Except Failure (List Opened × List RawToken) :=
  match t.lexeme with
  | .number _ => (passField carry t rest).map fun left => (stack, left)
  | .mark c =>
    match Bracket.ofOpening? c, Bracket.ofClosing? c with
    | some b, _ =>
      if b.captures && capturing stack then
        .error (.fault (.nestedCapture c (some t.offset.toNat)))
      else .ok (⟨b, t.offset⟩ :: stack, rest)
    | none, some b =>
      match stack with
      | [] => .error (.fault (.strayCloser c t.offset.toNat))
      | top :: outer => if top.bracket = b then .ok (outer, rest) else .error top.unclosed
    | none, none => .ok (stack, rest)
  | .date _ | .sign | .plain _ => .ok (stack, rest)

variable {carry} {stack stack' : List Opened} {t head last : RawToken}
  {ts rest left : List RawToken} {b : Bracket}

theorem length_le_of_passCharset (h : passCharset carry last ts = .ok left) :
    left.length ≤ ts.length := by
  cases ts with
  | nil => cases h
  | cons t rest =>
    rw [passCharset] at h
    split at h
    · cases h
      simp
    · cases h

theorem length_le_of_passField (h : passField carry head ts = .ok left) :
    left.length ≤ ts.length := by
  unfold passField at h
  split at h
  · exact length_le_of_passCharset h
  · split at h
    · split at h
      · cases h
      · split at h
        · have hle := length_le_of_passCharset h
          simp
          omega
        · cases h
    · split at h
      · have hle := length_le_of_passCharset h
        simp
        omega
      · exact length_le_of_passCharset h

theorem length_le_of_step (h : step carry stack t rest = .ok (stack', left)) :
    left.length ≤ rest.length := by
  unfold step at h
  split at h
  · cases hleft : passField carry t rest with
    | error e =>
      rw [hleft] at h
      cases h
    | ok left =>
      rw [hleft] at h
      cases h
      exact length_le_of_passField hleft
  · repeat' split at h
    all_goals cases h
    all_goals exact Nat.le_refl _
  all_goals
    cases h
    exact Nat.le_refl _

/-- The first failure that the scan meets, with the brackets that are open where it starts. -/
def firstFailure? (carry : Carry) (stack : List Opened) : List RawToken → Option Failure
  | [] => stack.head?.map Opened.unclosed
  | t :: rest =>
    match h : step carry stack t rest with
    | .error x => some x
    | .ok (stack', left) =>
      have := length_le_of_step h
      firstFailure? carry stack' left
termination_by ts => ts.length
decreasing_by
  simp
  omega

/-! ## One step -/

theorem firstFailure?_nil_nil : firstFailure? carry [] [] = none := by
  rw [firstFailure?]
  rfl

theorem firstFailure?_nil_cons (top : Opened) (outer : List Opened) :
    firstFailure? carry (top :: outer) [] = some top.unclosed := by
  rw [firstFailure?]
  rfl

theorem firstFailure?_of_step_eq_error {x : Failure} (h : step carry stack t rest = .error x) :
    firstFailure? carry stack (t :: rest) = some x := by
  rw [firstFailure?]
  split
  · next x' hx =>
    cases h.symm.trans hx
    rfl
  · next hok => cases h.symm.trans hok

theorem firstFailure?_of_step_eq_ok (h : step carry stack t rest = .ok (stack', left)) :
    firstFailure? carry stack (t :: rest) = firstFailure? carry stack' left := by
  rw [firstFailure?]
  split
  · next hx => cases h.symm.trans hx
  · next hok =>
    cases h.symm.trans hok
    rfl

theorem step_of_opens (h : t.token.opens? = some b) :
    step carry stack t rest =
      if b.captures && capturing stack then
        .error (.fault (.nestedCapture b.opening (some t.offset.toNat)))
      else .ok (⟨b, t.offset⟩ :: stack, rest) := by
  have hlexeme : t.lexeme = .mark b.opening := Token.opens?_eq_some_iff.1 h
  rw [step, hlexeme]
  simp

theorem step_of_closes {top : Opened} (h : t.token.closes? = some b) :
    step carry (top :: stack) t rest =
      if top.bracket = b then .ok (stack, rest) else .error top.unclosed := by
  have hlexeme : t.lexeme = .mark b.closing := Token.closes?_eq_some_iff.1 h
  rw [step, hlexeme]
  cases b <;> rfl

theorem step_of_stray (h : t.token.closes? = some b) :
    step carry [] t rest = .error (.fault (.strayCloser b.closing t.offset.toNat)) := by
  have hlexeme : t.lexeme = .mark b.closing := Token.closes?_eq_some_iff.1 h
  rw [step, hlexeme]
  cases b <;> rfl

theorem capturing_cons (top : Opened) (stack : List Opened) :
    capturing (top :: stack) = (capturing stack || top.bracket.captures) := by
  rw [capturing, List.any_cons, Bool.or_comm]
  rfl

theorem firstFailure?_of_opens (ho : t.token.opens? = some b)
    (hflat : ¬ (capturing stack && b.captures)) :
    firstFailure? carry stack (t :: rest) = firstFailure? carry (⟨b, t.offset⟩ :: stack) rest := by
  apply firstFailure?_of_step_eq_ok
  rw [step_of_opens ho, Bool.and_comm, if_neg hflat]

theorem firstFailure?_of_closes {top : Opened} (h : t.token.closes? = some top.bracket) :
    firstFailure? carry (top :: stack) (t :: rest) = firstFailure? carry stack rest := by
  apply firstFailure?_of_step_eq_ok
  rw [step_of_closes h, if_pos rfl]

theorem firstFailure?_of_closes_other {top : Opened} (h : t.token.closes?.isSome)
    (hother : t.token.closes? ≠ some top.bracket) :
    firstFailure? carry (top :: stack) (t :: rest) = some top.unclosed := by
  obtain ⟨b, hb⟩ := Option.isSome_iff_exists.1 h
  apply firstFailure?_of_step_eq_error
  rw [step_of_closes hb, if_neg]
  rintro rfl
  exact hother hb

/-! ## Fields -/

/-- A reading and a passage over the same tokens: both fail alike, or both leave the same tokens. -/
inductive Passes (carry : Carry) {α : Type} :
    Except Fault (α × List Token) → Except Failure (List RawToken) → Prop
  | refused (e : Fault) : Passes carry (.error e) (.error (e.inWords carry))
  | passed (a : α) (left : List RawToken) :
      Passes carry (.ok (a, left.map RawToken.token)) (.ok left)

theorem passes_charset (carry : Carry) (last : RawToken) (ts : List RawToken) :
    Passes carry (Charset.read last.token.stop (ts.map RawToken.token))
      (passCharset carry last ts) := by
  cases ts with
  | nil =>
    rw [passCharset, ← RawToken.inWords_missingCharset]
    exact .refused _
  | cons t rest =>
    rw [passCharset, List.map_cons, Charset.read, RawToken.token_text]
    cases hs : Charset.ofText? t.text with
    | some s =>
      have hmem : t.text ∈ Charset.names :=
        Charset.mem_names_iff.2 ⟨s, Charset.ofText?_eq_some_iff.1 hs⟩
      rw [if_pos hmem]
      exact .passed s rest
    | none =>
      rw [if_neg]
      · exact .refused _
      · intro hmem
        obtain ⟨s, hname⟩ := Charset.mem_names_iff.1 hmem
        rw [Charset.ofText?_eq_some_iff.2 hname] at hs
        cases hs

theorem passes_of_extent_eq_ok {n : UInt32} {x : Extent} {us : List Token}
    (h : Extent.read head.token n us = .ok (x, left.map RawToken.token))
    (hstop : x.stop = last.token.stop) :
    Passes carry (Field.read head.token n us) (passCharset carry last left) := by
  rw [Field.read, h]
  dsimp only
  rw [hstop]
  have hcharset := passes_charset carry last left
  generalize Charset.read last.token.stop (left.map RawToken.token) = r at hcharset ⊢
  generalize passCharset carry last left = w at hcharset ⊢
  cases hcharset with
  | refused e => exact .refused e
  | passed s left => exact .passed _ left

theorem passes_of_extent_eq_error {n : UInt32} {us : List Token} {e : Fault}
    (h : Extent.read head.token n us = .error e) :
    Passes carry (Field.read head.token n us) (.error (e.inWords carry)) := by
  rw [Field.read, h]
  exact .refused e

/-- The scan goes over a field as the parser does. -/
theorem passes_field (carry : Carry) (head : RawToken) (n : UInt32) (ts : List RawToken) :
    Passes carry (Field.read head.token n (ts.map RawToken.token)) (passField carry head ts) := by
  cases ts with
  | nil =>
    have hextent : Extent.read head.token n [] =
        .ok (⟨1, n, 1, head.token.stop⟩, ([] : List RawToken).map RawToken.token) := rfl
    exact passes_of_extent_eq_ok hextent rfl
  | cons t rest =>
    by_cases htimes : t.lexeme = .mark '*'
    · cases rest with
      | nil =>
        have hextent : Extent.read head.token n [t.token] =
            .error (.missingLength t.token.offset) := by
          simp [Extent.read, Token.isMark, htimes]
        rw [passField, if_pos htimes]
        exact passes_of_extent_eq_error hextent
      | cons bound rest =>
        rw [passField, if_pos htimes]
        cases hbound : bound.lexeme with
        | number m =>
          have hextent : Extent.read head.token n
              ((t :: bound :: rest).map RawToken.token) =
                .ok (⟨1, m, n, bound.token.stop⟩, rest.map RawToken.token) := by
            simp [Extent.read, Token.isMark, htimes, hbound]
          have hnumber : isNumber bound := by rw [isNumber, hbound]
          rw [if_pos hnumber]
          exact passes_of_extent_eq_ok hextent rfl
        | date | mark | sign | plain =>
          have hextent : Extent.read head.token n
              ((t :: bound :: rest).map RawToken.token) =
                .error (.missingLength t.token.offset) := by
            simp [Extent.read, Token.isMark, htimes, hbound]
          have hnumber : ¬ isNumber bound := by simp [isNumber, hbound]
          rw [if_neg hnumber]
          exact passes_of_extent_eq_error hextent
    · by_cases hfix : t.lexeme = .mark '!'
      · have hextent : Extent.read head.token n ((t :: rest).map RawToken.token) =
            .ok (⟨n, n, 1, t.token.stop⟩, rest.map RawToken.token) := by
          simp [Extent.read, Token.isMark, hfix]
        have hpass : passField carry head (t :: rest) = passCharset carry t rest := by
          simp [passField, hfix]
        rw [hpass]
        exact passes_of_extent_eq_ok hextent rfl
      · have hextent : Extent.read head.token n ((t :: rest).map RawToken.token) =
            .ok (⟨1, n, 1, head.token.stop⟩, (t :: rest).map RawToken.token) := by
          simp [Extent.read, Token.isMark, hfix, htimes]
        have hpass : passField carry head (t :: rest) = passCharset carry head (t :: rest) := by
          simp [passField, hfix, htimes]
        rw [hpass]
        exact passes_of_extent_eq_ok hextent rfl

/-! ## Parts -/

/-- From the tokens on, the scan meets the fault of a reading, or it goes on behind what is read
with the same brackets. No more than a number of tokens are left then. -/
inductive Follows (carry : Carry) (stack : List Opened) (ts : List RawToken) (bound : Nat)
    {α : Type} : Except Fault (α × List Token) → Prop
  | stops {e : Fault} (h : firstFailure? carry stack ts = some (e.inWords carry)) :
      Follows carry stack ts bound (.error e)
  | goesOn {a : α} {left : List RawToken} (hle : left.length ≤ bound)
      (h : firstFailure? carry stack ts = firstFailure? carry stack left) :
      Follows carry stack ts bound (.ok (a, left.map RawToken.token))

theorem Follows.eq_some {α : Type} {bound : Nat} {e : Fault}
    (h : Follows carry stack ts bound (.error e : Except Fault (α × List Token))) :
    firstFailure? carry stack ts = some (e.inWords carry) := by
  cases h with
  | stops h => exact h

theorem Follows.exists_left {α : Type} {bound : Nat} {a : α} {us : List Token}
    (h : Follows carry stack ts bound (.ok (a, us))) :
    ∃ left : List RawToken, us = left.map RawToken.token ∧ left.length ≤ bound ∧
      firstFailure? carry stack ts = firstFailure? carry stack left := by
  cases h with
  | goesOn hle h => exact ⟨_, rfl, hle, h⟩

theorem firstFailure?_dropWhile_isPlain (stack : List Opened) (ts : List RawToken) :
    firstFailure? carry stack (ts.dropWhile (Token.isPlain ∘ RawToken.token)) =
      firstFailure? carry stack ts := by
  induction ts with
  | nil => rfl
  | cons t ts ih =>
    by_cases ht : (Token.isPlain ∘ RawToken.token) t
    · obtain ⟨c, hc⟩ := Token.isPlain_iff.1 ht
      have hstep : step carry stack t ts = .ok (stack, ts) := by
        rw [step, ← RawToken.token_lexeme, hc]
      rw [List.dropWhile_cons_of_pos ht, ih, firstFailure?_of_step_eq_ok hstep]
    · rw [List.dropWhile_cons_of_neg ht]

theorem follows_literal (hstep : step carry stack t rest = .ok (stack, rest)) (text : String) :
    Follows carry stack (t :: rest) rest.length
      (.ok (Node.literal text, (rest.map RawToken.token).dropWhile Token.isPlain)) := by
  rw [List.dropWhile_map]
  refine .goesOn (List.dropWhile_sublist _).length_le ?_
  rw [firstFailure?_dropWhile_isPlain, firstFailure?_of_step_eq_ok hstep]

/-- At a part that is no group the scan meets the fault of the part, or it goes on behind it. -/
theorem follows_readPlain (stack : List Opened) (rest : List RawToken)
    (hc : ¬ t.token.closes?.isSome) (ho : t.token.opens? = none) :
    Follows carry stack (t :: rest) rest.length
      (Node.readPlain t.token (rest.map RawToken.token)) := by
  rw [Node.readPlain, RawToken.token_lexeme]
  cases ht : t.lexeme with
  | number n =>
    have hfield := passes_field carry t n rest
    have hstep : step carry stack t rest =
        (passField carry t rest).map fun left => (stack, left) := by rw [step, ht]
    dsimp only
    generalize Field.read t.token n (rest.map RawToken.token) = r at hfield ⊢
    cases hpass : passField carry t rest with
    | error x =>
      rw [hpass] at hfield hstep
      cases hfield
      exact .stops (firstFailure?_of_step_eq_error hstep)
    | ok left =>
      have hle := length_le_of_passField hpass
      rw [hpass] at hfield hstep
      cases hfield
      exact .goesOn hle (firstFailure?_of_step_eq_ok hstep)
  | date run => exact .goesOn le_rfl (firstFailure?_of_step_eq_ok (by rw [step, ht]))
  | sign => exact .goesOn le_rfl (firstFailure?_of_step_eq_ok (by rw [step, ht]))
  | plain c => exact follows_literal (by rw [step, ht]) _
  | mark c =>
    have hopen : Bracket.ofOpening? c = none := by simpa [Token.opens?, ht] using ho
    have hclose : Bracket.ofClosing? c = none := by simpa [Token.closes?, ht] using hc
    exact follows_literal (by simp [step, ht, hopen, hclose]) _

/-- At a part the scan meets the fault of the part, or it goes on behind the part. The bracket of a
group is on the stack while its content is read, and behind the group the stack is as before. -/
theorem follows_readPart (hc : ¬ t.token.closes?.isSome)
    (hcontent : ∀ stack, Follows carry stack rest rest.length
      (Node.readFront (capturing stack) (rest.map RawToken.token))) :
    Follows carry stack (t :: rest) rest.length
      (Node.readPart (capturing stack) t.token (rest.map RawToken.token)) := by
  cases ho : t.token.opens? with
  | none =>
    rw [Node.readPart_of_opens?_eq_none ho]
    exact follows_readPlain stack rest hc ho
  | some b =>
    rw [Node.readPart, ho]
    dsimp only
    by_cases hnested : capturing stack && b.captures
    · rw [if_pos hnested]
      refine .stops (firstFailure?_of_step_eq_error ?_)
      rw [step_of_opens ho, Bool.and_comm, if_pos hnested]
      rfl
    · rw [if_neg hnested]
      have hinner := hcontent (⟨b, t.offset⟩ :: stack)
      have hopened : firstFailure? carry stack (t :: rest) =
          firstFailure? carry (⟨b, t.offset⟩ :: stack) rest := firstFailure?_of_opens ho hnested
      rw [capturing_cons] at hinner
      generalize hread : Node.readFront (capturing stack || b.captures)
        (rest.map RawToken.token) = r at hinner ⊢
      cases hinner with
      | stops h => exact .stops (hopened.trans h)
      | @goesOn children left hle h =>
        cases left with
        | nil => exact .stops ((hopened.trans h).trans (firstFailure?_nil_cons _ stack))
        | cons u left =>
          simp only [List.map_cons]
          by_cases hu : u.token.closes? = some b
          · rw [if_pos hu]
            refine .goesOn (by simp at hle; omega) ?_
            rw [hopened, h]
            exact firstFailure?_of_closes hu
          · rw [if_neg hu]
            have hclose := Node.closes_of_readFront hread u.token rfl
            refine .stops ?_
            rw [hopened, h]
            exact firstFailure?_of_closes_other hclose hu

/-- The parser and the scan meet the same fault. Where the parser meets none, the scan goes on
behind the parts that were read with the same brackets. -/
theorem follows_readFront (ts : List RawToken) (stack : List Opened) :
    Follows carry stack ts ts.length
      (Node.readFront (capturing stack) (ts.map RawToken.token)) := by
  -- The flag of the parser is all that it knows of the stack.
  induction hk : ts.length using Nat.strong_induction_on generalizing ts stack with
  | _ k ih =>
    cases ts with
    | nil =>
      rw [List.map_nil, Node.readFront_nil]
      show Follows carry stack [] k (.ok ([], ([] : List RawToken).map RawToken.token))
      exact .goesOn (Nat.zero_le k) rfl
    | cons t rest =>
      have hlength : rest.length < k := by simp [← hk]
      by_cases hc : t.token.closes?.isSome
      · rw [List.map_cons, Node.readFront_of_closes hc, ← List.map_cons]
        exact .goesOn hk.le rfl
      · rw [List.map_cons, Node.readFront_of_not_closes hc]
        have hpart : Follows carry stack (t :: rest) rest.length
            (Node.readPart (capturing stack) t.token (rest.map RawToken.token)) :=
          follows_readPart hc fun stack => ih _ hlength rest stack rfl
        generalize Node.readPart (capturing stack) t.token (rest.map RawToken.token) = r at hpart ⊢
        cases hpart with
        | stops h => exact .stops h
        | @goesOn n left hle h =>
          have hothers := ih _ (by omega) left stack rfl
          dsimp only
          generalize Node.readFront (capturing stack) (left.map RawToken.token) = r at hothers ⊢
          cases hothers with
          | stops h' => exact .stops (h.trans h')
          | goesOn hle' h' => exact .goesOn (by omega) (h.trans h')

end FaultScan

/-! ## Layouts -/

namespace Layout

theorem firstFailure?_eq_of_ofRawTokens (carry : Carry) (ts : List RawToken) :
    FaultScan.firstFailure? carry [] ts =
      match ofRawTokens carry ts with
      | .error x => some x
      | .ok _ => none := by
  have hparts : FaultScan.Follows carry [] ts ts.length
      (Node.readFront false (ts.map RawToken.token)) := FaultScan.follows_readFront ts []
  rw [ofRawTokens]
  rcases ofTokens_cases (ts.map RawToken.token) with ⟨e, hread, htokens⟩ | ⟨ns, hread, htokens⟩ |
    ⟨ns, u, us, b, hread, hclose, htokens⟩
  · rw [hread] at hparts
    rw [htokens]
    exact hparts.eq_some
  · rw [hread] at hparts
    rw [htokens]
    obtain ⟨left, hleft, -, hscan⟩ := hparts.exists_left
    obtain rfl := List.map_eq_nil_iff.1 hleft.symm
    rw [hscan, FaultScan.firstFailure?_nil_nil]
  · -- Behind all parts of the top level no bracket is open.
    rw [hread] at hparts
    rw [htokens]
    obtain ⟨left, hleft, -, hscan⟩ := hparts.exists_left
    obtain ⟨t, left, rfl, rfl, -⟩ := List.map_eq_cons_iff.1 hleft.symm
    rw [hscan]
    exact FaultScan.firstFailure?_of_step_eq_error (FaultScan.step_of_stray hclose)

/-- The parser fails with the first failure that a single scan with a stack of open brackets meets,
and it succeeds if the scan meets none. If a carry is dropped, every failure is a fault. -/
theorem ofRawTokens_agrees_with_firstFailure? (carry : Carry) (ts : List RawToken) :
    (∀ x, ofRawTokens carry ts = .error x ↔ FaultScan.firstFailure? carry [] ts = some x) ∧
      ((∃ l, ofRawTokens carry ts = .ok l) ↔ FaultScan.firstFailure? carry [] ts = none) ∧
      ofRawTokens .dropped ts ≠ .error .overflow := by
  refine ⟨fun x => ?_, ?_, ?_⟩
  · rw [firstFailure?_eq_of_ofRawTokens]
    cases ofRawTokens carry ts <;> simp
  · rw [firstFailure?_eq_of_ofRawTokens]
    cases ofRawTokens carry ts <;> simp
  · rw [ofRawTokens]
    cases ofTokens (ts.map RawToken.token) with
    | error e => cases e <;> simp [Fault.inWords]
    | ok l => simp

/-- The fault in the field comes before the square bracket that the inner group is not closed by. -/
example : FaultScan.firstFailure? .trapped [] ((Token.scan "[(3*c]").map RawToken.ofToken) =
    some (.fault (.missingLength 3)) := by decide +kernel

/-- The number has the last offset of all, so the sum behind it needs a carry. -/
example :
    let ts : List RawToken := [⟨.mark '[', "[", 0⟩, ⟨.number 4, "4", 0xFFFFFFFFFFFFFFFF⟩]
    FaultScan.firstFailure? .dropped [] ts = some (.fault (.missingCharset 0)) ∧
      FaultScan.firstFailure? .trapped [] ts = some .overflow := by decide +kernel

end Layout

end FieldLayout
