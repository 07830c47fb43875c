import FieldLayout.Proofs.Layout.PartByPart
import FieldLayout.Proofs.Layout.WordPlaces

/-!
# Reading tokens by their places

The parser takes tokens off the front of a list. The same reading can be done over a fixed list with
a cursor: a place in the list is handed on from part to part, and tokens are looked up by their
places. Here no type keeps the cursor inside the list or makes it move on. A token that is asked for
where there is none stops the reading with a reason of its own. So does a part that leaves the
cursor where it was, which would be read again and again, and an end of the parts that nothing
accounts for.

None of this ever happens. The cursor starts inside the list, every part moves it on and leaves it
inside, and the parts end at the end or before a closing bracket. This holds for tokens made by
hand, whose texts and marks need not fit together. Their offsets are words, and the one thing that
can stop the reading is a carry where the offset behind a length is reported. The places in the list
are numbers: no token is looked up more than three places behind the cursor.

## Main definitions

* `Halt`, `Walk`: a reading that can fail, leave its bounds or make no progress.
* `TokenCursor.readSequence`, `TokenCursor.readLayout`: the reading by places.
* `TokenCursor.Agrees`: a reading by places and a reading from the front that come to the same.

## Main statements

* `TokenCursor.agrees_readItem`: one part moves the cursor on and leaves it inside.
* `TokenCursor.agrees_readSequence`: consecutive parts by places are those of the parser.
* `TokenCursor.readSequence_stays_in_bounds`: what this means for the cursor.
-/

namespace FieldLayout

/-! ## Reading by places -/

/-- Why a reading by places stops without a result. -/
inductive Halt where
  /-- The tokens give no layout. -/
  | failure (x : Failure)
  /-- A token is asked for where there is none. -/
  | outOfBounds (index : Nat)
  /-- A part leaves the cursor where it was. -/
  | standstill (index : Nat)
  /-- Parts end before a token that is no mark. -/
  | misplacedEnd (index : Nat)
  deriving DecidableEq, Repr

/-- A reading by places. -/
abbrev Walk (α : Type) : Type := Except Halt α

namespace Walk

/-- The reading ends with a result, with a fault of the tokens, or at a carry that stops it. So no
token was asked for where there is none, and no part was read in vain. -/
def EndsProperly {α : Type} (carry : Carry) (w : Walk α) : Prop :=
  (∃ a, w = pure a) ∨ (∃ e, w = throw (.failure (.fault e))) ∨
    carry = .trapped ∧ w = throw (.failure .overflow)

/-- A reading that stays in its bounds. -/
def ofExcept {α : Type} : Except Failure α → Walk α
  | .ok a => pure a
  | .error x => throw (.failure x)

/-- A reading from the front that leaves the last ones of a number of tokens. -/
def ofReading {α : Type} (carry : Carry) (length : Nat) :
    Except Fault (α × List Token) → Walk (α × Nat)
  | .ok (a, left) => pure (a, length - left.length)
  | .error e => throw (.failure (e.inWords carry))

end Walk

namespace TokenCursor

section

variable (carry : Carry) (ts : List RawToken)

/-- The token at a place, which has to be there. -/
def tokenAt (i : Nat) : Walk RawToken :=
  match ts[i]? with
  | some t => pure t
  | none => throw (.outOfBounds i)

/-- The tokens between two places, which have to be in order and not behind the end. -/
def slice (start stop : Nat) : Walk (List RawToken) :=
  if start ≤ stop ∧ stop ≤ ts.length then pure ((ts.take stop).drop start)
  else throw (.outOfBounds stop)

/-- The bounds and repeats of a field whose first number stands at a place, and the place of the
last length mark. -/
def readExtent (n : UInt32) (i : Nat) : Walk (UInt32 × UInt32 × UInt32 × Nat) :=
  match ts[i + 1]?.map RawToken.lexeme with
  | some (.mark '!') => pure (n, n, 1, i + 1)
  | some (.mark '*') =>
    match ts[i + 2]?.map RawToken.lexeme with
    | some (.number m) => pure (1, m, n, i + 2)
    | _ => do
      let t ← tokenAt ts (i + 1)
      throw (.failure (.fault (.missingLength t.offset.toNat)))
  | _ => pure (1, n, 1, i)

/-- A field whose first number stands at a place, and the place behind it. -/
def readField (n : UInt32) (i : Nat) : Walk (Node × Nat) := do
  let (min, max, repeats, last) ← readExtent ts n i
  match ts[last + 1]? with
  | none =>
    let t ← tokenAt ts last
    throw (.failure (t.missingCharset carry))
  | some t =>
    match Charset.ofText? t.text with
    | some s => pure (.field ⟨min, max, s, repeats⟩, last + 2)
    | none => throw (.failure (.fault (.unknownCharset t.text t.offset.toNat)))

/-- A literal that starts at a place, and the place behind it. -/
def readLiteral (i : Nat) : Walk (Node × Nat) := do
  let others ← slice ts (i + 1) ts.length
  let stop :=
    match others.findIdx? fun t => !t.token.isPlain with
    | some k => i + 1 + k
    | none => ts.length
  let used ← slice ts i stop
  pure (.literal (Token.join (used.map RawToken.token)), stop)

mutual

/-- A group whose opening bracket stands at a place, and the place behind it. -/
def readGroup (b : Bracket) (i : Nat) (inCapture : Bool) : Walk (Node × Nat) :=
  if _hi : i < ts.length then
    if inCapture && b.captures then
      throw (.failure (.fault (.nestedCapture b.opening (some ts[i].offset.toNat))))
    else do
      let (children, stop) ← readSequence (i + 1) (inCapture || b.captures)
      match ts[stop]? with
      | some u =>
        if u.token.isMark b.closing then pure (.group b children, stop + 1)
        else throw (.failure (.fault (.unclosedGroup b.closing ts[i].offset.toNat)))
      | none => throw (.failure (.fault (.unclosedGroup b.closing ts[i].offset.toNat)))
  else throw (.outOfBounds i)
termination_by 3 * (ts.length - i)

/-- The part that starts with the token at a place, and the place behind it. -/
def readItem (t : RawToken) (i : Nat) (inCapture : Bool) : Walk (Node × Nat) :=
  match t.lexeme with
  | .number n => readField carry ts n i
  | .date run => pure (.date run, i + 1)
  | .sign => pure (.sign, i + 1)
  | .mark c =>
    match Bracket.ofOpening? c with
    | some b => readGroup b i inCapture
    | none => readLiteral ts i
  | .plain _ => readLiteral ts i
termination_by 3 * (ts.length - i) + 1

/-- The parts from a place on, up to the end or to a closing bracket, and the place behind them. -/
def readSequence (i : Nat) (inCapture : Bool) : Walk (List Node × Nat) :=
  match _hi : ts[i]? with
  | none => pure ([], i)
  | some t =>
    if t.token.closes?.isSome then pure ([], i)
    else do
      let (n, next) ← readItem t i inCapture
      if _hnext : i < next then
        let (ns, stop) ← readSequence next inCapture
        pure (n :: ns, stop)
      else throw (.standstill i)
termination_by 3 * (ts.length - i) + 2
decreasing_by
  · omega
  · have hlt := (List.getElem?_eq_some_iff.1 _hi).1
    omega

end

/-- The layout of all tokens. -/
def readLayout : Walk Layout := do
  let (nodes, stop) ← readSequence carry ts 0 false
  match ts[stop]? with
  | none => pure ⟨nodes⟩
  | some t =>
    match t.lexeme with
    | .mark c => throw (.failure (.fault (.strayCloser c t.offset.toNat)))
    | _ => throw (.misplacedEnd stop)

/-! ## Agreement -/

/-- The tokens from a place on. -/
def rest (i : Nat) : List Token := (ts.drop i).map RawToken.token

/-- A reading of the tokens from a place on and a reading by places that come to the same: the same
failure, or the same result and the same tokens left, not before a given place. -/
inductive Agrees {α : Type} (low : Nat) : Except Fault (α × List Token) → Walk (α × Nat) → Prop
  | found {a : α} {stop : Nat} (hlow : low ≤ stop) (hstop : stop ≤ ts.length) :
      Agrees low (.ok (a, rest ts stop)) (pure (a, stop))
  | refused (e : Fault) : Agrees low (.error e) (throw (.failure (e.inWords carry)))

end

variable {carry : Carry} {ts : List RawToken} {i : Nat} {n : UInt32} {head : RawToken}

theorem tokenAt_eq (h : ts[i]? = some head) : tokenAt ts i = pure head := by
  rw [tokenAt, h]

theorem rest_eq_nil (h : ts[i]? = none) : rest ts i = [] := by
  rw [rest, List.drop_of_length_le (List.getElem?_eq_none_iff.1 h), List.map_nil]

theorem rest_eq_cons (h : ts[i]? = some head) : rest ts i = head.token :: rest ts (i + 1) := by
  obtain ⟨hlt, rfl⟩ := List.getElem?_eq_some_iff.1 h
  rw [rest, List.drop_eq_getElem_cons hlt, List.map_cons]
  rfl

theorem lt_length_of_getElem? (h : ts[i]? = some head) : i < ts.length :=
  (List.getElem?_eq_some_iff.1 h).1

/-- The length marks by place. The last one is where the fault of a missing set is reported. -/
theorem readExtent_eq (carry : Carry) (n : UInt32) (hi : ts[i]? = some head) :
    (∃ e, Extent.read head.token n (rest ts (i + 1)) = .error e ∧
      readExtent ts n i = throw (.failure (e.inWords carry))) ∨
    ∃ x last t, Extent.read head.token n (rest ts (i + 1)) = .ok (x, rest ts (last + 1)) ∧
      i ≤ last ∧ ts[last]? = some t ∧ t.token.stop = x.stop ∧
      readExtent ts n i = pure (x.min, x.max, x.repeats, last) := by
  rw [readExtent]
  cases hu : ts[i + 1]? with
  | none => exact .inr ⟨_, i, head, by rw [rest_eq_nil hu]; rfl, le_rfl, hi, rfl, rfl⟩
  | some u =>
    have hus := rest_eq_cons hu
    by_cases hfix : u.lexeme = .mark '!'
    · refine .inr ⟨⟨n, n, 1, u.token.stop⟩, i + 1, u, ?_, by omega, hu, rfl, ?_⟩
      · simp [Extent.read, Token.isMark, hfix, hus]
      · simp [hfix]
    by_cases htimes : u.lexeme = .mark '*'
    · cases hv : ts[i + 2]? with
      | none =>
        refine .inl ⟨.missingLength u.token.offset, ?_, ?_⟩
        · simp [Extent.read, Token.isMark, htimes, hus, rest_eq_nil hv]
        · simp [htimes, tokenAt_eq hu, Fault.inWords]
      | some v =>
        have hvs := rest_eq_cons hv
        cases hm : v.lexeme with
        | number m =>
          refine .inr ⟨⟨1, m, n, v.token.stop⟩, i + 2, v, ?_, by omega, hv, rfl, ?_⟩
          · simp [Extent.read, Token.isMark, htimes, hm, hus, hvs]
          · simp [htimes, hm]
        | date | mark | sign | plain =>
          refine .inl ⟨.missingLength u.token.offset, ?_, ?_⟩
          · simp [Extent.read, Token.isMark, htimes, hm, hus, hvs]
          · simp [htimes, hm, tokenAt_eq hu, Fault.inWords]
    · refine .inr ⟨⟨1, n, 1, head.token.stop⟩, i, head, ?_, le_rfl, hi, rfl, ?_⟩
      · simp [Extent.read, Token.isMark, hfix, htimes, hus]
      · simp [hfix, htimes]

theorem agrees_readField (hi : ts[i]? = some head) (hn : head.lexeme = .number n) :
    Agrees carry ts (i + 1) (Node.readPlain head.token (rest ts (i + 1)))
      (readField carry ts n i) := by
  rw [Node.readPlain, RawToken.token_lexeme, hn, readField]
  dsimp only
  rw [Field.read]
  rcases readExtent_eq carry n hi with
    ⟨e, hread, hwalk⟩ | ⟨x, last, t, hread, hlast, ht, hstop, hwalk⟩
  · rw [hread, hwalk]
    exact .refused e
  · rw [hread, hwalk]
    dsimp only
    rw [pure_bind]
    dsimp only
    cases hu : ts[last + 1]? with
    | none =>
      rw [rest_eq_nil hu]
      simp only [Charset.read, tokenAt_eq ht, pure_bind, ← hstop]
      rw [← RawToken.inWords_missingCharset]
      exact .refused _
    | some u =>
      have hlt := lt_length_of_getElem? hu
      rw [rest_eq_cons hu]
      simp only [Charset.read, RawToken.token_text]
      cases hset : Charset.ofText? u.text with
      | none => exact .refused (.unknownCharset u.text u.token.offset)
      | some s => exact .found (by omega) (by omega)

theorem slice_eq {start stop : Nat} (h : start ≤ stop) (hstop : stop ≤ ts.length) :
    slice ts start stop = pure ((ts.take stop).drop start) := by
  rw [slice, if_pos ⟨h, hstop⟩]

theorem agrees_readLiteral (hi : ts[i]? = some head) :
    Agrees carry ts (i + 1) (.ok (.literal (head.text ++
      Token.join ((rest ts (i + 1)).takeWhile Token.isPlain)),
      (rest ts (i + 1)).dropWhile Token.isPlain)) (readLiteral ts i) := by
  have hlt := lt_length_of_getElem? hi
  have hlength : (ts.drop (i + 1)).length = ts.length - (i + 1) := List.length_drop
  obtain ⟨k, hk⟩ : ∃ k, k = (ts.drop (i + 1)).findIdx fun t => !t.token.isPlain := ⟨_, rfl⟩
  have hle : k ≤ (ts.drop (i + 1)).length := hk ▸ List.findIdx_le_length
  -- Where nothing else stands behind the literal, the run ends at the end.
  have hstop : (match (ts.drop (i + 1)).findIdx? fun t => !t.token.isPlain with
      | some k => i + 1 + k
      | none => ts.length) = i + 1 + k := by
    split
    · next m hm => rw [hk, (List.findIdx?_eq_some_iff_findIdx_eq.1 hm).2]
    · next hm =>
      have hend := List.findIdx?_eq_none_iff_findIdx_eq.1 hm
      omega
  have hothers : slice ts (i + 1) ts.length = pure (ts.drop (i + 1)) := by
    rw [slice_eq hlt le_rfl, List.take_length]
  have hused : slice ts i (i + 1 + k) = pure (head :: (ts.drop (i + 1)).take k) := by
    obtain ⟨_, rfl⟩ := List.getElem?_eq_some_iff.1 hi
    have hcount : i + 1 + k - i = k + 1 := by omega
    rw [slice_eq (by omega) (by omega), List.drop_take, List.drop_eq_getElem_cons hlt, hcount,
      List.take_succ_cons]
  have hrun : (rest ts (i + 1)).takeWhile Token.isPlain =
      ((ts.drop (i + 1)).take k).map RawToken.token := by
    rw [rest, List.takeWhile_map, List.takeWhile_eq_take_findIdx_not, hk]
    rfl
  have hbehind : (rest ts (i + 1)).dropWhile Token.isPlain = rest ts (i + 1 + k) := by
    rw [rest, List.dropWhile_map, List.dropWhile_eq_drop_findIdx_not, List.drop_drop, rest, hk]
    rfl
  rw [readLiteral, hothers, pure_bind]
  dsimp only
  rw [hstop, hused, pure_bind, hrun, hbehind]
  exact .found (by omega) (by omega)

variable {inCapture : Bool}

theorem agrees_readGroup {b : Bracket} (hi : ts[i]? = some head) (hb : head.token.opens? = some b)
    (hcontent : Agrees carry ts (i + 1)
      (Node.readFront (inCapture || b.captures) (rest ts (i + 1)))
      (readSequence carry ts (i + 1) (inCapture || b.captures))) :
    Agrees carry ts (i + 1) (Node.readPart inCapture head.token (rest ts (i + 1)))
      (readGroup carry ts b i inCapture) := by
  obtain ⟨hlt, rfl⟩ := List.getElem?_eq_some_iff.1 hi
  rw [Node.readPart, hb, readGroup, dif_pos hlt]
  dsimp only
  by_cases hnested : inCapture && b.captures
  · rw [if_pos hnested, if_pos hnested]
    exact .refused _
  · rw [if_neg hnested, if_neg hnested]
    generalize Node.readFront (inCapture || b.captures) (rest ts (i + 1)) = x at hcontent ⊢
    generalize readSequence carry ts (i + 1) (inCapture || b.captures) = w at hcontent ⊢
    cases hcontent with
    | refused e => exact .refused e
    | @found children stop hlow hstop =>
      have hunclosed : Agrees carry ts (i + 1)
          (.error (.unclosedGroup b.closing ts[i].token.offset) : Except Fault (Node × List Token))
          (throw (.failure (.fault (.unclosedGroup b.closing ts[i].offset.toNat)))) := .refused _
      rw [pure_bind]
      dsimp only
      cases hu : ts[stop]? with
      | none =>
        rw [rest_eq_nil hu]
        exact hunclosed
      | some u =>
        have hend := lt_length_of_getElem? hu
        have hmark : u.token.isMark b.closing ↔ u.token.closes? = some b :=
          Token.isMark_iff.trans Token.closes?_eq_some_iff.symm
        rw [rest_eq_cons hu]
        simp only [hmark]
        by_cases hcloses : u.token.closes? = some b
        · rw [if_pos hcloses, if_pos hcloses]
          exact .found (by omega) (by omega)
        · rw [if_neg hcloses, if_neg hcloses]
          exact hunclosed

/-- A part by places is the part that is read, and it ends behind its first token. -/
theorem agrees_readItem (hi : ts[i]? = some head)
    (hcontent : ∀ flag, Agrees carry ts (i + 1) (Node.readFront flag (rest ts (i + 1)))
      (readSequence carry ts (i + 1) flag)) :
    Agrees carry ts (i + 1) (Node.readPart inCapture head.token (rest ts (i + 1)))
      (readItem carry ts head i inCapture) := by
  have hlt := lt_length_of_getElem? hi
  rw [readItem]
  -- A token that opens no group is left to the readers of single parts.
  have hplain (hno : head.token.opens? = none) {w : Walk (Node × Nat)}
      (h : Agrees carry ts (i + 1) (Node.readPlain head.token (rest ts (i + 1))) w) :
      Agrees carry ts (i + 1) (Node.readPart inCapture head.token (rest ts (i + 1))) w := by
    rwa [Node.readPart_of_opens?_eq_none hno]
  cases hlexeme : head.lexeme with
  | number n => exact hplain (by simp [Token.opens?, hlexeme]) (agrees_readField hi hlexeme)
  | date run | sign =>
    apply hplain (by simp [Token.opens?, hlexeme])
    rw [Node.readPlain, RawToken.token_lexeme, hlexeme]
    exact .found le_rfl hlt
  | plain c =>
    apply hplain (by simp [Token.opens?, hlexeme])
    rw [Node.readPlain, RawToken.token_lexeme, hlexeme]
    exact agrees_readLiteral hi
  | mark c =>
    dsimp only
    cases hb : Bracket.ofOpening? c with
    | some b =>
      have hopens : head.token.opens? = some b := by simpa [Token.opens?, hlexeme] using hb
      exact agrees_readGroup hi hopens (hcontent _)
    | none =>
      apply hplain (by simpa [Token.opens?, hlexeme] using hb)
      rw [Node.readPlain, RawToken.token_lexeme, hlexeme]
      exact agrees_readLiteral hi

/-- Parts by places are the parts that are read. -/
theorem agrees_readSequence (carry : Carry) (h : i ≤ ts.length) (inCapture : Bool) :
    Agrees carry ts i (Node.readFront inCapture (rest ts i))
      (readSequence carry ts i inCapture) := by
  induction hk : ts.length - i using Nat.strong_induction_on generalizing i inCapture with
  | _ k ih =>
    rw [readSequence]
    cases hi : ts[i]? with
    | none =>
      rw [rest_eq_nil hi, Node.readFront_nil, ← rest_eq_nil hi]
      exact .found le_rfl h
    | some t =>
      have hlt := lt_length_of_getElem? hi
      dsimp only
      by_cases hc : t.token.closes?.isSome
      · rw [if_pos hc, rest_eq_cons hi, Node.readFront_of_closes hc, ← rest_eq_cons hi]
        exact .found le_rfl h
      · rw [if_neg hc, rest_eq_cons hi, Node.readFront_of_not_closes hc]
        have hitem : Agrees carry ts (i + 1) (Node.readPart inCapture t.token (rest ts (i + 1)))
            (readItem carry ts t i inCapture) :=
          agrees_readItem hi fun flag => ih _ (by omega) hlt flag rfl
        generalize Node.readPart inCapture t.token (rest ts (i + 1)) = x at hitem ⊢
        generalize readItem carry ts t i inCapture = w at hitem ⊢
        cases hitem with
        | refused e => exact .refused e
        | @found n next hlow hnext =>
          have hothers := ih _ (by omega) hnext inCapture rfl
          rw [pure_bind]
          dsimp only
          rw [dif_pos (Nat.lt_of_succ_le hlow)]
          generalize Node.readFront inCapture (rest ts next) = x at hothers ⊢
          generalize readSequence carry ts next inCapture = w at hothers ⊢
          cases hothers with
          | refused e => exact .refused e
          | found hlow' hstop => exact .found (by omega) hstop

/-! ## Bounds -/

variable {α : Type} {low stop : Nat} {a : α} {x : Except Fault (α × List Token)}
  {w : Walk (α × Nat)}

theorem Agrees.endsProperly (h : Agrees carry ts low x w) : w.EndsProperly carry := by
  cases h with
  | found => exact .inl ⟨_, rfl⟩
  | refused e =>
    cases hx : e.inWords carry with
    | fault e => exact .inr (.inl ⟨e, rfl⟩)
    | overflow => exact .inr (.inr ⟨(Fault.inWords_eq_overflow_iff.1 hx).1, rfl⟩)

theorem Agrees.overflow_iff (h : Agrees carry ts low x w) :
    w = throw (.failure .overflow) ↔
      carry = .trapped ∧ ∃ n, UInt64.size ≤ n ∧ x = .error (.missingCharset n) := by
  cases h with
  | found => exact iff_of_false nofun (by simp)
  | refused e =>
    have hthrow : (throw (.failure (e.inWords carry)) : Walk (α × Nat)) =
        throw (.failure .overflow) ↔ e.inWords carry = .overflow :=
      ⟨fun h => Halt.failure.inj (Except.error.inj h), fun h => by rw [h]⟩
    rw [hthrow, Fault.inWords_eq_overflow_iff]
    simp

theorem Agrees.eq_throw {e : Fault} (h : Agrees carry ts low (.error e) w) :
    w = throw (.failure (e.inWords carry)) := by
  cases h
  rfl

theorem Agrees.eq_pure {left : List Token} (h : Agrees carry ts low (.ok (a, left)) w) :
    ∃ stop, left = rest ts stop ∧ w = pure (a, stop) := by
  cases h
  exact ⟨_, rfl, rfl⟩

theorem Agrees.bounds (h : Agrees carry ts low x w) (hw : w = pure (a, stop)) :
    low ≤ stop ∧ stop ≤ ts.length ∧ x = .ok (a, rest ts stop) := by
  cases h with
  | found hlow hstop =>
    cases Except.ok.inj hw
    exact ⟨hlow, hstop, rfl⟩
  | refused e => cases hw

theorem Agrees.eq_ofReading (h : Agrees carry ts low x w) :
    w = .ofReading carry ts.length x := by
  cases h with
  | found hlow hstop =>
    rw [Walk.ofReading, rest, List.length_map, List.length_drop]
    congr 2
    omega
  | refused e => rfl

theorem exists_closing_of_readFront {us : List Token} {ns : List Node} (hstop : stop ≤ ts.length)
    (h : Node.readFront inCapture us = .ok (ns, rest ts stop)) :
    stop = ts.length ∨ ∃ t b, ts[stop]? = some t ∧ t.lexeme = .mark (Bracket.closing b) := by
  cases ht : ts[stop]? with
  | none =>
    have hend := List.getElem?_eq_none_iff.1 ht
    exact .inl (by omega)
  | some t =>
    have hcloses := Node.closes_of_readFront h t.token (by rw [rest_eq_cons ht]; rfl)
    obtain ⟨b, hb⟩ := Option.isSome_iff_exists.1 hcloses
    exact .inr ⟨t, b, rfl, Token.closes?_eq_some_iff.1 hb⟩

/-- All tokens by place. Parts never end before a token that is no mark. -/
theorem readLayout_eq (carry : Carry) (ts : List RawToken) :
    readLayout carry ts = .ofExcept (Layout.ofRawTokens carry ts) := by
  have hparts : Agrees carry ts 0 (Node.readFront false (ts.map RawToken.token))
      (readSequence carry ts 0 false) := agrees_readSequence carry (Nat.zero_le ts.length) false
  rw [readLayout, Layout.ofRawTokens]
  rcases Layout.ofTokens_cases (ts.map RawToken.token) with ⟨e, hread, htokens⟩ |
    ⟨ns, hread, htokens⟩ | ⟨ns, u, us, b, hread, hclose, htokens⟩
  · rw [hread] at hparts
    rw [htokens, hparts.eq_throw]
    rfl
  · rw [hread] at hparts
    obtain ⟨stop, hrest, hstop⟩ := hparts.eq_pure
    rw [htokens, hstop, pure_bind]
    dsimp only
    cases ht : ts[stop]? with
    | none => rfl
    | some t => cases hrest.trans (rest_eq_cons ht)
  · rw [hread] at hparts
    obtain ⟨stop, hrest, hstop⟩ := hparts.eq_pure
    rw [htokens, hstop, pure_bind]
    dsimp only
    cases ht : ts[stop]? with
    | none => cases hrest.trans (rest_eq_nil ht)
    | some t =>
      cases hrest.trans (rest_eq_cons ht)
      have hmark : t.lexeme = .mark b.closing := Token.closes?_eq_some_iff.1 hclose
      simp only [hmark]
      rfl

/-- From any place inside the list a reading by places comes to an end without leaving the list. A
part moves the cursor on and not past the end, and the parts end at the end or before a closing
bracket. A carry stops the reading only if it is trapped, and only where the offset behind a length
needs more than 64 bits. So the reading is that of the parser, and it never comes to a misplaced
end. -/
theorem readSequence_stays_in_bounds (carry : Carry) (ts : List RawToken) {i : Nat}
    (hi : i ≤ ts.length) (inCapture : Bool) :
    (readSequence carry ts i inCapture).EndsProperly carry ∧
      (∀ t, ts[i]? = some t → (readItem carry ts t i inCapture).EndsProperly carry ∧
        ∀ n next, readItem carry ts t i inCapture = pure (n, next) →
          i < next ∧ next ≤ ts.length) ∧
      (∀ ns stop, readSequence carry ts i inCapture = pure (ns, stop) →
        i ≤ stop ∧ stop ≤ ts.length ∧
          (stop = ts.length ∨
            ∃ t b, ts[stop]? = some t ∧ t.lexeme = .mark (Bracket.closing b))) ∧
      (readSequence carry ts i inCapture = throw (.failure .overflow) ↔
        carry = .trapped ∧ ∃ n, UInt64.size ≤ n ∧
          Node.readFront inCapture ((ts.drop i).map RawToken.token) =
            .error (.missingCharset n)) ∧
      readSequence carry ts i inCapture = .ofReading carry ts.length
        (Node.readFront inCapture ((ts.drop i).map RawToken.token)) ∧
      readLayout carry ts = .ofExcept (Layout.ofRawTokens carry ts) := by
  have hparts := agrees_readSequence carry hi inCapture
  refine ⟨hparts.endsProperly, fun t ht => ?_, fun ns stop hstop => ?_, hparts.overflow_iff,
    hparts.eq_ofReading, readLayout_eq carry ts⟩
  · have hlt := lt_length_of_getElem? ht
    have hitem : Agrees carry ts (i + 1) (Node.readPart inCapture t.token (rest ts (i + 1)))
        (readItem carry ts t i inCapture) := agrees_readItem ht (agrees_readSequence carry hlt)
    refine ⟨hitem.endsProperly, fun n next hnext => ?_⟩
    obtain ⟨hlow, hle, -⟩ := hitem.bounds hnext
    exact ⟨hlow, hle⟩
  · obtain ⟨hlow, hle, hfront⟩ := hparts.bounds hstop
    exact ⟨hlow, hle, exists_closing_of_readFront hle hfront⟩

/-- Inside a capturing group, a number is followed by a mark whose text names a set, and a closing
bracket of another kind ends the parts. The first token is left out. A number with the last offset
of all and nothing behind it needs a carry. -/
theorem readSequence_stays_in_bounds_closer :
    let ts : List RawToken := [⟨.mark '[', "(", 9⟩, ⟨.number 3, "", 0⟩, ⟨.mark '?', "n", 7⟩,
      ⟨.mark ')', "x", 1⟩]
    let us : List RawToken := [⟨.number 4, "4", 0xFFFFFFFFFFFFFFFF⟩]
    readSequence .trapped ts 1 true = pure ([.field ⟨1, 3, .digits, 1⟩], 3) ∧ 3 ≤ ts.length ∧
      readLayout .trapped ts = throw (.failure (.fault (.unclosedGroup ']' 9))) ∧
      readSequence .trapped us 0 false = throw (.failure .overflow) ∧
      readSequence .dropped us 0 false = throw (.failure (.fault (.missingCharset 0))) := by
  intro ts us
  have hread : Node.readFront true ((ts.drop 1).map RawToken.token) =
      .ok ([.field ⟨1, 3, .digits, 1⟩], [⟨.mark ')', "x", 1⟩]) := by decide +kernel
  have hlayout : Layout.ofRawTokens .trapped ts = .error (.fault (.unclosedGroup ']' 9)) := by
    decide +kernel
  have hlast : Node.readFront false ((us.drop 0).map RawToken.token) =
      .error (.missingCharset UInt64.size) := by decide +kernel
  obtain ⟨-, -, hbounds, -, hsame, hall⟩ :=
    readSequence_stays_in_bounds .trapped ts (i := 1) (by decide) true
  obtain ⟨-, -, -, hoverflow, -, -⟩ :=
    readSequence_stays_in_bounds .trapped us (i := 0) (by decide) false
  obtain ⟨-, -, -, -, hwrapped, -⟩ :=
    readSequence_stays_in_bounds .dropped us (i := 0) (by decide) false
  rw [hread] at hsame
  rw [hlayout] at hall
  rw [hlast] at hwrapped
  exact ⟨hsame, (hbounds _ _ hsame).2.1, hall, hoverflow.2 ⟨rfl, _, le_rfl, hlast⟩, hwrapped⟩

end TokenCursor

end FieldLayout
