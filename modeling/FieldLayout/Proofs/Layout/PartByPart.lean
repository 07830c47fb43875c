import FieldLayout.Proofs.Layout.Grammar

/-!
# Reading part by part

The parser reads a part and the parts behind it in one recursion. Here the two are taken apart:
consecutive parts are the first part and then the others. What is proved of the parser can then be
proved of one part, given what is known of its content.

## Main definitions

* `Node.readPart`: the part that starts with a token.
* `Node.readFront`: consecutive parts, without the proofs that the parser carries along.

## Main statements

* `Node.readFront_of_not_closes`: the first part is read, then the others.
* `Node.readFront_eq_error_of_content`, `Node.readFront_eq_error_of_group`: a fault comes up through
  the groups around it, and past those before it.
* `Layout.ofTokens_cases`: how a list of tokens is read.
-/

namespace FieldLayout

namespace Node

variable {inCapture : Bool} {t : Token} {ts rest left : List Token} {ns : List Node}

/-- The parts at the front of tokens and the tokens behind them. -/
def readFront (inCapture : Bool) (ts : List Token) : Except Fault (List Node × List Token) :=
  (readList inCapture ts).map (·.1)

/-- The part that starts with a token and the tokens behind it. -/
def readPart (inCapture : Bool) (t : Token) (ts : List Token) : Except Fault (Node × List Token) :=
  match t.opens? with
  | none => readPlain t ts
  | some b =>
    if inCapture && b.captures then .error (.nestedCapture b.opening (some t.offset))
    else
      match readFront (inCapture || b.captures) ts with
      | .error e => .error e
      | .ok (_, []) => .error (.unclosedGroup b.closing t.offset)
      | .ok (children, u :: inner) =>
        if u.closes? = some b then .ok (.group b children, inner)
        else .error (.unclosedGroup b.closing t.offset)

theorem readPart_of_opens?_eq_none (h : t.opens? = none) :
    readPart inCapture t rest = readPlain t rest := by
  rw [readPart, h]

theorem readFront_nil : readFront inCapture [] = .ok ([], []) := by
  rw [readFront, readList]
  rfl

theorem readFront_of_closes (h : t.closes?.isSome) :
    readFront inCapture (t :: rest) = .ok ([], t :: rest) := by
  rw [readFront, readList, dif_pos h]
  rfl

/-- The first part is read, then the others. -/
theorem readFront_of_not_closes (h : ¬ t.closes?.isSome) :
    readFront inCapture (t :: rest) = match readPart inCapture t rest with
      | .error e => .error e
      | .ok (n, inner) => (readFront inCapture inner).map fun r => (n :: r.1, r.2) := by
  rw [readFront, readList, dif_neg h, readPart]
  cases ho : t.opens? with
  | none =>
    dsimp only
    split
    · next e he =>
      rw [he]
      rfl
    · next n inner hn =>
      simp only [hn, readFront]
      cases readList inCapture inner <;> rfl
  | some b =>
    dsimp only
    by_cases hnested : inCapture && b.captures
    · rw [if_pos hnested, if_pos hnested]
      rfl
    · rw [if_neg hnested, if_neg hnested, readFront]
      cases readList (inCapture || b.captures) rest with
      | error e => rfl
      | ok r =>
        obtain ⟨⟨children, left⟩, hleft⟩ := r
        cases left with
        | nil => rfl
        | cons u inner =>
          simp only [Except.map]
          by_cases hu : u.closes? = some b
          · rw [if_pos hu, if_pos hu]
            dsimp only
            rw [readFront]
            cases readList inCapture inner <;> rfl
          · rw [if_neg hu, if_neg hu]

/-! ## Faults -/

variable {e : Fault} {inner : List Token} {b : Bracket}

theorem readFront_eq_error_of_readPart (ht : ¬ t.closes?.isSome)
    (h : readPart inCapture t rest = .error e) : readFront inCapture (t :: rest) = .error e := by
  rw [readFront_of_not_closes ht, h]

/-- A fault behind the first part is the fault of all. -/
theorem readFront_eq_error_of_others {n : Node} (ht : ¬ t.closes?.isSome)
    (hn : readPart inCapture t rest = .ok (n, inner)) (h : readFront inCapture inner = .error e) :
    readFront inCapture (t :: rest) = .error e := by
  rw [readFront_of_not_closes ht, hn]
  dsimp only
  rw [h]
  rfl

theorem readFront_eq_error_of_readPlain {n : Node} (ht : t.IsNoBracket)
    (hn : readPlain t rest = .ok (n, inner)) (h : readFront inCapture inner = .error e) :
    readFront inCapture (t :: rest) = .error e := by
  have hpart : readPart inCapture t rest = .ok (n, inner) := by
    rw [readPart_of_opens?_eq_none ht.opens?_eq_none]
    exact hn
  exact readFront_eq_error_of_others ht.not_closes hpart h

theorem not_closes_of_opens (ho : t.opens? = some b) : ¬ t.closes?.isSome := by
  rw [Token.closes?_eq_none_of_opens? ho]
  exact Bool.false_ne_true

theorem readFront_of_nested (ho : t.opens? = some b) (hnested : inCapture && b.captures) :
    readFront inCapture (t :: rest) = .error (.nestedCapture b.opening (some t.offset)) := by
  apply readFront_eq_error_of_readPart (not_closes_of_opens ho)
  rw [readPart, ho]
  dsimp only
  rw [if_pos hnested]

/-- A fault in the content of a group comes up through the group. -/
theorem readFront_eq_error_of_content (ho : t.opens? = some b)
    (hflat : ¬ (inCapture && b.captures))
    (h : readFront (inCapture || b.captures) rest = .error e) :
    readFront inCapture (t :: rest) = .error e := by
  apply readFront_eq_error_of_readPart (not_closes_of_opens ho)
  rw [readPart, ho]
  dsimp only
  rw [if_neg hflat, h]

/-- A fault behind a group is the fault of all. -/
theorem readFront_eq_error_of_group {u : Token} {children : List Node} (ho : t.opens? = some b)
    (hflat : ¬ (inCapture && b.captures)) (hu : u.closes? = some b)
    (hcontent : readFront (inCapture || b.captures) rest = .ok (children, u :: inner))
    (h : readFront inCapture inner = .error e) : readFront inCapture (t :: rest) = .error e := by
  have hgroup : readPart inCapture t rest = .ok (.group b children, inner) := by
    rw [readPart, ho]
    dsimp only
    rw [if_neg hflat, hcontent]
    dsimp only
    rw [if_pos hu]
  exact readFront_eq_error_of_others (not_closes_of_opens ho) hgroup h

/-! ## What is left -/

/-- What is left of the tokens starts with a closing bracket. -/
theorem closes_of_readFront (h : readFront inCapture ts = .ok (ns, left)) :
    ∀ t ∈ left.head?, t.closes?.isSome := by
  have hreads : Reads inCapture ts ns left := h
  exact hreads.sound.2.1

end Node

/-- How a list of tokens is read: the parts have a fault, or all tokens are read, or a closing
bracket is left. -/
theorem Layout.ofTokens_cases (ts : List Token) :
    (∃ e, Node.readFront false ts = .error e ∧ ofTokens ts = .error e) ∨
    (∃ ns, Node.readFront false ts = .ok (ns, []) ∧ ofTokens ts = .ok ⟨ns⟩) ∨
    ∃ ns t left b, Node.readFront false ts = .ok (ns, t :: left) ∧ t.closes? = some b ∧
      ofTokens ts = .error (.strayCloser b.closing t.offset) := by
  rw [ofTokens, Node.readFront]
  cases Node.readList false ts with
  | error e => exact .inl ⟨e, rfl, rfl⟩
  | ok r =>
    obtain ⟨⟨ns, left⟩, hleft⟩ := r
    cases left with
    | nil => exact .inr (.inl ⟨ns, rfl, rfl⟩)
    | cons t left =>
      have hclose : t.closes? = some (t.closes?.get (hleft.2 t rfl)) := (Option.some_get _).symm
      exact .inr (.inr ⟨ns, t, left, _, rfl, hclose, rfl⟩)

theorem Layout.ofTokens_eq_error_of_readFront {ts : List Token} {e : Fault}
    (h : Node.readFront false ts = .error e) : ofTokens ts = .error e := by
  rcases ofTokens_cases ts with ⟨e', hread, htokens⟩ | ⟨ns, hread, -⟩ | ⟨ns, t, left, b, hread, -⟩
  · cases h.symm.trans hread
    exact htokens
  · cases h.symm.trans hread
  · cases h.symm.trans hread

end FieldLayout
