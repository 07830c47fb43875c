import FieldLayout.Fault
import FieldLayout.Layout.Basic
import FieldLayout.Token.Lexer

/-!
# Reading layouts

A layout is read from tokens by recursive descent. What a token means is decided by its lexeme, with
two exceptions: the character set of a field is named by the text of whatever token follows the
length, and a literal joins the texts of its tokens.

## Main definitions

* `Field.read`: a field, after its first number.
* `Node.readList`: parts up to the end or to a closing bracket.
* `Layout.ofTokens`, `Layout.parse`: a whole layout.

## Main statements

* `Field.length_le_of_read`, `Node.length_le_of_readPlain`: no part reads past the end.
-/

namespace FieldLayout

/-! ## Marks -/

/-- The bracket that a token opens. -/
def Token.opens? (t : Token) : Option Bracket :=
  match t.lexeme with
  | .mark char => Bracket.ofOpening? char
  | _ => none

/-- The bracket that a token closes. -/
def Token.closes? (t : Token) : Option Bracket :=
  match t.lexeme with
  | .mark char => Bracket.ofClosing? char
  | _ => none

/-- The joined texts of tokens. -/
def Token.join : List Token → String
  | [] => ""
  | t :: ts => t.text ++ Token.join ts

/-! ## Fields -/

/-- The length marks in front of a character set. -/
structure Extent where
  /-- The least number of characters. -/
  min : UInt32
  /-- The greatest number of characters. -/
  max : UInt32
  /-- How often the field may be repeated. -/
  repeats : UInt32
  /-- The offset behind the marks. -/
  stop : Nat
  deriving DecidableEq, Repr

/-- The length marks that start with a number: `n!` fixes the length, `n*m` gives repeats and a
greatest length, and a number alone is a greatest length. -/
def Extent.read (head : Token) (n : UInt32) : List Token → Except Fault (Extent × List Token)
  | [] => .ok (⟨1, n, 1, head.stop⟩, [])
  | t :: rest =>
    if t.isMark '!' then .ok (⟨n, n, 1, t.stop⟩, rest)
    else if t.isMark '*' then
      match rest with
      | [] => .error (.missingLength t.offset)
      | u :: rest =>
        match u.lexeme with
        | .number m => .ok (⟨1, m, n, u.stop⟩, rest)
        | _ => .error (.missingLength t.offset)
    else .ok (⟨1, n, 1, head.stop⟩, t :: rest)

/-- The character set named by the text of the next token. -/
def Charset.read (stop : Nat) : List Token → Except Fault (Charset × List Token)
  | [] => .error (.missingCharset stop)
  | t :: rest =>
    match Charset.ofText? t.text with
    | some s => .ok (s, rest)
    | none => .error (.unknownCharset t.text t.offset)

/-- A field, after its first number `n` in the token `head`. -/
def Field.read (head : Token) (n : UInt32) (ts : List Token) : Except Fault (Field × List Token) :=
  match Extent.read head n ts with
  | .error e => .error e
  | .ok (extent, rest) =>
    match Charset.read extent.stop rest with
    | .error e => .error e
    | .ok (charset, rest) => .ok (⟨extent.min, extent.max, charset, extent.repeats⟩, rest)

theorem Extent.length_le_of_read {head : Token} {n : UInt32} {ts rest : List Token} {x : Extent}
    (h : Extent.read head n ts = .ok (x, rest)) : rest.length ≤ ts.length := by
  unfold Extent.read at h
  split at h
  · cases h; simp
  · split at h
    · cases h; simp
    · split at h
      · split at h
        · cases h
        · split at h
          · cases h; simp; omega
          · cases h
      · cases h; simp

theorem Charset.length_le_of_read {stop : Nat} {ts rest : List Token} {s : Charset}
    (h : Charset.read stop ts = .ok (s, rest)) : rest.length ≤ ts.length := by
  unfold Charset.read at h
  split at h
  · cases h
  · split at h
    · cases h; simp
    · cases h

theorem Field.length_le_of_read {head : Token} {n : UInt32} {ts rest : List Token} {f : Field}
    (h : Field.read head n ts = .ok (f, rest)) : rest.length ≤ ts.length := by
  unfold Field.read at h
  split at h
  · cases h
  · next x mid hx =>
    split at h
    · cases h
    · next s left hs =>
      cases h
      have h₁ := Extent.length_le_of_read hx
      have h₂ := Charset.length_le_of_read hs
      omega

/-! ## Parts -/

/-- A part that is not a group, with its first token. A mark that is no bracket starts a literal,
and a literal goes on through all ordinary characters that follow. -/
def Node.readPlain (t : Token) (ts : List Token) : Except Fault (Node × List Token) :=
  match t.lexeme with
  | .number n =>
    match Field.read t n ts with
    | .error e => .error e
    | .ok (f, rest) => .ok (.field f, rest)
  | .date run => .ok (.date run, ts)
  | .sign => .ok (.sign, ts)
  | .mark _ | .plain _ =>
    .ok (.literal (t.text ++ Token.join (ts.takeWhile Token.isPlain)),
      ts.dropWhile Token.isPlain)

theorem Node.length_le_of_readPlain {t : Token} {ts rest : List Token} {n : Node}
    (h : Node.readPlain t ts = .ok (n, rest)) : rest.length ≤ ts.length := by
  unfold Node.readPlain at h
  split at h
  · split at h
    · cases h
    · next f left hf => cases h; exact Field.length_le_of_read hf
  · cases h; exact Nat.le_refl _
  · cases h; exact Nat.le_refl _
  · cases h; exact (List.dropWhile_sublist _).length_le
  · cases h; exact (List.dropWhile_sublist _).length_le

/-- Parts read from the front of `ts` and the tokens behind them. No token is gained, and what is
left is empty or starts with a closing bracket. -/
abbrev Reading (ts : List Token) : Type :=
  { r : List Node × List Token // r.2.length ≤ ts.length ∧ ∀ t ∈ r.2.head?, t.closes?.isSome }

/-- The parts in front of the end or of the first closing bracket that no part takes. Inside a
capturing group, at any depth, no other capturing group may be opened. -/
def Node.readList (inCapture : Bool) (ts : List Token) : Except Fault (Reading ts) :=
  match ts with
  | [] => .ok ⟨([], []), by simp⟩
  | t :: rest =>
    if hc : t.closes?.isSome then .ok ⟨([], t :: rest), by simpa using hc⟩
    else
      match t.opens? with
      | some bracket =>
        if inCapture && bracket.captures then
          .error (.nestedCapture bracket.opening (some t.offset))
        else
          match Node.readList (inCapture || bracket.captures) rest with
          | .error e => .error e
          | .ok ⟨(_, []), _⟩ => .error (.unclosedGroup bracket.closing t.offset)
          | .ok ⟨(children, u :: inner), hi⟩ =>
            if u.closes? = some bracket then
              match Node.readList inCapture inner with
              | .error e => .error e
              | .ok ⟨(nodes, left), hl⟩ =>
                .ok ⟨(.group bracket children :: nodes, left), by
                  have h₁ := hi.1
                  have h₂ := hl.1
                  exact ⟨by simp at h₁ h₂ ⊢; omega, hl.2⟩⟩
            else .error (.unclosedGroup bracket.closing t.offset)
      | none =>
        match hp : Node.readPlain t rest with
        | .error e => .error e
        | .ok (node, inner) =>
          match Node.readList inCapture inner with
          | .error e => .error e
          | .ok ⟨(nodes, left), hl⟩ =>
            .ok ⟨(node :: nodes, left), by
              have h₁ := Node.length_le_of_readPlain hp
              have h₂ := hl.1
              exact ⟨by simp at h₂ ⊢; omega, hl.2⟩⟩
termination_by ts.length
decreasing_by
  · simp
  · have h₁ := hi.1
    simp at h₁ ⊢
    omega
  · have h₁ := Node.length_le_of_readPlain hp
    simp
    omega

/-! ## Layouts -/

/-- The layout that a list of tokens describes. A closing bracket that no group takes is a fault. -/
def Layout.ofTokens (ts : List Token) : Except Fault Layout :=
  match Node.readList false ts with
  | .error e => .error e
  | .ok ⟨(nodes, []), _⟩ => .ok ⟨nodes⟩
  | .ok ⟨(_, t :: _), h⟩ =>
    .error (.strayCloser (t.closes?.get (h.2 t (by simp))).closing t.offset)

/-- The layout that a text describes. -/
def Layout.parse (s : String) : Except Fault Layout := Layout.ofTokens (Token.scan s)

end FieldLayout
