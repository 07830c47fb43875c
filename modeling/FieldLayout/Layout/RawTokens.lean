import FieldLayout.Layout.Parser

/-!
# Tokens made by hand

Tokens need not come from a text. The place of a token made by hand is a word of 64 bits, and
nothing ties it to the tokens before it. Places are added up only where a field has no character
set: this is reported behind its last length mark, and that place can need more than 64 bits. What
becomes of the carry depends on the machine. It is dropped, or it stops the reading.

The parser takes places as numbers, which have no bound. So the place that it reports is the exact
sum, and this sum is then put into a word.

## Main definitions

* `RawToken`: a token made by hand.
* `Carry`: what becomes of a carry.
* `Fault.inWords`: a fault with its place in a word.
* `Layout.ofRawTokens`: the layout that tokens made by hand describe.
-/

namespace FieldLayout

/-- A token made by hand. Its text need not agree with its lexeme. -/
structure RawToken where
  /-- What the token stands for. -/
  lexeme : Lexeme
  /-- The characters of the token. -/
  text : String
  /-- Where the token is said to stand. -/
  offset : UInt64
  deriving DecidableEq, Repr

namespace RawToken

/-- The token with its place as a number. -/
def token (t : RawToken) : Token := ⟨t.lexeme, t.text, t.offset.toNat⟩

@[simp] theorem token_lexeme (t : RawToken) : t.token.lexeme = t.lexeme := rfl

@[simp] theorem token_text (t : RawToken) : t.token.text = t.text := rfl

@[simp] theorem token_offset (t : RawToken) : t.token.offset = t.offset.toNat := rfl

end RawToken

/-- What becomes of the carry when places are added. -/
inductive Carry where
  /-- The sum is taken modulo the number of words. -/
  | dropped
  /-- The reading stops. -/
  | trapped
  deriving DecidableEq, Repr

/-- Why tokens made by hand give no layout. -/
inductive Failure where
  /-- The tokens have a fault. -/
  | fault (e : Fault)
  /-- A carry has stopped the reading. -/
  | overflow
  deriving DecidableEq, Repr

/-- The fault with its place in a word. Only the place behind a length is a sum; all others are the
places of tokens. -/
def Fault.inWords (carry : Carry) : Fault → Failure
  | .missingCharset n =>
    match carry with
    | .dropped => .fault (.missingCharset (n % UInt64.size))
    | .trapped => if n < UInt64.size then .fault (.missingCharset n) else .overflow
  | e => .fault e

/-- The layout that tokens made by hand describe. -/
def Layout.ofRawTokens (carry : Carry) (ts : List RawToken) : Except Failure Layout :=
  match Layout.ofTokens (ts.map RawToken.token) with
  | .error e => .error (e.inWords carry)
  | .ok l => .ok l

end FieldLayout
