/-!
# Tokens

The lexical pieces of a layout text.

## Main definitions

* `Lexeme`: what a piece stands for.
* `Token`: a piece together with its text and its place.
-/

namespace FieldLayout

/-- What a token stands for. -/
inductive Lexeme where
  /-- A number; values above the largest 32-bit number are held as that number. -/
  | number (value : UInt32)
  /-- A run of the letters that describe dates and times. -/
  | date (run : String)
  /-- A mark with a meaning of its own, such as a bracket. -/
  | mark (char : Char)
  /-- The place of an optional sign. -/
  | sign
  /-- Any other character. -/
  | plain (char : Char)
  deriving DecidableEq, Repr

/-- A piece of a layout text. The text of a token made by hand need not agree with its lexeme. -/
structure Token where
  /-- What the piece stands for. -/
  lexeme : Lexeme
  /-- The characters of the piece. -/
  text : String
  /-- The number of UTF-8 bytes before the piece. -/
  offset : Nat
  deriving DecidableEq, Repr

namespace Token

/-- The number of UTF-8 bytes before the end of the piece. -/
def stop (t : Token) : Nat := t.offset + t.text.utf8ByteSize

/-- The token is the given mark. -/
def isMark (t : Token) (char : Char) : Bool := t.lexeme == .mark char

/-- The token is an ordinary character. -/
def isPlain (t : Token) : Bool :=
  match t.lexeme with
  | .plain _ => true
  | _ => false

end Token

end FieldLayout
