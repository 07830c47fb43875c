import FieldLayout.Pattern.Flags
import FieldLayout.Unicode.WordCharacters

/-!
# Edges

An edge is a condition on a place of a text. A pattern that asks for one reads nothing. What is
written in the pattern is a mark; the flags decide for which edge it stands.

## Main definitions

* `WordEdge`, `Edge`: the conditions.
* `Edge.holds`: whether a place of a text meets a condition.
* `EdgeMark`, `EdgeMark.toEdge`: the marks and what they stand for.
-/

namespace FieldLayout

/-- A condition on the characters of words on both sides of a place. -/
inductive WordEdge where
  /-- The start or the end of a word. -/
  | border
  /-- Neither the start nor the end of a word. -/
  | noBorder
  /-- The start of a word. -/
  | start
  /-- The end of a word. -/
  | stop
  /-- No word goes on from before the place. -/
  | startHalf
  /-- No word goes on behind the place. -/
  | stopHalf
  deriving DecidableEq, Repr, Inhabited

/-- A condition on a place of a text. -/
inductive Edge where
  /-- The start of the text. -/
  | textStart
  /-- The end of the text. -/
  | textEnd
  /-- The start of a line; the flag admits carriage returns as line ends. -/
  | lineStart (crlf : Bool)
  /-- The end of a line; the flag admits carriage returns as line ends. -/
  | lineEnd (crlf : Bool)
  /-- A condition on words; without the flag only those of the ASCII range count. -/
  | word (unicode : Bool) (e : WordEdge)
  deriving DecidableEq, Repr, Inhabited

/-- A place between two characters meets a condition on words; the flags say whether they are
characters of words. -/
def WordEdge.holds (before behind : Bool) : WordEdge → Bool
  | .border => before != behind
  | .noBorder => before == behind
  | .start => !before && behind
  | .stop => before && !behind
  | .startHalf => !before
  | .stopHalf => !behind

namespace Edge

/-- The characters of words. -/
def wordSet (unicode : Bool) : CharRanges :=
  if unicode then Unicode.wordCharacters else Unicode.asciiWordCharacters

/-- The character before a place. -/
def before? (text : Array Char) : Nat → Option Char
  | 0 => none
  | place + 1 => text[place]?

/-- A line starts between two characters. A carriage return and a line feed behind it are one line
end. -/
def afterLine (crlf : Bool) (before behind : Option Char) : Bool :=
  before == some '\n' || (crlf && before == some '\r' && behind != some '\n')

/-- A line ends between two characters. A carriage return and a line feed behind it are one line
end. -/
def beforeLineEnd (crlf : Bool) (before behind : Option Char) : Bool :=
  if crlf then behind == some '\r' || (behind == some '\n' && before != some '\r')
  else behind == some '\n'

/-- A place of a text meets a condition. -/
def holds (text : Array Char) (place : Nat) : Edge → Bool
  | .textStart => place = 0
  | .textEnd => place = text.size
  | .lineStart crlf => place = 0 || afterLine crlf (before? text place) text[place]?
  | .lineEnd crlf => place = text.size || beforeLineEnd crlf (before? text place) text[place]?
  | .word unicode e =>
    e.holds ((before? text place).any (wordSet unicode).contains)
      (text[place]?.any (wordSet unicode).contains)

end Edge

/-- A mark of the pattern language that stands for an edge. -/
inductive EdgeMark where
  /-- The start of the text, or of a line. -/
  | caret
  /-- The end of the text, or of a line. -/
  | dollar
  /-- The start of the text. -/
  | textStart
  /-- The end of the text. -/
  | textEnd
  /-- A condition on words. -/
  | word (e : WordEdge)
  deriving DecidableEq, Repr, Inhabited

/-- The edge that a mark stands for. -/
def EdgeMark.toEdge (f : Flags) : EdgeMark → Edge
  | .caret => if f.multiLine then .lineStart f.crlf else .textStart
  | .dollar => if f.multiLine then .lineEnd f.crlf else .textEnd
  | .textStart => .textStart
  | .textEnd => .textEnd
  | .word e => .word f.unicode e

end FieldLayout
