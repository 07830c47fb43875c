import FieldLayout.Pattern.Expr
import FieldLayout.Pattern.Symbol

/-!
# Reading patterns

The symbols of a pattern are put together from left to right. A level holds what has been read of
one group; the levels of the groups around it wait on a stack, together with the flags that hold
again after the group.

## Main definitions

* `Builder`: what has been read so far.
* `Builder.step`: takes one more symbol.
* `Builder.read`: reads the symbols of a text.
* `Expr.ofText?`: the tree of a pattern.
-/

namespace FieldLayout

/-- What has been read of one group. -/
structure Level where
  /-- The finished alternatives, the latest first. -/
  branches : List Expr
  /-- The items of the alternative that is being read, the latest first. -/
  items : List Expr
  deriving Inhabited

namespace Level

/-- A group of which nothing has been read. -/
def start : Level := ⟨[], []⟩

/-- One more item. -/
def push (l : Level) (e : Expr) : Level := ⟨l.branches, e :: l.items⟩

/-- The alternative that is being read. -/
def branch (l : Level) : Expr :=
  match l.items with
  | [] => .empty
  | [e] => e
  | es => .seq es.reverse

/-- The start of one more alternative. -/
def split (l : Level) : Level := ⟨l.branch :: l.branches, []⟩

/-- The content of the group. -/
def expr (l : Level) : Expr :=
  match l.branches with
  | [] => l.branch
  | bs => .alt (l.branch :: bs).reverse

end Level

/-- A group that has been opened and not yet closed. -/
structure OpenGroup where
  /-- The number of the group, if it captures. -/
  index : Option Nat
  /-- The flags that hold again after the group. -/
  flags : Flags
  /-- What has been read of the group around it. -/
  level : Level
  deriving Inhabited

/-- What has been read of a pattern. -/
structure Builder where
  /-- The groups that are open, the innermost first. -/
  outer : List OpenGroup
  /-- What has been read of the innermost group. -/
  level : Level
  /-- The flags that hold here. -/
  flags : Flags
  /-- The number of capturing groups opened so far. -/
  captures : Nat
  /-- The names of capturing groups so far. -/
  names : List (List Char)
  deriving Inhabited

namespace Builder

/-- The start of a pattern. -/
def start : Builder := ⟨[], .start, .start, 0, []⟩

/-- One more item in the innermost group. -/
def push (b : Builder) (e : Expr) : Builder := { b with level := b.level.push e }

/-- One more set of characters in the innermost group, unless the class that it stands for is
refused. -/
def pushSet (b : Builder) (set : Option CharRanges) (nesting : Nat) : Option Builder :=
  set.map fun s => b.push (.chars s (!b.flags.unicode) nesting)

/-- The set of a character that stands for itself. Without the Unicode flag, an octet beyond the
ASCII range is a byte and no character, and is refused. -/
def charSet? (f : Flags) (c : Char) (octet : Bool) : Option CharRanges :=
  if !f.unicode && octet && 128 ≤ c.toNat then none
  else some (CharClass.withVariants f (.single c))

/-- The start of a capturing group. No two groups have the same name. -/
def openCapture (b : Builder) (name : Option (List Char)) : Option Builder :=
  if name.any b.names.contains then none
  else
    some ⟨⟨some (b.captures + 1), b.flags, b.level⟩ :: b.outer, .start, b.flags, b.captures + 1,
      name.toList ++ b.names⟩

/-- Takes one more symbol. A repetition needs an item before it, and a change of flags is no such
item; a closing bracket needs an open group. -/
def step (b : Builder) : Symbol → Option Builder
  | .char c octet => b.pushSet (charSet? b.flags c octet) 0
  | .set cls => b.pushSet (cls.toRanges? b.flags) cls.depth
  | .dot => b.pushSet (CharClass.any? b.flags) 0
  | .mark m => some (b.push (.edge (m.toEdge b.flags)))
  | .times min max greedy =>
    match b.level.items with
    | [] | .empty :: _ => none
    | e :: es =>
      let item := .times e min max (greedy != b.flags.swapGreed)
      some { b with level := ⟨b.level.branches, item :: es⟩ }
  | .openCapture name => b.openCapture name
  | .openPlain change =>
    some ⟨⟨none, b.flags, b.level⟩ :: b.outer, .start, b.flags.apply change, b.captures, b.names⟩
  | .setFlags change => some { b.push .empty with flags := b.flags.apply change }
  | .close =>
    match b.outer with
    | [] => none
    | g :: outer =>
      some ⟨outer, g.level.push (.group g.index b.level.expr), g.flags, b.captures, b.names⟩
  | .bar => some { b with level := b.level.split }

/-- Reads the symbols of a text, of which there are at most a given number. The flags decide whether
white space and comments count. -/
def read : Nat → Builder → List Char → Option Builder
  | symbols, b, cs =>
    match Verbose.skip b.flags.verbose cs with
    | [] => some b
    | c :: rest =>
      match symbols with
      | 0 => none
      | symbols + 1 =>
        match Symbol.read b.flags.verbose c rest with
        | none => none
        | some (s, left) =>
          match b.step s with
          | none => none
          | some b => read symbols b left

/-- The tree of the whole pattern, if every group has been closed. -/
def finish? (b : Builder) : Option Expr := if b.outer.isEmpty then some b.level.expr else none

end Builder

/-- The tree of a pattern text. A symbol takes a character at least. -/
def Expr.ofText? (s : String) : Option Expr :=
  (Builder.read s.toList.length .start s.toList).bind Builder.finish?

end FieldLayout
