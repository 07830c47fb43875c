/-!
# Flags of a pattern

Flags change how the parts of a pattern behind them are read and searched for. A change of flags
holds up to the end of the group around it.

## Main definitions

* `Flag`: the flags with their letters.
* `Flags`: the flags that hold at a place of a pattern.
* `FlagChange`: the flags that a group of flags sets and clears.
* `Flags.apply`: the flags after a change.
-/

namespace FieldLayout

/-- A flag. -/
inductive Flag where
  /-- Letters match in all cases. -/
  | ignoreCase
  /-- The marks for the start and the end match at lines too. -/
  | multiLine
  /-- The dot matches line ends too. -/
  | dotAll
  /-- Greedy repetitions are lazy and the other way round. -/
  | swapGreed
  /-- Classes reach beyond the ASCII range. -/
  | unicode
  /-- Lines end with a carriage return, a line feed or both. -/
  | crlf
  /-- White space and comments in the pattern do not count. -/
  | verbose
  deriving DecidableEq, Repr, Inhabited

/-- The flag with a letter. -/
def Flag.ofLetter? : Char → Option Flag
  | 'i' => some .ignoreCase
  | 'm' => some .multiLine
  | 's' => some .dotAll
  | 'U' => some .swapGreed
  | 'u' => some .unicode
  | 'R' => some .crlf
  | 'x' => some .verbose
  | _ => none

/-- The flags that hold at a place of a pattern. -/
structure Flags where
  /-- Letters match in all cases. -/
  ignoreCase : Bool
  /-- The marks for the start and the end match at lines too. -/
  multiLine : Bool
  /-- The dot matches line ends too. -/
  dotAll : Bool
  /-- Greedy repetitions are lazy and the other way round. -/
  swapGreed : Bool
  /-- Classes reach beyond the ASCII range. -/
  unicode : Bool
  /-- Lines end with a carriage return, a line feed or both. -/
  crlf : Bool
  /-- White space and comments in the pattern do not count. -/
  verbose : Bool
  deriving DecidableEq, Repr, Inhabited

namespace Flags

/-- The flags at the start of a pattern. -/
def start : Flags := ⟨false, false, false, false, true, false, false⟩

/-- The flags with one of them set or cleared. -/
def set (f : Flags) (flag : Flag) (on : Bool) : Flags :=
  match flag with
  | .ignoreCase => { f with ignoreCase := on }
  | .multiLine => { f with multiLine := on }
  | .dotAll => { f with dotAll := on }
  | .swapGreed => { f with swapGreed := on }
  | .unicode => { f with unicode := on }
  | .crlf => { f with crlf := on }
  | .verbose => { f with verbose := on }

end Flags

/-- The flags that a group of flags names, each with whether it is set or cleared. -/
abbrev FlagChange : Type := List (Flag × Bool)

/-- The flags after a change. -/
def Flags.apply (f : Flags) (change : FlagChange) : Flags :=
  change.foldl (fun f (flag, on) => f.set flag on) f

end FieldLayout
