import FieldLayout.Fault
import FieldLayout.Layout.Basic

/-!
# The search pattern of a layout

A layout is turned into the text of a regular expression that is anchored at both ends. Literals go
into it as they stand, so marks in a literal act as marks of the pattern. Dates and signs leave no
trace, and the repeats of a field do not count.

## Main definitions

* `Layout.patternText`: the pattern of a layout, refused when a capturing group is an immediate part
  of another.
-/

namespace FieldLayout

/-- The pattern for one character of a set. -/
def Charset.patternText : Charset → String
  | digits => "[0-9]"
  | capitals => "[A-Z]"
  | alphanumeric => "[A-Z0-9]"
  | text => "[A-Za-z0-9/\\-?:().,'+ ]"
  | blank => "[ ]"
  | decimal => "[0-9,]"

/-- The pattern of a field: a character of its set, between `min` and `max` times. -/
def Field.patternText (f : Field) : String :=
  f.charset.patternText ++ "\x7b" ++ f.min.toNat.repr ++ "," ++ f.max.toNat.repr ++ "\x7d"

mutual

/-- The pattern of a part. The flag says whether the part is an immediate part of a capturing group;
an optional group clears it for its own parts. -/
def Node.patternText (inCapture : Bool) : Node → Except Fault String
  | .literal text => .ok text
  | .field f => .ok f.patternText
  | .date _ | .sign => .ok ""
  | .group bracket children =>
    if bracket.captures then
      if inCapture then .error (.nestedCapture bracket.opening none)
      else
        match Node.patternTextList true children with
        | .ok body => .ok ("(" ++ body ++ ")")
        | .error e => .error e
    else
      match Node.patternTextList false children with
      | .ok body => .ok ("(?:" ++ body ++ ")?")
      | .error e => .error e

/-- The pattern of consecutive parts. -/
def Node.patternTextList (inCapture : Bool) : List Node → Except Fault String
  | [] => .ok ""
  | n :: ns =>
    match n.patternText inCapture with
    | .error e => .error e
    | .ok first =>
      match Node.patternTextList inCapture ns with
      | .error e => .error e
      | .ok rest => .ok (first ++ rest)

end

/-- The pattern of a layout, which has to match a value from its start to its end. -/
def Layout.patternText (l : Layout) : Except Fault String :=
  match Node.patternTextList false l.nodes with
  | .ok body => .ok ("^" ++ body ++ "$")
  | .error e => .error e

end FieldLayout
