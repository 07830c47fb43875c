import FieldLayout.Layout.Parser
import FieldLayout.Layout.Pattern
import FieldLayout.Pattern

/-!
# Recognizing values

A recognizer holds a layout together with the pattern made from it. It tells whether a value has the
layout and extracts the part of the value that the capturing group takes.

The groups that count are those of the pattern. Since literals go into the pattern as they stand,
they can differ from the groups of the layout.

A pattern that cannot be used is reported with its text alone. Why it cannot be used would be told
in the words of whatever runs the patterns, and these are not modelled: the reason is left empty.

## Main definitions

* `Recognizer.ofLayout`, `Recognizer.ofText`: the recognizer of a layout.
* `Recognizer.accepts`, `Recognizer.extract`: what it is for.
* `validate`, `extract`: the same for a layout text that is used once.
-/

namespace FieldLayout

/-- A layout with its pattern. -/
structure Recognizer where
  /-- The layout. -/
  layout : Layout
  /-- The text of the pattern. -/
  patternText : String
  /-- The pattern, ready for a search. -/
  pattern : Pattern
  deriving Inhabited

namespace Recognizer

/-- The recognizer of a layout. The fault of a pattern that cannot be used gives no reason. -/
def ofLayout (l : Layout) : Except Fault Recognizer :=
  match l.patternText with
  | .error e => .error e
  | .ok text =>
    match Pattern.ofText? text with
    | none => .error (.invalidPattern text "")
    | some pattern => .ok ⟨l, text, pattern⟩

/-- The recognizer of a layout text. -/
def ofText (s : String) : Except Fault Recognizer :=
  match Layout.parse s with
  | .error e => .error e
  | .ok l => ofLayout l

/-- The number of groups of the pattern. -/
def captureCount (r : Recognizer) : Nat := r.pattern.captureCount

/-- The pattern is found in the value. -/
def accepts (r : Recognizer) (value : String) : Bool := (r.pattern.find? value).isSome

/-- The part of the value that the only group takes, or the whole value if there is no group. It is
`none` when the pattern is not found or the group takes no part in the match; several groups are a
fault as soon as the pattern is found. -/
def extract (r : Recognizer) (value : String) : Except Fault (Option String) :=
  match r.pattern.find? value with
  | none => .ok none
  | some found =>
    if 1 < r.captureCount then .error (.severalCaptures r.captureCount)
    else if r.captureCount = 0 then .ok (some value)
    else .ok ((found.span? 1).map fun s => s.slice value)

end Recognizer

/-- Whether a value has the layout that a text describes. -/
def validate (layout value : String) : Except Fault Bool :=
  match Recognizer.ofText layout with
  | .error e => .error e
  | .ok r => .ok (r.accepts value)

/-- The part of a value that the layout of a text marks. -/
def extract (layout value : String) : Except Fault (Option String) :=
  match Recognizer.ofText layout with
  | .error e => .error e
  | .ok r => r.extract value

end FieldLayout
