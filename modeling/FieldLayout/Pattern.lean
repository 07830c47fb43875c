import FieldLayout.Pattern.Footprint
import FieldLayout.Pattern.Reader
import FieldLayout.Pattern.Search

/-!
# Patterns

A pattern is a regular expression that has been read and found to be within the limits.

## Main definitions

* `Pattern.ofText?`: the pattern that a text describes.
* `Pattern.captureCount`: the number of its groups.
* `Pattern.find?`: the preferred match in a text.
-/

namespace FieldLayout

/-- A regular expression that can be searched for. -/
structure Pattern where
  /-- The plan of the search. -/
  plan : Plan
  deriving Inhabited

namespace Pattern

/-- The pattern that a text describes, unless the text is no pattern or exceeds the limits. -/
def ofText? (s : String) : Option Pattern :=
  match Expr.ofText? s with
  | none => none
  | some e =>
    let plan := Plan.ofExpr e
    if e.depth ≤ Expr.maxDepth && plan.fits then some ⟨plan⟩ else none

/-- The number of groups that a match reports. -/
def captureCount (p : Pattern) : Nat := p.plan.lastGroup

/-- The preferred match in a text. -/
def find? (p : Pattern) (text : String) : Option Thread :=
  (Program.ofPlan p.plan).search text.toList.toArray

end Pattern

/-- The stretch of a text that a span covers. -/
def Span.slice (s : Span) (text : String) : String :=
  String.ofList ((text.toList.drop s.start).take (s.stop - s.start))

end FieldLayout
