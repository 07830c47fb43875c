/-!
# Faults

What can be wrong with a layout, or with the way a layout is used, and the wording of each fault.

## Main definitions

* `Fault`: the causes.
* `Fault.message`: the wording shown to a user.

All offsets count bytes of the UTF-8 form of the layout text.
-/

namespace FieldLayout

/-- The reason why a layout is refused or cannot be applied. -/
inductive Fault where
  /-- After a length stands a text that names no character set. -/
  | unknownCharset (found : String) (offset : Nat)
  /-- Nothing stands after a length; the offset is where the length ends. -/
  | missingCharset (offset : Nat)
  /-- No length stands after the star of a repeat count; the offset is that of the star. -/
  | missingLength (offset : Nat)
  /-- A group opened at the offset is not closed by the bracket that it needs. -/
  | unclosedGroup (expected : Char) (offset : Nat)
  /-- A closing bracket stands where no group is open. -/
  | strayCloser (found : Char) (offset : Nat)
  /-- A capturing group stands inside another; the offset is known only for a layout read from text.
  -/
  | nestedCapture (opener : Char) (offset : Option Nat)
  /-- A value was to be extracted through a layout with several capturing groups. -/
  | severalCaptures (count : Nat)
  /-- The pattern made from a layout is not a pattern that can be searched for. -/
  | invalidPattern (pattern : String) (reason : String)
  deriving DecidableEq, Repr

namespace Fault

/-- The wording of a fault. -/
def message : Fault → String
  | unknownCharset found offset =>
    "Invalid character set '" ++ found ++ "' at offset " ++ offset.repr
  | missingCharset offset => "Missing character set after field length at offset " ++ offset.repr
  | missingLength offset =>
    "Missing maximum length after repeat count at offset " ++ offset.repr
  | unclosedGroup expected offset =>
    "Missing closing bracket " ++ String.singleton expected ++ " for group opened at offset " ++
      offset.repr
  | strayCloser found offset =>
    "Unexpected closing bracket " ++ String.singleton found ++ " at offset " ++ offset.repr
  | nestedCapture opener (some offset) =>
    "Capture group " ++ String.singleton opener ++ " at offset " ++ offset.repr ++
      " cannot be inside another capture group"
  | nestedCapture opener none =>
    "Capture group " ++ String.singleton opener ++ " cannot be inside another capture group"
  | severalCaptures count =>
    "More than one capture group specified (" ++ count.repr ++ " found)"
  | invalidPattern pattern reason =>
    "Generated pattern '" ++ pattern ++ "' is not a valid regular expression: " ++ reason

end Fault

end FieldLayout
