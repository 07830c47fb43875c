/-!
# Values of a data format

The values that layouts are exchanged as: null, truth values, numbers, texts, lists and objects.

## Main definitions

* `Json`: the values.
* `Json.member?`: the value of a key in an object.
* `Json.tag?`: a name without content, written as a text or as a key with the value null.
-/

namespace FieldLayout

/-- A value of the data format. Only natural numbers are ever read, so other numbers keep no value.
-/
inductive Json where
  /-- The missing value. -/
  | null
  /-- A truth value. -/
  | bool (b : Bool)
  /-- A natural number, written without fraction and exponent. -/
  | nat (n : Nat)
  /-- A number of any other form. -/
  | otherNumber
  /-- A text. -/
  | str (s : String)
  /-- A list. -/
  | arr (items : List Json)
  /-- An object: keys with their values, in any order. -/
  | obj (members : List (String × Json))
  deriving Inhabited

namespace Json

/-- The value of a key. -/
def member? (key : String) : List (String × Json) → Option Json
  | [] => none
  | (k, v) :: rest => if k = key then some v else member? key rest

/-- The name of an alternative without content, which is its text or an object with that one key and
the value null. -/
def tag? : Json → Option String
  | .str s => some s
  | .obj [(key, .null)] => some key
  | _ => none

/-- A natural number of 32 bits. -/
def uint32? : Json → Option UInt32
  | .nat n => if h : n < UInt32.size then some (UInt32.ofNatLT n h) else none
  | _ => none

end Json

end FieldLayout
