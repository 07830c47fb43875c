import FieldLayout.Json
import FieldLayout.Layout.Basic

/-!
# Layouts as data

The written form of a layout as a data value, and the reader for it. The reader takes more than is
written: keys in any order, unknown keys, a list in place of the object of a layout or of a field,
and an object with the value null in place of a bare name. It checks nothing else, so it can give a
layout that no text describes.

## Main definitions

* `Layout.toJson`: the written form.
* `Layout.ofJson?`: the reader.
-/

namespace FieldLayout

/-! ## Writing -/

/-- The name of a bracket. -/
def Bracket.name : Bracket → String
  | optional => "optional"
  | capture => "capture"
  | reformat => "reformat"

/-- The written form of a bracket. -/
def Bracket.toJson (b : Bracket) : Json := .str b.name

/-- The written form of a character set. -/
def Charset.toJson (s : Charset) : Json := .str s.name

/-- The written form of a field. -/
def Field.toJson (f : Field) : Json :=
  .obj [("min", .nat f.min.toNat), ("max", .nat f.max.toNat), ("charset", f.charset.toJson),
    ("repeat", .nat f.repeats.toNat)]

mutual

/-- The written form of a part. -/
def Node.toJson : Node → Json
  | .literal text => .obj [("literal", .str text)]
  | .field f => .obj [("field", f.toJson)]
  | .date run => .obj [("date", .str run)]
  | .sign => .str "sign"
  | .group bracket children =>
    .obj [("group", .obj [("kind", bracket.toJson), ("children", .arr (Node.toJsonList children))])]

/-- The written forms of parts. -/
def Node.toJsonList : List Node → List Json
  | [] => []
  | n :: ns => n.toJson :: Node.toJsonList ns

end

/-- The written form of a layout. -/
def Layout.toJson (l : Layout) : Json := .obj [("format", .arr (Node.toJsonList l.nodes))]

/-! ## Reading -/

/-- The bracket of a name. -/
def Bracket.ofName? : String → Option Bracket
  | "optional" => some optional
  | "capture" => some capture
  | "reformat" => some reformat
  | _ => none

/-- Reads a bracket. -/
def Bracket.ofJson? (j : Json) : Option Bracket := j.tag?.bind Bracket.ofName?

/-- Reads a character set. -/
def Charset.ofJson? (j : Json) : Option Charset := j.tag?.bind Charset.ofText?

/-- Reads a field from its four values. -/
def Field.ofValues? (min max charset repeats : Json) : Option Field := do
  let min ← min.uint32?
  let max ← max.uint32?
  let charset ← Charset.ofJson? charset
  let repeats ← repeats.uint32?
  return ⟨min, max, charset, repeats⟩

/-- Reads a field from an object, or from a list of exactly its four values. -/
def Field.ofJson? : Json → Option Field
  | .obj members => do
    let min ← Json.member? "min" members
    let max ← Json.member? "max" members
    let charset ← Json.member? "charset" members
    let repeats ← Json.member? "repeat" members
    Field.ofValues? min max charset repeats
  | .arr [min, max, charset, repeats] => Field.ofValues? min max charset repeats
  | _ => none

mutual

/-- Reads a part. The object of a part has exactly one key, and the content of a group is never a
list. -/
def Node.ofJson? : Json → Option Node
  | .str name => if name = "sign" then some .sign else none
  | .obj [(key, content)] =>
    if key = "sign" then
      match content with
      | .null => some .sign
      | _ => none
    else if key = "literal" then
      match content with
      | .str text => some (.literal text)
      | _ => none
    else if key = "date" then
      match content with
      | .str run => some (.date run)
      | _ => none
    else if key = "field" then (Field.ofJson? content).map .field
    else if key = "group" then Node.groupOfJson? content
    else none
  | _ => none

/-- Reads a group from its content. -/
def Node.groupOfJson? : Json → Option Node
  | .obj members => do
    let bracket ← (Json.member? "kind" members).bind Bracket.ofJson?
    let children ← Node.childrenOfJson? members
    return .group bracket children
  | _ => none

/-- Reads the parts of a group from the members of its content. -/
def Node.childrenOfJson? : List (String × Json) → Option (List Node)
  | [] => none
  | (key, value) :: rest =>
    if key = "children" then
      match value with
      | .arr items => Node.listOfJson? items
      | _ => none
    else Node.childrenOfJson? rest

/-- Reads a list of parts. -/
def Node.listOfJson? : List Json → Option (List Node)
  | [] => some []
  | j :: js => do
    let n ← Node.ofJson? j
    let ns ← Node.listOfJson? js
    return n :: ns

end

/-- Reads a layout from an object, or from a list that holds only the list of its parts. -/
def Layout.ofJson? : Json → Option Layout
  | .obj members =>
    match Json.member? "format" members with
    | some (.arr items) => (Node.listOfJson? items).map Layout.mk
    | _ => none
  | .arr [.arr items] => (Node.listOfJson? items).map Layout.mk
  | _ => none

end FieldLayout
