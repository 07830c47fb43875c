import FieldLayout.Unicode.Age
import FieldLayout.Unicode.BinaryProperty
import FieldLayout.Unicode.Breaks
import FieldLayout.Unicode.CategoryNames
import FieldLayout.Unicode.Script

/-!
# Properties of characters

A property is asked for by its own name, or by a name and a value. A name alone is that of a binary
property, of a general category or of a script.

## Main definitions

* `Unicode.ofName?`: the characters that a name stands for.
* `Unicode.ofValue?`: the characters with a value of a property.
* `Unicode.alphabetic`, `Unicode.alphanumeric`: letters, and letters with numbers.
-/

namespace FieldLayout.Unicode

/-- The characters of a general category or of a group of categories. -/
def ofCategoryName? (name : String) : Option CharRanges :=
  if name = "any" then some .all
  else if name = "assigned" then some GeneralCategory.unassigned.members.complement
  else if name = "ascii" then some ⟨[⟨0, 0x7F⟩]⟩
  else findSet? categorySets name

/-- The script that goes by a loose name. -/
def findScript? (name : String) : Option Script := scripts.find? fun s => namesInclude s.names name

/-- The characters that a name stands for. -/
def ofName? (name : String) : Option CharRanges :=
  let name := looseName name
  match findSet? binarySets name with
  | some s => some s
  | none =>
    match ofCategoryName? name with
    | some s => some s
    | none => (findScript? name).map (·.members)

/-- The characters with a value of a property. -/
def ofValue? (property value : String) : Option CharRanges :=
  let property := looseName property
  let value := looseName value
  if property = "gc" || property = "generalcategory" then ofCategoryName? value
  else if property = "sc" || property = "script" then (findScript? value).map (·.members)
  else if property = "scx" || property = "scriptextensions" then
    (findScript? value).map (·.extended)
  else if property = "age" then ofAge? value
  else if property = "gcb" || property = "graphemeclusterbreak" then
    findSet? graphemeBreakSets value
  else if property = "wb" || property = "wordbreak" then findSet? wordBreakSets value
  else if property = "sb" || property = "sentencebreak" then findSet? sentenceBreakSets value
  else none

/-- The alphabetic characters. -/
def alphabetic : CharRanges := (ofName? "Alphabetic").getD .empty

/-- The alphabetic characters and the numbers. -/
def alphanumeric : CharRanges :=
  alphabetic.union (ofCategories [.decimalNumber, .letterNumber, .otherNumber])

end FieldLayout.Unicode
