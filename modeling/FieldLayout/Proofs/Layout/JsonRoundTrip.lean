import FieldLayout.Layout.Json
import FieldLayout.Proofs.Layout.Sequences

/-!
# Layouts through their data form

A layout is exchanged as a data value with named members. Every layout comes back from its written
form, also one that no text describes: nothing is checked on the way but the shape of the value.

## Main statements

* `Field.ofJson?_toJson`: a field comes back, whatever its numbers are.
* `Node.listOfJson?_toJsonList`: parts come back at any depth.
* `Layout.json_round_trip`: so do layouts and brackets.
-/

namespace FieldLayout

theorem Json.uint32?_toNat (n : UInt32) : Json.uint32? (.nat n.toNat) = some n := by
  simp [Json.uint32?, UInt32.toNat_lt_size]

theorem Bracket.ofJson?_toJson (b : Bracket) : Bracket.ofJson? b.toJson = some b := by
  cases b <;> rfl

theorem Charset.ofJson?_toJson (s : Charset) : Charset.ofJson? s.toJson = some s := by
  cases s <;> rfl

theorem Field.ofJson?_toJson (f : Field) : Field.ofJson? f.toJson = some f := by
  -- Each value is found under its own key.
  have hvalues : Field.ofJson? f.toJson = Field.ofValues? (.nat f.min.toNat) (.nat f.max.toNat)
      f.charset.toJson (.nat f.repeats.toNat) := by
    simp [toJson, ofJson?, Json.member?]
  rw [hvalues, ofValues?]
  simp [Json.uint32?_toNat, Charset.ofJson?_toJson]

namespace Node

theorem ofJson?_toJson_group {bracket : Bracket} {children : List Node}
    (h : listOfJson? (toJsonList children) = some children) :
    ofJson? (toJson (.group bracket children)) = some (.group bracket children) := by
  simp [toJson, ofJson?, groupOfJson?, childrenOfJson?, Json.member?, Bracket.ofJson?_toJson, h]

theorem listOfJson?_cons {j : Json} {js : List Json} {n : Node} {ns : List Node}
    (hn : ofJson? j = some n) (hns : listOfJson? js = some ns) :
    listOfJson? (j :: js) = some (n :: ns) := by
  simp [listOfJson?, hn, hns]

theorem listOfJson?_toJsonList (ns : List Node) : listOfJson? (toJsonList ns) = some ns := by
  induction ns using Node.sequence_induction with
  | nil => simp [toJsonList, listOfJson?]
  | literal text ns ih | date run ns ih | sign ns ih =>
    apply listOfJson?_cons _ ih
    simp [toJson, ofJson?]
  | field f ns ih =>
    apply listOfJson?_cons _ ih
    simp [toJson, ofJson?, Field.ofJson?_toJson]
  | group bracket children ns ihc ih => exact listOfJson?_cons (ofJson?_toJson_group ihc) ih

end Node

namespace Layout

/-- Every layout and every bracket comes back from its written form. -/
theorem json_round_trip :
    (∀ l : Layout, ofJson? l.toJson = some l) ∧
      ∀ b : Bracket, Bracket.ofJson? b.toJson = some b := by
  refine ⟨fun l => ?_, Bracket.ofJson?_toJson⟩
  simp [toJson, ofJson?, Json.member?, Node.listOfJson?_toJsonList]

end Layout

end FieldLayout
