import FieldLayout.Layout.Basic

/-!
# The text of a layout

Each part of a layout is written by one rule, and parts follow each other without separators.

## Main definitions

* `Field.render`: `10*35x` for a repeated field, `4!c` for a fixed length, `35x` otherwise.
* `Layout.render`: the text of a layout.
-/

namespace FieldLayout

/-- The text of a field. A count of repeats is written when it is above one; a fixed length is
marked by `!` unless it is one, which needs no mark. -/
def Field.render (f : Field) : String :=
  if 1 < f.repeats then f.repeats.toNat.repr ++ "*" ++ f.max.toNat.repr ++ f.charset.name
  else if f.min = f.max ∧ f.max ≠ 1 then f.max.toNat.repr ++ "!" ++ f.charset.name
  else f.max.toNat.repr ++ f.charset.name

mutual

/-- The text of a part. -/
def Node.render : Node → String
  | .literal text => text
  | .field f => f.render
  | .date run => run
  | .sign => "N"
  | .group bracket children =>
    String.singleton bracket.opening ++ Node.renderList children ++
      String.singleton bracket.closing

/-- The text of a list of parts. -/
def Node.renderList : List Node → String
  | [] => ""
  | n :: ns => n.render ++ Node.renderList ns

end

/-- The text of a layout. -/
def Layout.render (l : Layout) : String := Node.renderList l.nodes

end FieldLayout
