import FieldLayout.Layout.Basic

/-!
# Induction on sequences of parts

Parts follow each other, and a group holds parts that follow each other. So what is claimed of a
layout is claimed of sequences of parts: it is shown for the empty sequence and handed on from the
parts behind the first one and, if that one is a group, from the parts in it.

## Main definitions

* `Node.literals`, `Layout.literals`: the literal texts at any depth.

## Main statements

* `Node.sequence_induction`: the induction principle.
-/

namespace FieldLayout

/-- What holds of the empty sequence and is handed on to a sequence from its parts holds of every
sequence of parts. -/
@[elab_as_elim]
theorem Node.sequence_induction {motive : List Node → Prop} (nil : motive [])
    (literal : ∀ text ns, motive ns → motive (.literal text :: ns))
    (field : ∀ f ns, motive ns → motive (.field f :: ns))
    (date : ∀ run ns, motive ns → motive (.date run :: ns))
    (sign : ∀ ns, motive ns → motive (.sign :: ns))
    (group : ∀ bracket children ns, motive children → motive ns →
      motive (.group bracket children :: ns)) : ∀ ns, motive ns
  | [] => nil
  | .literal text :: ns =>
    literal text ns (sequence_induction nil literal field date sign group ns)
  | .field f :: ns => field f ns (sequence_induction nil literal field date sign group ns)
  | .date run :: ns => date run ns (sequence_induction nil literal field date sign group ns)
  | .sign :: ns => sign ns (sequence_induction nil literal field date sign group ns)
  | .group bracket children :: ns =>
    group bracket children ns (sequence_induction nil literal field date sign group children)
      (sequence_induction nil literal field date sign group ns)

mutual

/-- The literal texts of a part, depth first and from left to right. -/
def Node.literals : Node → List String
  | .literal text => [text]
  | .group _ children => Node.literalsList children
  | .field _ | .date _ | .sign => []

/-- The literal texts of a list of parts, depth first and from left to right. -/
def Node.literalsList : List Node → List String
  | [] => []
  | n :: ns => n.literals ++ Node.literalsList ns

end

/-- The literal texts of a layout, depth first and from left to right. -/
def Layout.literals (l : Layout) : List String := Node.literalsList l.nodes

end FieldLayout
