import FieldLayout.Pattern.Expr

/-!
# Plans of a search

A plan is a pattern in the form in which it is searched for. Classes have become sets, characters
that follow each other have become texts, sequences inside sequences and choices inside choices have
been opened, and repetitions that repeat nothing are gone.

A choice between single characters or between sets is one set. A choice between sequences that start
alike becomes their common start followed by a choice of the rests. This moves a later branch in
front of what an earlier one would try after a longer or a shorter start, so it is part of the order
of preference.

## Main definitions

* `Plan`: the plans.
* `Plan.concat`, `Plan.choice`, `Plan.repeated`: the constructions that keep this form.
* `Plan.ofExpr`: the plan of a pattern.
* `Plan.lastGroup`: the greatest number of a group that a match can report.
* `Plan.minLength`, `Plan.readsNothing`: how much a match reads.
-/

namespace FieldLayout

/-- What is searched for. -/
inductive Plan where
  /-- The empty text. -/
  | empty
  /-- A text of one character or more. -/
  | text (cs : List Char)
  /-- One character of a set. The flag says that only bytes of the ASCII range are meant, which is
  so for the empty set. -/
  | chars (set : CharRanges) (ascii : Bool)
  /-- A place that meets a condition. -/
  | edge (e : Edge)
  /-- Two items or more, one after the other. -/
  | seq (items : List Plan)
  /-- One of two branches or more, an earlier one rather than a later one. -/
  | alt (branches : List Plan)
  /-- A capturing group. -/
  | group (index : Nat) (body : Plan)
  /-- A repetition, as often as possible if greedy and as rarely as possible if not. -/
  | times (body : Plan) (min : Nat) (max : Option Nat) (greedy : Bool)
  deriving Inhabited

namespace Plan

/-! ## Equality -/

mutual

/-- Equality of plans. -/
def same : Plan → Plan → Bool
  | .empty, .empty => true
  | .edge a, .edge b => a == b
  | .text a, .text b => a == b
  | .chars a k, .chars b k' => k == k' && a == b
  | .seq a, .seq b => sameList a b
  | .alt a, .alt b => sameList a b
  | .group i a, .group j b => i == j && same a b
  | .times a m n g, .times b m' n' g' => m == m' && n == n' && g == g' && same a b
  | _, _ => false

/-- Equality of lists of plans. -/
def sameList : List Plan → List Plan → Bool
  | [], [] => true
  | p :: ps, q :: qs => same p q && sameList ps qs
  | _, _ => false

end

/-! ## How much a match reads -/

mutual

/-- The least number of characters that a match reads; there is none if nothing matches. -/
def minLength : Plan → Option Nat
  | .empty | .edge _ => some 0
  | .text cs => some cs.length
  | .chars set _ => if set.ranges.isEmpty then none else some 1
  | .seq items => minLengthAll items
  | .alt branches => minLengthAny branches
  | .group _ body => body.minLength
  | .times body min _ _ => body.minLength.map (min * ·)

/-- The least number of characters that consecutive matches read. -/
def minLengthAll : List Plan → Option Nat
  | [] => some 0
  | p :: ps =>
    match p.minLength, minLengthAll ps with
    | some m, some n => some (m + n)
    | _, _ => none

/-- The least number of characters that a match of one of several branches reads, if each of them
has one. -/
def minLengthAny : List Plan → Option Nat
  | [] => none
  | [p] => p.minLength
  | p :: ps =>
    match p.minLength, minLengthAny ps with
    | some m, some n => some (min m n)
    | _, _ => none

end

/-- Every match reads something. -/
def alwaysReads (p : Plan) : Bool :=
  match p.minLength with
  | some n => 0 < n
  | none => false

mutual

/-- Every match is empty. -/
def readsNothing : Plan → Bool
  | .empty | .edge _ => true
  | .text _ | .chars _ _ => false
  | .seq items => readsNothingList items
  | .alt branches => readsNothingList branches
  | .group _ body => body.readsNothing
  | .times body _ max _ => max.isSome && body.readsNothing

/-- Every match of every plan of the list is empty. -/
def readsNothingList : List Plan → Bool
  | [] => true
  | p :: ps => p.readsNothing && readsNothingList ps

end

/-! ## Constructions -/

/-- A character of a set. -/
def ofRanges (s : CharRanges) (ascii : Bool) : Plan :=
  match s.only? with
  | some c => .text [c]
  | none => .chars s (ascii || s.ranges.isEmpty)

/-- A repetition. Rounds that read nothing are all alike, so one of them does for any number; what
is repeated zero times is empty, and what is repeated once is itself. -/
def repeated (body : Plan) (min : Nat) (max : Option Nat) (greedy : Bool) : Plan :=
  let least := if body.readsNothing then Nat.min min 1 else min
  let most := if body.readsNothing then some (Nat.min (max.getD 1) 1) else max
  if least = 0 ∧ most = some 0 then .empty
  else if least = 1 ∧ most = some 1 then body
  else .times body least most greedy

/-- An item in front of others; a text is joined with a text behind it. -/
def consItem (p : Plan) (ps : List Plan) : List Plan :=
  match p, ps with
  | .text a, .text b :: rest => .text (a ++ b) :: rest
  | p, ps => p :: ps

/-- A plan in front of items. -/
def consPlan (p : Plan) (ps : List Plan) : List Plan :=
  match p with
  | .empty => ps
  | .seq items => items.foldr consItem ps
  | p => consItem p ps

/-- The plan of items that follow each other. -/
def ofItems : List Plan → Plan
  | [] => .empty
  | [p] => p
  | ps => .seq ps

/-- Plans that follow each other. -/
def concat (ps : List Plan) : Plan := ofItems (ps.foldr consPlan [])

/-- The branches of a plan. -/
def branches : Plan → List Plan
  | .alt bs => bs
  | p => [p]

/-- The items of a plan. -/
def items? : Plan → Option (List Plan)
  | .seq ps => some ps
  | _ => none

/-- The character of a plan that is one character. -/
def char? : Plan → Option Char
  | .text [c] => some c
  | _ => none

/-- The set of a plan that is one character of a set. -/
def set? : Plan → Option CharRanges
  | .chars s _ => some s
  | _ => none

/-- A choice between branches, which is one set if every branch is a character or every branch is a
set. -/
def join (bs : List Plan) : Plan :=
  match bs.mapM char? with
  | some cs => ofRanges (.unions (cs.map .single)) false
  | none =>
    match bs.mapM set? with
    | some ss => ofRanges (.unions ss) false
    | none => .alt bs

/-- The number of items that two lists have in common at the start. -/
def commonLength : List Plan → List Plan → Nat
  | p :: ps, q :: qs => if same p q then commonLength ps qs + 1 else 0
  | _, _ => 0

/-- The number of items that all sequences have in common with the first one at the start. -/
def sharedLength (first : List Plan) (others : List (List Plan)) : Nat :=
  others.foldl (fun n other => min n (commonLength first other)) first.length

/-- A choice between plans. Sequences that start alike give their common start, followed by a choice
of the rests; the rests do not start alike, so this is done once. -/
def choice (ps : List Plan) : Plan :=
  match ps.flatMap branches with
  | [] => .chars .empty true
  | [p] => p
  | bs =>
    match join bs, bs.mapM items? with
    | .alt bs, some (first :: others) =>
      let n := sharedLength first others
      if n = 0 then .alt bs
      else
        let rests := (first :: others).map fun items => ofItems (items.drop n)
        concat (first.take n ++ [join (rests.flatMap branches)])
    | p, _ => p

/-! ## The plan of a pattern -/

mutual

/-- The plan of a pattern. -/
def ofExpr : Expr → Plan
  | .empty => .empty
  | .chars set ascii _ => ofRanges set ascii
  | .edge e => .edge e
  | .seq items => concat (ofExprList items)
  | .alt branches => choice (ofExprList branches)
  | .group none body => ofExpr body
  | .group (some index) body => .group index (ofExpr body)
  | .times body min max greedy => repeated (ofExpr body) min max greedy

/-- The plans of several patterns. -/
def ofExprList : List Expr → List Plan
  | [] => []
  | e :: es => ofExpr e :: ofExprList es

end

/-! ## Groups -/

mutual

/-- The greatest number of a capturing group. -/
def lastGroup : Plan → Nat
  | .empty | .text _ | .chars _ _ | .edge _ => 0
  | .seq items => lastGroupList items
  | .alt branches => lastGroupList branches
  | .group index body => max index body.lastGroup
  | .times body _ _ _ => body.lastGroup

/-- The greatest number of a capturing group in a list. -/
def lastGroupList : List Plan → Nat
  | [] => 0
  | p :: ps => max p.lastGroup (lastGroupList ps)

end

end Plan

end FieldLayout
