import FieldLayout.Pattern.Plan
import FieldLayout.Pattern.Room

/-!
# The room that a search takes

A plan is turned into two programs over bytes, one that reads the text forwards and reports groups,
and one that reads it backwards and does not. The room that the states of each of them take is
limited. It can be told without writing the programs, by going through the plan in the order in
which its states are made.

A counted repetition is written out as often as it counts. A choice between texts is a tree of
bytes.

## Main definitions

* `Footprint.ofTexts`: the states of a choice between texts.
* `Plan.measure`: makes the states of a plan.
* `Plan.footprint?`: the states of the whole program, if they are within the limit.
* `Plan.fits`: both programs are within the limit.
-/

namespace FieldLayout

namespace Footprint

/-! ## Texts -/

/-- The bytes of a text in the order in which they are read. -/
def bytes (d : Direction) (cs : List Char) : List UInt8 :=
  match d with
  | .forward => cs.flatMap String.utf8EncodeChar
  | .backward => (cs.flatMap String.utf8EncodeChar).reverse

/-- Words between the empty ones, which end at the node itself. -/
def segments (words : List (List UInt8)) : List (List (List UInt8)) :=
  match words.foldr (fun word (segment, later) =>
    if word.isEmpty then ([], segment :: later) else (word :: segment, later)) ([], []) with
  | (segment, later) => segment :: later

/-- The segments of a node. At the start, several empty words are as good as one. -/
def nodeSegments (words : List (List UInt8)) : List (List (List UInt8)) :=
  if words.head? == some [] then segments ([] :: words.dropWhile List.isEmpty) else segments words

/-- The states of several parts. -/
def total (parts : List Room) : Room := parts.foldl Room.add .start

/-- The state of a segment of a node whose words start with the given bytes, and the reference to
it. -/
def ofSegment (firsts : List UInt8) : Room :=
  match firsts with
  | [] => .start
  | [_] => ⟨1, Room.referenceSize⟩
  | firsts => ⟨1, Room.referenceSize + firsts.length * Room.transitionSize⟩

/-- The states of the tree of words of at most a given length, without the state at which all words
end. -/
def ofWords : Nat → List (List UInt8) → Room
  | 0, _ => .start
  | length + 1, words =>
    if words.all List.isEmpty then .start
    else
      let parts := nodeSegments words
      let forks := parts.map fun part => (part.filterMap List.head?).eraseDups
      let below := (parts.zip forks).map fun (part, firsts) =>
        total (firsts.map fun b =>
          ofWords length ((part.filter fun w => w.head? == some b).map List.tail))
      Room.add ⟨1, (parts.length - 1) * Room.referenceSize⟩
        ((total (forks.map ofSegment)).add (total below))

/-- The states of a choice between texts. -/
def ofTexts (d : Direction) (texts : List (List Char)) : Room :=
  let words := texts.map (bytes d)
  Room.add ⟨1, 0⟩ (ofWords ((words.map List.length).foldl max 0) words)

/-! ## Repetitions -/

/-- Makes the same states several times. -/
def times (make : Room → Option Room) : Nat → Room → Option Room
  | 0, r => some r
  | n + 1, r =>
    match make r with
    | none => none
    | some r => times make n r

/-- Makes the states of a repetition, given how those of its body are made and whether the body
always reads. -/
def repeated (make : Room → Option Room) (reads : Bool) (min : Nat) (max : Option Nat) (r : Room) :
    Option Room :=
  match max with
  | none =>
    if 0 < min then (times make min r).bind (Room.growFork 2)
    else if reads then (r.growFork 2).bind make
    else (((make r).bind (Room.growFork 2)).bind (Room.growFork 2)).bind (Room.grow 1)
  | some max =>
    if min = 0 ∧ max = 1 then ((r.growFork 2).bind make).bind (Room.grow 1)
    else if min = max then times make min r
    else
      ((if min = 0 then r.grow 1 else times make min r).bind (Room.grow 1)).bind
        (times (fun r => (r.growFork 2).bind make) (max - min))

end Footprint

/-- The text of a plan that is a text. -/
def Plan.text? : Plan → Option (List Char)
  | .text cs => some cs
  | _ => none

mutual

/-- Makes the states of a plan. -/
def Plan.measure (d : Direction) : Plan → Room → Option Room
  | .empty, r | .edge _, r => r.grow 1
  | .text cs, r => r.grow (Footprint.bytes d cs).length
  | .chars set _, r => r.addSet d set
  | .seq items, r =>
    match d with
    | .forward => Plan.measureAll d items r
    | .backward => Plan.measureAllBack d items r
  | .alt branches, r =>
    match branches.mapM Plan.text? with
    | some texts => (r.add (Footprint.ofTexts d texts)).checked
    | none => Plan.measureEach d 0 branches r
  | .group _ body, r =>
    match d with
    | .forward => ((r.grow 1).bind fun r => body.measure d r).bind (Room.grow 1)
    | .backward => body.measure d r
  | .times body min max _, r =>
    Footprint.repeated (fun r => body.measure d r) body.alwaysReads min max r

/-- Makes the states of several plans, the first one first. -/
def Plan.measureAll (d : Direction) : List Plan → Room → Option Room
  | [], r => some r
  | p :: ps, r =>
    match p.measure d r with
    | none => none
    | some r => Plan.measureAll d ps r

/-- Makes the states of several plans, the last one first. -/
def Plan.measureAllBack (d : Direction) : List Plan → Room → Option Room
  | [], r => some r
  | p :: ps, r =>
    match Plan.measureAllBack d ps r with
    | none => none
    | some r => p.measure d r

/-- Makes the states of the branches of a choice behind a number of earlier ones. The fork between
the branches and the state behind them are made after the second branch. -/
def Plan.measureEach (d : Direction) : Nat → List Plan → Room → Option Room
  | earlier, [], r => (r.add ⟨0, earlier * Room.referenceSize⟩).checked
  | earlier, p :: ps, r =>
    match p.measure d r with
    | none => none
    | some r =>
      match if earlier = 1 then r.grow 2 else some r with
      | none => none
      | some r => Plan.measureEach d (earlier + 1) ps r

end

mutual

/-- A match can only start at the start of the text. -/
def Plan.bindsStart : Plan → Bool
  | .edge e => e = .textStart
  | .empty | .text _ | .chars _ _ => false
  | .seq items => Plan.bindsStartAll items
  | .alt branches => Plan.bindsStartEach branches
  | .group _ body => body.bindsStart
  | .times body min _ _ => 0 < min && body.bindsStart

/-- One of the first items binds the start, up to the first one that can read something. -/
def Plan.bindsStartAll : List Plan → Bool
  | [] => false
  | p :: ps => p.bindsStart || (p.readsNothing && Plan.bindsStartAll ps)

/-- Every branch binds the start. -/
def Plan.bindsStartEach : List Plan → Bool
  | [] => true
  | p :: ps => p.bindsStart && Plan.bindsStartEach ps

end

mutual

/-- A match can only stop at the end of the text. -/
def Plan.bindsEnd : Plan → Bool
  | .edge e => e = .textEnd
  | .empty | .text _ | .chars _ _ => false
  | .seq items => Plan.bindsEndAll items
  | .alt branches => Plan.bindsEndEach branches
  | .group _ body => body.bindsEnd
  | .times body min _ _ => 0 < min && body.bindsEnd

/-- One of the last items binds the end, back to the last one that can read something. -/
def Plan.bindsEndAll : List Plan → Bool
  | [] => false
  | p :: ps => (Plan.readsNothingList ps && p.bindsEnd) || Plan.bindsEndAll ps

/-- Every branch binds the end. -/
def Plan.bindsEndEach : List Plan → Bool
  | [] => true
  | p :: ps => p.bindsEnd && Plan.bindsEndEach ps

end

/-- The states of a loop over any byte: a fork, a state that reads and one behind it. -/
def Room.anywhere : Room := ⟨3, 2 * Room.referenceSize + Room.transitionSize⟩

/-- The states of the whole program, if they are within the limit. Unless the plan binds the place
where reading starts, a loop over any byte stands in front of it; forwards, the whole match counts
as a group. -/
def Plan.footprint? (p : Plan) : Direction → Option Room
  | .forward =>
    (((if p.bindsStart then Room.start.grow 1 else Room.anywhere.checked).bind (Room.grow 1)).bind
      (p.measure .forward)).bind (Room.grow 2)
  | .backward =>
    ((if p.bindsEnd then Room.start.grow 1 else Room.anywhere.checked).bind
      (p.measure .backward)).bind (Room.grow 1)

/-- Both programs are within the limit. -/
def Plan.fits (p : Plan) : Bool := (p.footprint? .forward).isSome && (p.footprint? .backward).isSome

end FieldLayout
