import FieldLayout.Unicode.Utf8
import Std.Data.HashMap

/-!
# Room for states

A program over bytes is made of states, which are numbered in the order in which they are made. What
they take is counted in bytes: a state takes a fixed number of them, a state that leads to several
states more for each reference, and a state that reads a byte from several ranges more for each
transition.

A set of characters is a tree of byte ranges. Forwards, a node of the tree that has been made
already is used again. Backwards, so is a step from a state. What has been made is looked up in a
table with a fixed number of places, where a later entry takes the place of an earlier one with the
same hash value. So the room depends on the numbers of the states.

## Main definitions

* `Room`: how many states there are, and what their references and transitions take.
* `Room.grow`: makes states, within the limit.
* `Direction`: the direction in which a program reads.
* `Room.addSet`: makes the states of a set.
-/

namespace FieldLayout

/-- The direction in which a program reads a text. -/
inductive Direction where
  /-- From the start to the end, with groups. -/
  | forward
  /-- From the end to the start, without groups. -/
  | backward
  deriving DecidableEq, Repr, Inhabited

/-- The states of a program. -/
structure Room where
  /-- The number of states. -/
  states : Nat
  /-- The number of bytes of references and transitions. -/
  links : Nat
  deriving DecidableEq, Repr, Inhabited

namespace Room

/-- No states. -/
def start : Room := ⟨0, 0⟩

/-- The number of bytes of a state by itself. -/
def stateSize : Nat := 32

/-- The number of bytes of a reference to a state. -/
def referenceSize : Nat := 4

/-- The number of bytes of a range of bytes with the state that it leads to. -/
def transitionSize : Nat := 8

/-- The number of bytes that states take. -/
def size (r : Room) : Nat := r.states * stateSize + r.links

/-- The number of bytes that a program may take: ten mebibytes. -/
def maxSize : Nat := 10485760

/-- The states of two parts. -/
def add (r s : Room) : Room := ⟨r.states + s.states, r.links + s.links⟩

/-- The states, unless they exceed the limit. -/
def checked (r : Room) : Option Room := if r.size ≤ maxSize then some r else none

/-- Some more states without links of their own. -/
def grow (n : Nat) (r : Room) : Option Room := (r.add ⟨n, 0⟩).checked

/-- One more state that leads to one of several states without reading. -/
def growFork (n : Nat) (r : Room) : Option Room := (r.add ⟨1, n * referenceSize⟩).checked

/-! ## Tables of states -/

/-- The hash value of a list of numbers: each of them is mixed in by an exclusive or and a
multiplication. -/
def hash (values : List Nat) : UInt64 :=
  values.foldl (fun h v => (h ^^^ v.toUInt64) * 1099511628211) 14695981039346656037

/-- A table of states under keys. Each place holds one entry. -/
abbrev StateTable : Type := Std.HashMap UInt64 (List Nat × Nat)

/-- The state under a key, if its place holds it. -/
def StateTable.find? (t : StateTable) (place : UInt64) (key : List Nat) : Option Nat :=
  match t[place]? with
  | some (other, state) => if other == key then some state else none
  | none => none

/-- States that are being made, with the table of those that may be used again. -/
structure Workshop where
  /-- The states. -/
  room : Room
  /-- The table. -/
  table : StateTable

/-- The state for a key, which is made with the given links if the table with the given number of
places does not hold it. -/
def Workshop.state (w : Workshop) (places : UInt64) (links : Nat) (key : List Nat) :
    Nat × Workshop :=
  let place := hash key % places
  match w.table.find? place key with
  | some state => (state, w)
  | none =>
    let state := w.room.states
    (state, ⟨w.room.add ⟨1, links⟩, w.table.insert place (key, state)⟩)

/-! ## Sets -/

/-- The states of a set of the ASCII range: one that reads and one behind it. -/
def addAscii (s : CharRanges) (r : Room) : Room := r.add ⟨2, s.ranges.length * transitionSize⟩

/-- The number of places of the table of steps. -/
def stepPlaces : UInt64 := 1000

/-- The states that read a sequence of byte ranges backwards, from the state where they end. -/
def addSequence (stop : Nat) (w : Workshop) (ranges : Unicode.ByteSequence) : Workshop :=
  let step := fun (source, w) range => w.state stepPlaces 0 [source, range.lo, range.hi]
  (ranges.foldl step (stop, w)).2

/-- The states of a set that reads backwards: a fork into its sequences, the state behind them, and
the states of the sequences. -/
def addBackward (s : CharRanges) (r : Room) : Room :=
  let sequences := Unicode.byteSequences s
  let ends := r.add ⟨2, sequences.length * referenceSize⟩
  (sequences.foldl (addSequence (r.states + 1)) ⟨ends, ∅⟩).room

/-- The number of places of the table of nodes. -/
def nodePlaces : UInt64 := 10000

/-- The states of a node of the tree of sequences of at most a given length, and the number of its
own state. -/
def addNode (stop : Nat) : Nat → List Unicode.ByteSequence → Workshop → Nat × Workshop
  | 0, _, w => (stop, w)
  | length + 1, sequences, w =>
    if sequences.all List.isEmpty then (stop, w)
    else
      let groups := Unicode.fork sequences
      let (key, w) := groups.foldl (fun (key, w) group =>
        let (next, w) := addNode stop length (group.map List.tail) w
        match group.head?.bind List.head? with
        | some range => (key ++ [range.lo, range.hi, next], w)
        | none => (key, w)) ([], w)
      w.state nodePlaces (groups.length * transitionSize) key

/-- The states of a set that reads forwards: the state behind it and the nodes of its tree. -/
def addForward (s : CharRanges) (r : Room) : Room :=
  (addNode r.states Unicode.maxLength (Unicode.byteSequences s) ⟨r.add ⟨1, 0⟩, ∅⟩).2.room

/-- The states of a set. -/
def addSet (d : Direction) (s : CharRanges) (r : Room) : Option Room :=
  checked <|
    if s.isAscii then r.addAscii s
    else
      match d with
      | .forward => r.addForward s
      | .backward => r.addBackward s

end Room

end FieldLayout
