import FieldLayout.Pattern.Plan

/-!
# Programs

A plan is turned into a program, whose instructions read a character, test the place, mark a place,
or go on at one of several addresses. A program is written from its end: an instruction goes on at
addresses that are already known. Only a loop leads to a later address. Its instruction is written
before the body, and the way into the body is filled in once the body stands.

What a pattern finds depends on which instructions it has in common: no instruction is tried twice
at the same place. So the copies of a counted repetition are separate, and a loop whose body can
read nothing enters the body from two instructions, one for the first round and one for the later
rounds.

## Main definitions

* `Instr`, `Program`: instructions and programs.
* `Program.emit`: puts a plan in front of a program.
* `Program.ofPlan`: the program of a plan.
-/

namespace FieldLayout

/-- An instruction. -/
inductive Instr where
  /-- Reads a character of a set. -/
  | read (set : CharRanges) (next : Nat)
  /-- Goes on at a place that meets a condition. -/
  | edge (e : Edge) (next : Nat)
  /-- Notes the place under a number. -/
  | mark (slot : Nat) (next : Nat)
  /-- Goes on at one of several addresses, an earlier one rather than a later one. -/
  | fork (targets : List Nat)
  /-- A match is complete. -/
  | accept
  deriving Inhabited

/-- The instructions of a search, and the address of the first one. -/
structure Program where
  /-- The instructions. -/
  code : Array Instr
  /-- The address of the first instruction. -/
  entry : Nat
  deriving Inhabited

namespace Program

/-- The program that accepts at once. -/
def done : Program := ⟨#[.accept], 0⟩

/-- An instruction in front of a program; it is given the address of what follows. -/
def before (p : Program) (instr : Nat → Instr) : Program :=
  let address := p.code.size
  ⟨p.code.push (instr p.entry), address⟩

/-- The numbers under which the two ends of a group are noted. -/
def startSlot (index : Nat) : Nat := 2 * index

@[inherit_doc startSlot]
def stopSlot (index : Nat) : Nat := 2 * index + 1

/-- The choice between going into a body and going past it, in order of preference. -/
def orPast (greedy : Bool) (body past : Nat) : Instr :=
  if greedy then .fork [body, past] else .fork [past, body]

/-- A body that may be left out, in front of a program; `past` is where to go on without it. -/
def optionally (body : Program → Program) (greedy : Bool) (past : Nat) (p : Program) : Program :=
  (body p).before fun entry => orPast greedy entry past

/-- A loop instruction and its body in front of a program, with the address of the loop instruction.
The program enters at the body. -/
def looped (body : Program → Program) (greedy : Bool) (p : Program) : Nat × Program :=
  let past := p.entry
  let loop := p.before fun _ => .accept
  let address := loop.entry
  let inner := body loop
  let entry := inner.entry
  (address, ⟨inner.code.setIfInBounds address (orPast greedy entry past), entry⟩)

/-- A repetition in front of a program. -/
def repeatedly (body : Program → Program) (reads greedy : Bool) (min : Nat) (max : Option Nat)
    (p : Program) : Program :=
  let past := p.entry
  match max with
  | some max => Nat.repeat body min (Nat.repeat (optionally body greedy past) (max - min) p)
  | none =>
    let (address, loop) := looped body greedy p
    match min with
    | 0 => if reads then ⟨loop.code, address⟩ else loop.before fun entry => orPast greedy entry past
    | n + 1 => Nat.repeat body n loop

mutual

/-- A plan in front of a program. -/
def emit : Plan → Program → Program
  | .empty => fun p => p
  | .text cs => fun p => cs.foldr (fun c p => p.before (.read (.single c))) p
  | .chars set _ => fun p => p.before (.read set)
  | .edge e => fun p => p.before (.edge e)
  | .seq items => emitAll items
  | .alt branches => fun p =>
    let (entries, code) := emitEach branches p.entry p.code
    let address := code.size
    ⟨code.push (.fork entries), address⟩
  | .group index body => fun p =>
    (emit body (p.before (.mark (stopSlot index)))).before (.mark (startSlot index))
  | .times body min max greedy => repeatedly (emit body) body.alwaysReads greedy min max

/-- Plans that follow each other, in front of a program. -/
def emitAll : List Plan → Program → Program
  | [] => fun p => p
  | e :: es => fun p => emit e (emitAll es p)

/-- Plans that all go on at the same address, with the addresses at which they start. -/
def emitEach : List Plan → Nat → Array Instr → List Nat × Array Instr
  | [] => fun _ code => ([], code)
  | e :: es => fun next code =>
    let p := emit e ⟨code, next⟩
    let entry := p.entry
    let (entries, code) := emitEach es next p.code
    (entry :: entries, code)

end

/-- The program of a plan. -/
def ofPlan (plan : Plan) : Program := emit plan done

end Program

end FieldLayout
