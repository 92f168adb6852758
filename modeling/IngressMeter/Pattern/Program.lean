import IngressMeter.Pattern.Node

/-!
Patterns as programs. A step accepts a character, tests a condition, notes a place, or leaves a
choice of two steps, the preferred one first; then it goes on with the steps that it names. A
repetition is written out as often as it is counted.
-/

namespace IngressMeter.Pattern

structure GroupEdge where
  group : Nat
  isEnd : Bool
  deriving DecidableEq, Repr

inductive Step where
  | accept
  | one (accepted : CharClass) (next : Nat)
  | look (condition : Look) (next : Nat)
  | mark (edge : GroupEdge) (next : Nat)
  | fork (first second : Nat)

abbrev Program := Array Step

/-- Steps that go on with `next` when they are done: where they begin, and the program with them. -/
abbrev Emitter := Nat → Program → Nat × Program

namespace Emitter

def step (make : Nat → Step) : Emitter := fun next program => (program.size, program.push (make next))

def forkTo (greedy : Bool) (body next : Nat) : Step :=
  if greedy then .fork body next else .fork next body

def times (body : Emitter) : Nat → Emitter
  | 0, next, program => (next, program)
  | count + 1, next, program =>
    let (rest, program) := times body count next program
    body rest program

def atMost (body : Emitter) (greedy : Bool) (stop : Nat) : Nat → Program → Nat × Program
  | 0, program => (stop, program)
  | count + 1, program =>
    let (rest, program) := atMost body greedy stop count program
    let (start, program) := body rest program
    (program.size, program.push (forkTo greedy start stop))

def oneOrMore (body : Emitter) (greedy : Bool) : Emitter := fun next program =>
  let again := program.size
  let (start, program) := body again (program.push .accept)
  (start, program.setIfInBounds again (forkTo greedy start next))

def zeroOrMore (body : Emitter) (greedy : Bool) : Emitter := fun next program =>
  let (start, program) := oneOrMore body greedy next program
  (program.size, program.push (forkTo greedy start next))

def loop (body : Emitter) (least : Nat) (most : Option Nat) (greedy : Bool) : Emitter :=
  fun next program =>
    match most, least with
    | some most, least =>
      let (rest, program) := atMost body greedy next (most - least) program
      times body least rest program
    | none, 0 => zeroOrMore body greedy next program
    | none, least + 1 =>
      let (last, program) := oneOrMore body greedy next program
      times body least last program

end Emitter

def Node.emit : Node → Emitter
  | .empty => fun next program => (next, program)
  | .one accepted => .step (.one accepted)
  | .look condition => .step (.look condition)
  | .capture index body => fun next program =>
    let (close, program) := Emitter.step (.mark ⟨index, true⟩) next program
    let (start, program) := body.emit close program
    Emitter.step (.mark ⟨index, false⟩) start program
  | .seq first second => fun next program =>
    let (middle, program) := second.emit next program
    first.emit middle program
  | .choice first second => fun next program =>
    let (left, program) := first.emit next program
    let (right, program) := second.emit next program
    (program.size, program.push (.fork left right))
  | .loop body least most greedy => .loop body.emit least most greedy

structure Routine where
  program : Program
  start : Nat

def Node.toRoutine (node : Node) : Routine :=
  let (start, program) := node.emit 0 #[.accept]
  ⟨program, start⟩

end IngressMeter.Pattern
