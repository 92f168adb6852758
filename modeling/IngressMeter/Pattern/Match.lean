import IngressMeter.Pattern.Program

/-!
Searching. A search follows the preferred way and comes back to the next one when that fails. A step
is taken at most once at each place, since a second time could only fail as the first one did, or go
round in a circle.
-/

namespace IngressMeter.Pattern

structure Thread where
  step : Nat
  place : Place
  marks : List (GroupEdge × Nat) := []

structure Found where
  first : Nat
  place : Place
  marks : List (GroupEdge × Nat)

def Found.isEmpty (found : Found) : Bool := found.first = found.place.index

def Found.group? (found : Found) (group : Nat) : Option (Nat × Nat) := do
  return (← found.marks.lookup ⟨group, false⟩, ← found.marks.lookup ⟨group, true⟩)

namespace Routine

def follow (thread : Thread) : Step → List Thread
  | .accept => []
  | .one accepted next =>
    match thread.place.next? with
    | some (c, place) => if accepted.accepts c then [{ thread with step := next, place }] else []
    | none => []
  | .look condition next =>
    if condition.holds thread.place then [{ thread with step := next }] else []
  | .mark edge next =>
    [{ thread with step := next, marks := (edge, thread.place.index) :: thread.marks }]
  | .fork first second => [{ thread with step := first }, { thread with step := second }]

/-- Follows the threads, the first one first, up to the end of the program. `seen` tells which steps
have been taken at which of `width` places. -/
def run (program : Program) (width : Nat) : Nat → Array Bool → List Thread →
    Option Thread × Array Bool
  | 0, seen, _ => (none, seen)
  | _ + 1, seen, [] => (none, seen)
  | fuel + 1, seen, thread :: rest =>
    let key := thread.step * width + thread.place.index
    if seen.getD key true then run program width fuel seen rest
    else
      match program[thread.step]? with
      | none => run program width fuel seen rest
      | some .accept => (some thread, seen)
      | some step =>
        run program width fuel (seen.setIfInBounds key true) (follow thread step ++ rest)

/-- The leftmost match in `rest`, which stands after `before`. A step that failed at a place does so
for matches that begin further right as well. -/
def searchFrom (routine : Routine) (width : Nat) (seen : Array Bool) (index : Nat)
    (before : Option Char) (rest : List Char) : Option Found :=
  let fuel := 2 * routine.program.size * width + 2
  let (found?, seen) :=
    run routine.program width fuel seen [⟨routine.start, ⟨index, before, rest⟩, []⟩]
  match found?, rest with
  | some thread, _ => some ⟨index, thread.place, thread.marks⟩
  | none, [] => none
  | none, c :: rest => routine.searchFrom width seen (index + 1) (some c) rest

def search? (routine : Routine) (place : Place) : Option Found :=
  let width := place.index + place.rest.length + 1
  let seen := Array.replicate (routine.program.size * width) false
  routine.searchFrom width seen place.index place.before place.rest

/-- The next match from `place`, where an empty match right behind the last one does not count. -/
def nextMatch? (routine : Routine) (lastEnd : Option Nat) (place : Place) : Option Found :=
  match routine.search? place with
  | none => none
  | some found =>
    if found.isEmpty && lastEnd = some found.place.index then
      place.next?.bind fun (_, place) => routine.search? place
    else some found

def matchesFrom (routine : Routine) : Nat → Option Nat → Place → List Found
  | 0, _, _ => []
  | fuel + 1, lastEnd, place =>
    match routine.nextMatch? lastEnd place with
    | none => []
    | some found => found :: routine.matchesFrom fuel (some found.place.index) found.place

def allMatches (routine : Routine) (text : List Char) : List Found :=
  routine.matchesFrom (text.length + 2) none (Place.start text)

def isMatch (routine : Routine) (text : List Char) : Bool :=
  (routine.search? (Place.start text)).isSome

end Routine

end IngressMeter.Pattern
