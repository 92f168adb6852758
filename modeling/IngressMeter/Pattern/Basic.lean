import IngressMeter.Pattern.Expression
import IngressMeter.Pattern.Template

/-!
Patterns that can be matched. One that nests too deep or grows too large is refused like one that is
not well formed. How large it grows is estimated: the room that a class takes up depends on how its
ranges are laid out as bytes, and here only a typical value stands for it. Close to the limit a
pattern may be refused that would fit, or the other way round.
-/

namespace IngressMeter.Pattern

def maxDepth : Nat := 250

def maxSize : Nat := 10 * powerOfTwo 20

/-- An estimate of the room a class takes up. The values are typical ones, not those of a layout. -/
def classSize : CharClass → Nat
  | .ranges table => 32 + (table.map fun (_, last) => if last < 128 then 8 else 120).sum
  | .digit => 2500
  | .blank => 600
  | .word => 20000
  | .categories kinds => 300 + 2500 * kinds.length
  | .script _ | .property _ => 5000
  | .union first second | .both first second | .less first second | .either first second =>
    classSize first + classSize second
  | .complement inner => classSize inner + 300
  | .fold inner => 2 * classSize inner

def Node.size : Node → Nat
  | .empty | .look _ => 32
  | .one accepted => classSize accepted
  | .capture _ body => body.size + 64
  | .seq first second => first.size + second.size
  | .choice first second => first.size + second.size + 64
  | .loop body least most _ => body.size * max 1 (max least (most.getD 0)) + 64

end IngressMeter.Pattern

namespace IngressMeter

structure Pattern where
  source : String
  routine : Pattern.Routine
  names : List (String × Nat)

namespace Pattern

def compile? (source : String) : Option Pattern :=
  let text := source.toList
  match readChoices (text.length + 1) {} [] [] { rest := text } with
  | some ((node, depth), done) =>
    let node := node.getD .empty
    if done.rest.isEmpty && depth ≤ maxDepth && node.size ≤ maxSize then
      some ⟨source, node.toRoutine, done.names⟩
    else none
  | none => none

def matches? (pattern : Pattern) (text : List Char) : Bool := pattern.routine.isMatch text

def replaceAll (pattern : Pattern) (template : List Char) (text : List Char) : List Char :=
  replaceMatches (templateParts 0 template) text pattern.names 0 (pattern.routine.allMatches text)

end Pattern

end IngressMeter
