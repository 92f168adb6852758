import IngressMeter.Pattern.CharClass

/-!
Patterns as trees, and the conditions on a place in a text that they may state.
-/

namespace IngressMeter.Pattern

inductive Look where
  | textStart
  | textEnd
  | lineStart
  | lineEnd
  | returnStart
  | returnEnd
  | wordEdge (letters : CharClass)
  | wordInside (letters : CharClass)
  | wordStart (letters : CharClass)
  | wordEnd (letters : CharClass)
  | wordStartHalf (letters : CharClass)
  | wordEndHalf (letters : CharClass)

inductive Node where
  | empty
  | one (accepted : CharClass)
  | look (condition : Look)
  | capture (index : Nat) (body : Node)
  | seq (first second : Node)
  | choice (first second : Node)
  | loop (body : Node) (least : Nat) (most : Option Nat) (greedy : Bool)

structure Place where
  index : Nat
  before : Option Char
  rest : List Char

def Place.start (text : List Char) : Place := ⟨0, none, text⟩

def Place.next? (place : Place) : Option (Char × Place) :=
  match place.rest with
  | [] => none
  | c :: rest => some (c, ⟨place.index + 1, some c, rest⟩)

def Look.holds (place : Place) : Look → Bool
  | textStart => place.before.isNone
  | textEnd => place.rest.isEmpty
  | lineStart => place.before.isNone || place.before = some '\n'
  | lineEnd => place.rest.isEmpty || place.rest.head? = some '\n'
  | returnStart =>
    place.before.isNone || place.before = some '\n' ||
      (place.before = some '\r' && place.rest.head? != some '\n')
  | returnEnd =>
    place.rest.isEmpty || place.rest.head? = some '\r' ||
      (place.rest.head? = some '\n' && place.before != some '\r')
  | wordEdge letters => wordBefore letters != wordAfter letters
  | wordInside letters => wordBefore letters == wordAfter letters
  | wordStart letters => !wordBefore letters && wordAfter letters
  | wordEnd letters => wordBefore letters && !wordAfter letters
  | wordStartHalf letters => !wordBefore letters
  | wordEndHalf letters => !wordAfter letters
where
  wordBefore (letters : CharClass) : Bool := place.before.any letters.accepts
  wordAfter (letters : CharClass) : Bool := place.rest.head?.any letters.accepts

end IngressMeter.Pattern
