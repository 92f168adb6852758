import IngressMeter.Json.Basic

/-!
YAML documents as trees, with aliases already replaced by what they stand for. What a plain scalar
means depends on who asks: everything is a text to one who wants a text.
-/

namespace IngressMeter.Yaml

inductive Node where
  | scalar (isPlain : Bool) (text : List Char)
  | sequence (items : List Node)
  | mapping (members : List (Node × Node))
  deriving Repr

namespace Node

def empty : Node := .scalar true []

def isEmpty : Node → Bool
  | .scalar true [] => true
  | _ => false

def nullTexts : List (List Char) := ["null", "Null", "NULL", "~", ""].map String.toList

def trueTexts : List (List Char) := ["true", "True", "TRUE"].map String.toList

def falseTexts : List (List Char) := ["false", "False", "FALSE"].map String.toList

def flagOf? (text : List Char) : Option Bool :=
  if trueTexts.contains text then some true
  else if falseTexts.contains text then some false
  else none

def infinityTexts : List (List Char) :=
  [".inf", ".Inf", ".INF", "-.inf", "-.Inf", "-.INF", "+.inf", "+.Inf", "+.INF"].map String.toList

def nanTexts : List (List Char) := [".nan", ".NaN", ".NAN"].map String.toList

def radixDigit? (radix : Nat) (c : Char) : Option Nat :=
  let value :=
    if '0' ≤ c && c ≤ '9' then c.toNat - '0'.toNat
    else if 'a' ≤ c && c ≤ 'z' then c.toNat - 'a'.toNat + 10
    else if 'A' ≤ c && c ≤ 'Z' then c.toNat - 'A'.toNat + 10
    else 36
  if value < radix then some value else none

def radixValue? (radix : Nat) (digits : List Char) : Option Nat :=
  if digits.isEmpty then none
  else digits.foldlM (fun value c => (radixDigit? radix c).map (value * radix + ·)) 0

def isPaddedNumber (text : List Char) : Bool :=
  match (Decimal.splitSign text).2 with
  | '0' :: second :: rest => (second :: rest).all Decimal.isDigit
  | _ => false

def magnitude? : List Char → Option Nat
  | '0' :: 'x' :: digits => radixValue? 16 digits
  | '0' :: 'o' :: digits => radixValue? 8 digits
  | '0' :: 'b' :: digits => radixValue? 2 digits
  | digits => radixValue? 10 digits

def integerOf? (text : List Char) : Option Int :=
  if isPaddedNumber text then none
  else
    match text with
    | '+' :: rest => (magnitude? rest).map Int.ofNat
    | '-' :: rest => (magnitude? rest).map fun value => -(value : Int)
    | _ => (magnitude? text).map Int.ofNat

def isAmount (text : List Char) : Bool :=
  infinityTexts.contains text || nanTexts.contains text ||
    (!isPaddedNumber text && text.any Decimal.isDigit && (Decimal.readFloat? text).isSome)

def toText? : Node → Option String
  | .scalar _ text => some (String.ofList text)
  | _ => none

def toFlag? : Node → Option Bool
  | .scalar true text => flagOf? text
  | _ => none

def toCount? (bound : Nat) : Node → Option Nat
  | .scalar true text =>
    if isPaddedNumber text then none
    else
      let digits := match text with
        | '+' :: rest => rest
        | _ => text
      (magnitude? digits).filter (· < bound)
  | _ => none

def scalarToJson (isPlain : Bool) (text : List Char) : Json :=
  if !isPlain then .text (String.ofList text)
  else if nullTexts.contains text then .null
  else
    match flagOf? text, integerOf? text with
    | some flag, _ => .bool flag
    | none, some value => .ofInt value
    | none, none => if isAmount text then .ofInt 0 else .text (String.ofList text)

/-- The value that a document stands for when nobody knows what to expect. Amounts that are no
integers are all written as zero. -/
def toJson : Node → Json
  | .scalar isPlain text => scalarToJson isPlain text
  | .sequence items => .array (items.attach.map fun ⟨item, _⟩ => toJson item)
  | .mapping members =>
    .object (members.attach.map fun ⟨(key, value), _⟩ => (key.toText?, toJson value))
termination_by node => sizeOf node
decreasing_by
  · rename_i h
    have := List.sizeOf_lt_of_mem h
    simp only [sequence.sizeOf_spec]
    omega
  · rename_i h
    have := List.sizeOf_lt_of_mem h
    simp only [Prod.mk.sizeOf_spec] at this
    simp only [mapping.sizeOf_spec]
    omega

end IngressMeter.Yaml.Node
