import IngressMeter.Json.Number

/-!
Reading a record from JSON. A record is an object, in which a known member may stand only once and
unknown members are passed over, or an array that lists the fields in order.
-/

namespace IngressMeter.Json

structure Fields where
  positional : Bool
  values : List (String × Json)

namespace Fields

def ofMembers? (names : List String) : List (Option String × Json) → Option (List (String × Json))
  | [] => some []
  | (none, _) :: _ => none
  | (some name, value) :: rest =>
    match ofMembers? names rest with
    | none => none
    | some known =>
      if names.contains name then
        if known.any (·.1 = name) then none else some ((name, value) :: known)
      else some known

/-- The fields of a record that may be listed in an array. -/
def of? (names : List String) : Json → Option Fields
  | .object members => (ofMembers? names members).map (⟨false, ·⟩)
  | .array items => if items.length ≤ names.length then some ⟨true, names.zip items⟩ else none
  | _ => none

def ofObject? (names : List String) : Json → Option Fields
  | .object members => (ofMembers? names members).map (⟨false, ·⟩)
  | _ => none

def get? (fields : Fields) (name : String) : Option Json := fields.values.lookup name

def required? {α : Type} (fields : Fields) (name : String) (decode : Json → Option α) : Option α :=
  match fields.get? name with
  | none => none
  | some value => decode value

def withDefault? {α : Type} (fields : Fields) (name : String) (missing : α)
    (decode : Json → Option α) : Option α :=
  match fields.get? name with
  | none => some missing
  | some value => decode value

def nullable? {α : Type} (decode : Json → Option α) : Json → Option (Option α)
  | .null => some none
  | value => (decode value).map some

/-- A field that may be null, or missing from an object but not from a list. -/
def optional? {α : Type} (fields : Fields) (name : String) (decode : Json → Option α) :
    Option (Option α) :=
  match fields.get? name with
  | none => if fields.positional then none else some none
  | some value => nullable? decode value

def optionalOrMissing? {α : Type} (fields : Fields) (name : String) (decode : Json → Option α) :
    Option (Option α) :=
  fields.withDefault? name none (nullable? decode)

end Fields

def toText? : Json → Option String
  | .string text => text
  | _ => none

def toBool? : Json → Option Bool
  | .bool value => some value
  | _ => none

def toUnsigned? (bound : Nat) : Json → Option Nat
  | .number n => n.toUnsigned? bound
  | _ => none

def toInt64? : Json → Option Int
  | .number n => n.toInt64?
  | _ => none

def toFloat? : Json → Option Float
  | .number n => n.toFloat?
  | _ => none

def toList? {α : Type} (decode : Json → Option α) : Json → Option (List α)
  | .array items => items.mapM decode
  | _ => none

/-- The last member of a name, for objects in which a later member replaces an earlier one. -/
def member? (name : String) : Json → Option Json
  | .object members => (members.reverse.find? (·.1 = some name)).map (·.2)
  | _ => none

end IngressMeter.Json
