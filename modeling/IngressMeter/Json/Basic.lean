import IngressMeter.Decimal.Text

/-!
JSON values as they stand in a text. Numbers keep the digits they were written with, since what they
mean depends on who asks: an integer, an amount, or nobody.
-/

namespace IngressMeter

structure Json.Number where
  negative : Bool
  whole : List Char
  fraction : Option (List Char)
  /-- Whether the exponent has a minus sign, and its digits. -/
  exponent : Option (Bool × List Char)
  deriving DecidableEq, Repr

/-- The text of a string; `none` if an escape in it names half of a character. Members stay in order
and may repeat a name. -/
inductive Json where
  | null
  | bool (value : Bool)
  | number (value : Json.Number)
  | string (text : Option String)
  | array (items : List Json)
  | object (members : List (Option String × Json))
  deriving Repr

namespace Json

def text (s : String) : Json := .string (some s)

def ofNat (n : Nat) : Json := .number ⟨false, Decimal.natDigits n, none, none⟩

def ofInt (n : Int) : Json := .number ⟨n < 0, Decimal.natDigits n.natAbs, none, none⟩

def ofMembers (members : List (String × Json)) : Json :=
  .object (members.map fun (name, value) => (some name, value))

def ofTexts (texts : List String) : Json := .array (texts.map text)

end IngressMeter.Json
