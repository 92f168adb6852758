import IngressMeter.Json.Basic
import IngressMeter.Text.Hex

/-!
Reading JSON text. Each reader takes a text and returns what it read with the text that is left. The
readers of nested values count down from the length of the text, which no text uses up.
-/

namespace IngressMeter.Json

def isSpace (c : Char) : Bool := c = ' ' || c = '\t' || c = '\n' || c = '\r'

def skipSpace (text : List Char) : List Char := text.dropWhile isSpace

def isHighHalf (code : Nat) : Bool := 0xD800 ≤ code && code < 0xDC00

def isLowHalf (code : Nat) : Bool := 0xDC00 ≤ code && code < 0xE000

def joinHalves (high low : Nat) : Char :=
  Char.ofNat (0x10000 + (high - 0xD800) * 0x400 + (low - 0xDC00))

def simpleEscape? (c : Char) : Option Char :=
  match c with
  | '"' => some '"'
  | '\\' => some '\\'
  | '/' => some '/'
  | 'b' => some '\x08'
  | 'f' => some '\x0c'
  | 'n' => some '\n'
  | 'r' => some '\r'
  | 't' => some '\t'
  | _ => none

/-- What was read of a string: its characters in reverse, `none` once half of a character stood
alone, and a first half that waits for its second. -/
structure OpenString where
  read : Option (List Char) := some []
  half : Option Nat := none

namespace OpenString

def settle (soFar : OpenString) : Option (List Char) :=
  if soFar.half.isSome then none else soFar.read

def push (soFar : OpenString) (c : Char) : OpenString :=
  { read := soFar.settle.map (c :: ·) }

def pushCode (soFar : OpenString) (code : Nat) : OpenString :=
  if isHighHalf code then { read := soFar.settle, half := some code }
  else if isLowHalf code then
    match soFar.half with
    | some high => { read := soFar.read.map (joinHalves high code :: ·) }
    | none => { read := none }
  else soFar.push (Char.ofNat code)

def finish (soFar : OpenString) : Option String :=
  soFar.settle.map fun read => String.ofList read.reverse

end OpenString

def readString (before : OpenString) : List Char → Option (Option String × List Char)
  | '"' :: rest => some (before.finish, rest)
  | '\\' :: 'u' :: a :: b :: c :: d :: rest =>
    match hexNumber? [a, b, c, d] with
    | none => none
    | some code => readString (before.pushCode code) rest
  | '\\' :: c :: rest =>
    match simpleEscape? c with
    | none => none
    | some escaped => readString (before.push escaped) rest
  | c :: rest => if c.toNat < 32 || c = '\\' then none else readString (before.push c) rest
  | [] => none

def isDigitMark (c : Char) : Bool := c = 'e' || c = 'E'

def readDigits? (text : List Char) : Option (List Char × List Char) :=
  let (digits, rest) := text.span Decimal.isDigit
  if digits.isEmpty then none else some (digits, rest)

def readFraction? : List Char → Option (Option (List Char) × List Char)
  | '.' :: rest => (readDigits? rest).map fun (digits, rest) => (some digits, rest)
  | text => some (none, text)

def readExponent? : List Char → Option (Option (Bool × List Char) × List Char)
  | [] => some (none, [])
  | mark :: rest =>
    if isDigitMark mark then
      let (negative, rest) := Decimal.splitSign rest
      (readDigits? rest).map fun (digits, rest) => (some (negative, digits), rest)
    else some (none, mark :: rest)

def readNumber? (text : List Char) : Option (Number × List Char) := do
  let (negative, text) := match text with
    | '-' :: rest => (true, rest)
    | _ => (false, text)
  let (whole, rest) ← readDigits? text
  if whole.head? = some '0' && whole.length ≠ 1 then none
  else
    let (fraction, rest) ← readFraction? rest
    let (exponent, rest) ← readExponent? rest
    return (⟨negative, whole, fraction, exponent⟩, rest)

mutual

def readValue : Nat → List Char → Option (Json × List Char)
  | 0, _ => none
  | fuel + 1, text =>
    match text with
    | 'n' :: 'u' :: 'l' :: 'l' :: rest => some (.null, rest)
    | 't' :: 'r' :: 'u' :: 'e' :: rest => some (.bool true, rest)
    | 'f' :: 'a' :: 'l' :: 's' :: 'e' :: rest => some (.bool false, rest)
    | '"' :: rest => (readString {} rest).map fun (text, rest) => (.string text, rest)
    | '[' :: rest =>
      match skipSpace rest with
      | ']' :: rest => some (.array [], rest)
      | rest => (readItems fuel rest []).map fun (items, rest) => (.array items, rest)
    | '{' :: rest =>
      match skipSpace rest with
      | '}' :: rest => some (.object [], rest)
      | rest => (readMembers fuel rest []).map fun (members, rest) => (.object members, rest)
    | text => (readNumber? text).map fun (read, rest) => (.number read, rest)

def readItems : Nat → List Char → List Json → Option (List Json × List Char)
  | 0, _, _ => none
  | fuel + 1, text, out =>
    match readValue fuel text with
    | none => none
    | some (value, rest) =>
      match skipSpace rest with
      | ',' :: rest => readItems fuel (skipSpace rest) (value :: out)
      | ']' :: rest => some ((value :: out).reverse, rest)
      | _ => none

def readMembers :
    Nat → List Char → List (Option String × Json) →
      Option (List (Option String × Json) × List Char)
  | 0, _, _ => none
  | fuel + 1, text, out =>
    match text with
    | '"' :: rest =>
      match readString {} rest with
      | none => none
      | some (name, rest) =>
        match skipSpace rest with
        | ':' :: rest =>
          match readValue fuel (skipSpace rest) with
          | none => none
          | some (value, rest) =>
            match skipSpace rest with
            | ',' :: rest => readMembers fuel (skipSpace rest) ((name, value) :: out)
            | '}' :: rest => some (((name, value) :: out).reverse, rest)
            | _ => none
        | _ => none
    | _ => none

end

def read? (text : List Char) : Option Json :=
  match readValue (text.length + 1) (skipSpace text) with
  | some (value, rest) => if (skipSpace rest).isEmpty then some value else none
  | none => none

def ofText? (text : String) : Option Json := read? text.toList

end IngressMeter.Json
