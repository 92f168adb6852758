import IngressMeter.Json.Basic

/-!
Writing JSON text: no space between the parts, and an escape only where a string needs one.
-/

namespace IngressMeter.Json

def hexPad (code : Nat) : List Char :=
  let digits := Nat.toDigits 16 code
  List.replicate (4 - digits.length) '0' ++ digits

def escapeChar (c : Char) : List Char :=
  match c with
  | '"' => ['\\', '"']
  | '\\' => ['\\', '\\']
  | '\x08' => ['\\', 'b']
  | '\x0c' => ['\\', 'f']
  | '\n' => ['\\', 'n']
  | '\r' => ['\\', 'r']
  | '\t' => ['\\', 't']
  | c => if c.toNat < 32 then '\\' :: 'u' :: hexPad c.toNat else [c]

def renderString (text : String) : List Char := '"' :: text.toList.flatMap escapeChar ++ ['"']

def Number.render (n : Number) : List Char :=
  let sign (negative : Bool) := if negative then ['-'] else []
  sign n.negative ++ n.whole ++
    (match n.fraction with
      | none => []
      | some digits => '.' :: digits) ++
    (match n.exponent with
      | none => []
      | some (negative, digits) => 'e' :: sign negative ++ digits)

def commaSeparated : List (List Char) → List Char
  | [] => []
  | [part] => part
  | part :: rest => part ++ ',' :: commaSeparated rest

/-- The text of a value; half of a character is written as the escape it came from would be, by the
replacement character. -/
def renderChars : Json → List Char
  | .null => ['n', 'u', 'l', 'l']
  | .bool true => ['t', 'r', 'u', 'e']
  | .bool false => ['f', 'a', 'l', 's', 'e']
  | .number n => n.render
  | .string text => renderString (text.getD "\uFFFD")
  | .array items => '[' :: commaSeparated (items.attach.map fun ⟨item, _⟩ => renderChars item) ++ [']']
  | .object members =>
    '{' :: commaSeparated (members.attach.map fun ⟨(name, value), _⟩ =>
      renderString (name.getD "\uFFFD") ++ ':' :: renderChars value) ++ ['}']
  termination_by json => sizeOf json
  decreasing_by
    all_goals simp_wf
    all_goals rename_i member
    · have := List.sizeOf_lt_of_mem member
      omega
    · have := List.sizeOf_lt_of_mem member
      simp at this
      omega

def render (json : Json) : String := String.ofList json.renderChars

end IngressMeter.Json
