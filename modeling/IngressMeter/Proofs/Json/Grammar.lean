import IngressMeter.Json.Reader

/-!
The grammar of JSON: which texts may be written for a value. A character of a string has several
spellings, a number is spelled with the digits it keeps, and space may stand between any two tokens.
-/

namespace IngressMeter.Json

def IsSpaceText (text : List Char) : Prop := ∀ c ∈ text, isSpace c = true

instance (text : List Char) : Decidable (IsSpaceText text) :=
  decidable_of_iff (text.all isSpace = true) List.all_eq_true

def shortEscapes : List (Char × Char) :=
  [('"', '"'), ('\\', '\\'), ('/', '/'), ('b', '\x08'), ('f', '\x0c'), ('n', '\n'), ('r', '\r'),
    ('t', '\t')]

/-- A character as it is, by a short escape, by its code, or by the two halves of its code. -/
inductive CharText (c : Char) : List Char → Prop
  | plain : 32 ≤ c.toNat → c ≠ '"' → c ≠ '\\' → CharText c [c]
  | short {letter : Char} : (letter, c) ∈ shortEscapes → CharText c ['\\', letter]
  | code {digits : List Char} : digits.length = 4 → hexNumber? digits = some c.toNat →
      CharText c ('\\' :: 'u' :: digits)
  | halves {first second : List Char} {high low : Nat} :
      first.length = 4 → hexNumber? first = some high → 0xD800 ≤ high → high < 0xDC00 →
      second.length = 4 → hexNumber? second = some low → 0xDC00 ≤ low → low < 0xE000 →
      c.toNat = 0x10000 + (high - 0xD800) * 0x400 + (low - 0xDC00) →
      CharText c ('\\' :: 'u' :: (first ++ '\\' :: 'u' :: second))

inductive CharsText : List Char → List Char → Prop
  | nil : CharsText [] []
  | cons {c : Char} {chars text rest : List Char} :
      CharText c text → CharsText chars rest → CharsText (c :: chars) (text ++ rest)

inductive StringText (s : String) : List Char → Prop
  | quoted {inner : List Char} : CharsText s.toList inner → StringText s ('"' :: (inner ++ ['"']))

def IsDigits (text : List Char) : Prop := text ≠ [] ∧ ∀ c ∈ text, Decimal.isDigit c = true

structure Number.WellFormed (n : Number) : Prop where
  whole : IsDigits n.whole
  noLeadingZero : n.whole.head? = some '0' → n.whole.length = 1
  fraction : ∀ digits ∈ n.fraction, IsDigits digits
  exponent : ∀ written ∈ n.exponent, IsDigits written.2

def signText (negative : Bool) : List Char := if negative then ['-'] else []

def fractionText : Option (List Char) → List Char
  | some digits => '.' :: digits
  | none => []

inductive ExponentText : Option (Bool × List Char) → List Char → Prop
  | none : ExponentText none []
  | unsigned {mark : Char} {digits : List Char} :
      isDigitMark mark = true → ExponentText (some (false, digits)) (mark :: digits)
  | plus {mark : Char} {digits : List Char} :
      isDigitMark mark = true → ExponentText (some (false, digits)) (mark :: '+' :: digits)
  | minus {mark : Char} {digits : List Char} :
      isDigitMark mark = true → ExponentText (some (true, digits)) (mark :: '-' :: digits)

inductive NumberText (n : Number) : List Char → Prop
  | digits {exponent : List Char} : n.WellFormed → ExponentText n.exponent exponent →
      NumberText n (signText n.negative ++ n.whole ++ fractionText n.fraction ++ exponent)

mutual

/-- A text of a value, without space around it. -/
inductive Written : Json → List Char → Prop
  | null : Written .null ['n', 'u', 'l', 'l']
  | true : Written (.bool true) ['t', 'r', 'u', 'e']
  | false : Written (.bool false) ['f', 'a', 'l', 's', 'e']
  | number {n : Number} {text : List Char} : NumberText n text → Written (.number n) text
  | string {s : String} {text : List Char} : StringText s text → Written (.string (some s)) text
  | emptyArray {space : List Char} :
      IsSpaceText space → Written (.array []) ('[' :: (space ++ [']']))
  | array {items : List Json} {space text : List Char} : IsSpaceText space →
      WrittenItems items text → Written (.array items) ('[' :: (space ++ text))
  | emptyObject {space : List Char} :
      IsSpaceText space → Written (.ofMembers []) ('{' :: (space ++ ['}']))
  | object {members : List (String × Json)} {space text : List Char} : IsSpaceText space →
      WrittenMembers members text → Written (.ofMembers members) ('{' :: (space ++ text))

inductive WrittenItems : List Json → List Char → Prop
  | last {item : Json} {text after : List Char} : Written item text → IsSpaceText after →
      WrittenItems [item] (text ++ (after ++ [']']))
  | cons {item : Json} {items : List Json} {text after before rest : List Char} :
      Written item text → IsSpaceText after → IsSpaceText before → WrittenItems items rest →
      WrittenItems (item :: items) (text ++ (after ++ ',' :: (before ++ rest)))

inductive WrittenMember : String × Json → List Char → Prop
  | member {name : String} {value : Json} {nameText text before between after : List Char} :
      StringText name nameText → IsSpaceText before → IsSpaceText between → Written value text →
      IsSpaceText after →
      WrittenMember (name, value) (nameText ++ (before ++ ':' :: (between ++ (text ++ after))))

inductive WrittenMembers : List (String × Json) → List Char → Prop
  | last {member : String × Json} {text : List Char} :
      WrittenMember member text → WrittenMembers [member] (text ++ ['}'])
  | cons {member : String × Json} {members : List (String × Json)} {text before rest : List Char} :
      WrittenMember member text → IsSpaceText before → WrittenMembers members rest →
      WrittenMembers (member :: members) (text ++ ',' :: (before ++ rest))

end

end IngressMeter.Json
