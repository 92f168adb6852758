import IngressMeter.Pattern.Flags
import IngressMeter.Pattern.Node
import IngressMeter.Text.Hex

/-!
What stands behind a backslash: a character, a set of characters, or a condition on a place. The
readers take the text that is left and give back what they read with the text behind it.
-/

namespace IngressMeter.Pattern

inductive Escaped where
  | char (c : Char)
  | set (accepted : CharClass)
  | look (condition : Look)

def readBraced (flags : Flags) (inComment : Bool) : List Char → Option (List Char × List Char)
  | [] => none
  | c :: rest =>
    if inComment then readBraced flags (c != '\n') rest
    else if c = '}' then some ([], rest)
    else if flags.spaced && isBlank c then readBraced flags false rest
    else if flags.spaced && c = '#' then readBraced flags true rest
    else (readBraced flags false rest).map fun (inner, rest) => (c :: inner, rest)

def readHexDigits (flags : Flags) : Nat → List Char → Option (List Char × List Char)
  | 0, text => some ([], text)
  | _ + 1, [] => none
  | count + 1, c :: rest =>
    if isHexDigit c then
      (readHexDigits flags count (skipIgnored flags rest)).map fun (digits, rest) =>
        (c :: digits, rest)
    else none

def readHex (flags : Flags) (count : Nat) (text : List Char) : Option (Char × List Char) :=
  match text with
  | '{' :: rest => do
    let (digits, rest) ← readBraced flags false rest
    return (← charOfHex? digits, rest)
  | text => do
    let (digits, rest) ← readHexDigits flags count text
    let c ← charOfHex? digits
    if count = 2 && !flags.unicode && 128 ≤ c.toNat then none else some (c, rest)

def wordClass (flags : Flags) : CharClass := if flags.unicode then .word else .asciiWord

def digitClass (flags : Flags) : CharClass := if flags.unicode then .digit else .asciiDigit

def blankClass (flags : Flags) : CharClass := if flags.unicode then .blank else .asciiBlank

def wholeChars? (flags : Flags) (accepted : CharClass) : Option CharClass :=
  if !flags.unicode && (List.range 128).any fun code => accepted.mem (code + 128) then none
  else some accepted

def foldClass (flags : Flags) (accepted : CharClass) : CharClass :=
  if !flags.ignoreCase then accepted
  else if flags.unicode then .fold accepted
  else .both (.ranges [(0, 127)]) (.fold accepted)

/-- A name in lower case, without blanks and dashes, and without an `is` at its beginning. -/
def plainName (name : List Char) : String :=
  let kept := (name.filter fun c => c.toNat < 128 && c != ' ' && c != '_' && c != '-').map Char.toLower
  let starts := (name.take 2).map Char.toLower = ['i', 's']
  let plain := if starts then kept.drop 2 else kept
  if starts && plain = ['c'] then "isc" else String.ofList plain

def categoryClass? (name : String) : Option CharClass :=
  match name with
  | "any" => some (.ranges [(0, 0x10FFFF)])
  | "ascii" => some (.ranges [(0, 127)])
  | name => (Category.named? name).map .categories

def scriptClass? (name : String) : Option CharClass := (Script.named? name).map .script

def namedClass? (name : String) : Option CharClass :=
  ((CharProperty.named? name).map CharClass.property).or
    ((categoryClass? name).or (scriptClass? name))

def valueClass? (property value : String) : Option CharClass :=
  match property with
  | "gc" | "generalcategory" => categoryClass? value
  | "sc" | "script" => scriptClass? value
  | _ => none

def splitAt? (mark : List Char) : List Char → Option (List Char × List Char)
  | [] => none
  | c :: rest =>
    if mark.isPrefixOf (c :: rest) then some ([], (c :: rest).drop mark.length)
    else (splitAt? mark rest).map fun (before, after) => (c :: before, after)

def bracedClass? (name : List Char) : Option (CharClass × Bool) :=
  let value (parts : List Char × List Char) := valueClass? (plainName parts.1) (plainName parts.2)
  match splitAt? ['!', '='] name with
  | some parts => (value parts).map (·, true)
  | none =>
    match (splitAt? [':'] name).or (splitAt? ['='] name) with
    | some parts => (value parts).map (·, false)
    | none => (namedClass? (plainName name)).map (·, false)

def readProperty (flags : Flags) (negated : Bool) (text : List Char) :
    Option (CharClass × List Char) := do
  let (name, rest) ← match text with
    | [] => none
    | '{' :: rest => readBraced flags false rest
    | c :: rest => if c = '\\' then none else some ([c], rest)
  if !flags.unicode then none
  else
    let (accepted, unequal) ← bracedClass? name
    let accepted := foldClass flags accepted
    return (if negated != unequal then .complement accepted else accepted, rest)

def isMeta (c : Char) : Bool := "\\.+*?()|[]\x7b\x7d^$#&-~".contains c

def isEscapable (c : Char) : Bool :=
  isMeta c || (c.toNat < 128 && !c.isAlphanum && c != '<' && c != '>')

def isEdgeNameChar (c : Char) : Bool := c.isAlpha || c = '-'

def readEdge (flags : Flags) (text : List Char) : Option (Look × List Char) :=
  let letters := wordClass flags
  match text with
  | '{' :: rest =>
    let name := skipIgnored flags rest
    match name with
    | [] => none
    | c :: _ =>
      if !isEdgeNameChar c then some (.wordEdge letters, text)
      else
        match readBraced flags false name with
        | some (name, rest) =>
          match String.ofList name with
          | "start" => some (.wordStart letters, rest)
          | "end" => some (.wordEnd letters, rest)
          | "start-half" => some (.wordStartHalf letters, rest)
          | "end-half" => some (.wordEndHalf letters, rest)
          | _ => none
        | none => none
  | text => some (.wordEdge letters, text)

def readEscape (flags : Flags) : List Char → Option (Escaped × List Char)
  | [] => none
  | c :: rest =>
    let space := skipIgnored flags rest
    let hex (count : Nat) := (readHex flags count space).map fun (c, rest) => (.char c, rest)
    let property (negated : Bool) :=
      (readProperty flags negated space).map fun (accepted, rest) => (.set accepted, rest)
    let negative (accepted : CharClass) :=
      (wholeChars? flags (.complement accepted)).map fun accepted => (.set accepted, rest)
    match c with
    | 'x' => hex 2
    | 'u' => hex 4
    | 'U' => hex 8
    | 'p' => property false
    | 'P' => property true
    | 'd' => some (.set (digitClass flags), rest)
    | 's' => some (.set (blankClass flags), rest)
    | 'w' => some (.set (wordClass flags), rest)
    | 'D' => negative (digitClass flags)
    | 'S' => negative (blankClass flags)
    | 'W' => negative (wordClass flags)
    | 'a' => some (.char '\x07', rest)
    | 'f' => some (.char '\x0c', rest)
    | 't' => some (.char '\t', rest)
    | 'n' => some (.char '\n', rest)
    | 'r' => some (.char '\r', rest)
    | 'v' => some (.char '\x0b', rest)
    | 'A' => some (.look .textStart, rest)
    | 'z' => some (.look .textEnd, rest)
    | 'b' => (readEdge flags rest).map fun (condition, rest) => (.look condition, rest)
    | 'B' => some (.look (.wordInside (wordClass flags)), rest)
    | '<' => some (.look (.wordStart (wordClass flags)), rest)
    | '>' => some (.look (.wordEnd (wordClass flags)), rest)
    | c => if isEscapable c then some (.char c, rest) else none

end IngressMeter.Pattern
