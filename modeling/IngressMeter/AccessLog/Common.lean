import IngressMeter.AccessLog.PodTag
import IngressMeter.AccessLog.Record
import IngressMeter.Decimal.Text
import IngressMeter.Text.Digit
import IngressMeter.Text.Hex

/-!
The common log format:

    client - user [start] "method path protocol" status size "referrer" "agent" count "router" "backend" duration

Where the fields of a line can be told apart in several ways, the leftmost host counts, then the
longest method, then the longest path, and so on.
-/

namespace IngressMeter.AccessLog.Common

def isAsciiLetter (c : Char) : Bool := ('a' ≤ c && c ≤ 'z') || ('A' ≤ c && c ≤ 'Z')

def one? (accept : Char → Bool) : List Char → Option (List Char)
  | c :: rest => if accept c then some rest else none
  | [] => none

def char? (expected : Char) (text : List Char) : Option (List Char) := one? (· = expected) text

def repeat? (accept : Char → Bool) : Nat → List Char → Option (List Char)
  | 0, text => some text
  | count + 1, text => (one? accept text).bind (repeat? accept count)

def digits? (count : Nat) (text : List Char) : Option (List Char) :=
  repeat? isDecimalDigit count text

def octetPoint? (text : List Char) : Option (List Char) :=
  let (digits, rest) := text.span isDecimalDigit
  if digits.isEmpty || 3 < digits.length then none else char? '.' rest

def startsWithIpv4 (text : List Char) : Bool :=
  (do one? isDecimalDigit (← octetPoint? (← octetPoint? (← octetPoint? text)))).isSome

def startsWithIpv6 (text : List Char) : Bool :=
  let (group, rest) := text.span isHexDigit
  group.length ≤ 4 && rest.head? = some ':'

def startsWithTaggedIpv4 : List Char → Bool
  | '[' :: text =>
    let (tag, rest) := text.span (· ≠ ']')
    let (space, address) := rest.tail.span isBlank
    !tag.isEmpty && !rest.isEmpty && !space.isEmpty && startsWithIpv4 address
  | _ => false

def startsWithTimestamp (text : List Char) : Bool :=
  Option.isSome do
    let text ← char? '[' text
    let text ← char? '/' (← digits? 2 text)
    let text ← char? '/' (← repeat? isAsciiLetter 3 text)
    let text ← char? ':' (← digits? 4 text)
    let text ← char? ':' (← digits? 2 text)
    let text ← char? ':' (← digits? 2 text)
    let text ← char? ' ' (← digits? 2 text)
    let text ← one? (fun c => c = '+' || c = '-') text
    char? ']' (← digits? 4 text)

def hasTimestamp : List Char → Bool
  | [] => false
  | c :: rest => startsWithTimestamp (c :: rest) || hasTimestamp rest

def looksLikeAccessLog (line : List Char) : Bool :=
  startsWithIpv4 line || startsWithIpv6 line || startsWithTaggedIpv4 line || hasTimestamp line

structure Fields where
  host : List Char
  user : List Char
  start : List Char
  method : List Char
  path : List Char
  protocol : List Char
  status : List Char
  size : List Char
  referrer : List Char
  agent : List Char
  count : List Char
  router : List Char
  backend : List Char
  duration : List Char
  deriving DecidableEq, Repr

def isNonBlank (c : Char) : Bool := !isBlank c

def blank? (text : List Char) : Option (List Char) := one? isBlank text

def word? (text : List Char) : Option (List Char × List Char) :=
  let (word, rest) := text.span isNonBlank
  if word.isEmpty then none else (blank? rest).map (word, ·)

def quoted? : List Char → Option (List Char × List Char)
  | '"' :: text =>
    let (inner, rest) := text.span (· ≠ '"')
    match rest with
    | '"' :: rest => (blank? rest).map ('"' :: inner ++ ['"'], ·)
    | _ => none
  | _ => none

def dash? : List Char → Option (List Char × List Char)
  | '-' :: rest => (blank? rest).map (['-'], ·)
  | _ => none

def firstOf {α : Type} (ways : List (Option (List Char × List Char)))
    (next : List Char → List Char → Option α) : Option α :=
  ways.findSome? fun way => way.bind fun (field, rest) => next field rest

def quotedOrDash {α : Type} (text : List Char) (next : List Char → List Char → Option α) :
    Option α :=
  firstOf [quoted? text, dash? text] next

def anyField {α : Type} (text : List Char) (next : List Char → List Char → Option α) : Option α :=
  firstOf [quoted? text, dash? text, word? text] next

def origin? (fields : Fields) (text : List Char) : Option Fields := do
  let (status, text) ← word? text
  let (size, text) ← word? text
  anyField text fun referrer text =>
    anyField text fun agent text => do
      let (count, text) ← word? text
      quotedOrDash text fun router text =>
        quotedOrDash text fun backend text =>
          let duration := text.takeWhile isNonBlank
          if duration.isEmpty then none
          else some { fields with status, size, referrer, agent, count, router, backend, duration }

def protocol? (fields : Fields) (text : List Char) : Option Fields :=
  let (protocol, rest) := text.span (· ≠ '"')
  match rest with
  | '"' :: rest => (blank? rest).bind (origin? { fields with protocol })
  | _ => none

def escapedRun (taken : List Char) : List Char → List Char × List Char
  | '\\' :: '"' :: rest => escapedRun ('"' :: '\\' :: taken) rest
  | c :: rest => if c = '"' then (taken, c :: rest) else escapedRun (c :: taken) rest
  | [] => (taken, [])

/-- Gives back characters of a run, the last one first, until `next` succeeds. -/
def giveBack {α : Type} (next : List Char → List Char → Option α) :
    List Char → List Char → Option α
  | [], text => next [] text
  | c :: taken, text => next (c :: taken).reverse text <|> giveBack next taken (c :: text)

def path? (fields : Fields) (text : List Char) : Option Fields :=
  let (taken, rest) := escapedRun [] text
  giveBack (fun path rest => (blank? rest).bind (protocol? { fields with path })) taken rest

def request? (fields : Fields) (text : List Char) : Option Fields :=
  let (method, rest) := text.span isNonBlank
  giveBack
    (fun method rest =>
      let fields := { fields with method }
      (blank? rest).bind (path? fields) <|> path? fields rest)
    method.reverse rest

def start? (text : List Char) : Option (List Char × List Char) := do
  let text ← char? '[' text
  let (start, rest) := text.span (· ≠ ']')
  if start.isEmpty then none
  else return (start, ← blank? (← char? ']' rest))

def fieldsHere? (text : List Char) : Option Fields := do
  let (host, text) ← word? text
  let text ← blank? (← char? '-' text)
  let (user, text) ← word? text
  let (start, text) ← start? text
  let text ← char? '"' text
  request? ⟨host, user, start, [], [], [], [], [], [], [], [], [], [], []⟩ text

def fields? : List Char → Option Fields
  | [] => none
  | c :: rest => fieldsHere? (c :: rest) <|> fields? rest

def unquote (field : List Char) : List Char :=
  dropEndWhile (· = '"') (field.dropWhile (· = '"'))

/-- Cuts the unit off a duration, as often as it stands there; `text` is in reverse. -/
def dropUnit : List Char → List Char
  | 's' :: 'm' :: rest => dropUnit rest
  | text => text

def status? (text : List Char) : Option Nat :=
  (Decimal.readUnsigned? (powerOfTwo 16) text).filter fun code => isStatus code

def size? (text : List Char) : Option Nat :=
  if text = ['-'] then some 0 else Decimal.readUnsigned? (powerOfTwo 64) text

def count? (text : List Char) : Option Nat := Decimal.readUnsigned? (powerOfTwo 64) text

def duration? (text : List Char) : Option Float :=
  (Decimal.readFloat? (dropUnit text.reverse).reverse).filter fun amount => isDuration amount

namespace Fields

def record (fields : Fields) : AccessRecord where
  clientHost := String.ofList fields.host
  startUtc := String.ofList fields.start
  routerName := String.ofList (unquote fields.router)
  method := String.ofList fields.method
  path := String.ofList fields.path
  protocol := String.ofList fields.protocol
  originStatus := (status? fields.status).getD 0
  originContentSize := (size? fields.size).getD 0
  requestCount := (count? fields.count).getD 0
  durationMs := (duration? fields.duration).getD 0

def defect? (fields : Fields) : Option (NumericField × List Char) :=
  if (status? fields.status).isNone then some (.originStatus, fields.status)
  else if (size? fields.size).isNone then some (.originContentSize, fields.size)
  else if (count? fields.count).isNone then some (.requestCount, fields.count)
  else if (duration? fields.duration).isNone then some (.duration, fields.duration)
  else none

def toRecord (fields : Fields) : Except ParseError AccessRecord :=
  match fields.defect? with
  | some (field, value) => .error (.invalidField field (String.ofList value) fields.record)
  | none => .ok fields.record

end Fields

def parse (line : String) : Except ParseError AccessRecord :=
  let text := trim line.toList
  if text.isEmpty then .error .emptyLine
  else if !looksLikeAccessLog text then .error .notAnAccessLog
  else
    match fields? (PodTag.strip text) with
    | none => .error .invalidAccessLog
    | some fields => fields.toRecord

end IngressMeter.AccessLog.Common
