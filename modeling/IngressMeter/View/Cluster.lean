import IngressMeter.Cluster.Answer
import IngressMeter.Cluster.Request
import IngressMeter.ControllerLoop
import IngressMeter.Json.Printer
import IngressMeter.Time.Timestamp
import IngressMeter.View.Rules

/-!
Requests to the cluster as they are shown, and its answers as they are told. Moments that depend on
when a request was sent are hidden.
-/

namespace IngressMeter.View

def mapTexts (change : String → String) : Json → Json
  | .string text => .string (text.map change)
  | .array items => .array (items.attach.map fun ⟨item, _⟩ => mapTexts change item)
  | .object members =>
    .object (members.attach.map fun ⟨(name, value), _⟩ => (name, mapTexts change value))
  | json => json
  termination_by json => sizeOf json
  decreasing_by
    all_goals simp_wf
    all_goals rename_i member
    · have := List.sizeOf_lt_of_mem member
      omega
    · have := List.sizeOf_lt_of_mem member
      simp at this
      omega

def isRecent (text : String) : Bool :=
  match text.toList with
  | a :: b :: c :: d :: '-' :: _ =>
    [a, b, c, d].all Decimal.isDigit && text.toList.contains 'T' &&
      (Timestamp.ofText? text).isSome &&
      (let year := Decimal.digitsValue [a, b, c, d] 0
       2025 ≤ year && year ≤ 2888)
  | _ => false

def maskTimes : Json → Json := mapTexts fun text => if isRecent text then "<now>" else text

def currentTime : Timestamp := .ofSeconds 1900000000

def percentDecode : List UInt8 → List UInt8
  | 37 :: a :: b :: rest =>
    match hexValue? (Char.ofNat a.toNat), hexValue? (Char.ofNat b.toNat) with
    | some high, some low => UInt8.ofNat (high * 16 + low) :: percentDecode rest
    | _, _ => 37 :: percentDecode (a :: b :: rest)
  | byte :: rest => byte :: percentDecode rest
  | [] => []

def requestMembers (request : ApiRequest) : List (String × Json) :=
  [ ("method", .text request.method),
    ("path", .text (Utf8.decodeLossy (percentDecode (Utf8.encode request.path)))),
    ("body", match request.body with
      | some body => maskTimes body
      | none => .null)]

def requestAnswer (request : ApiRequest) : Json :=
  let query := request.query.mergeSort fun a b => !(b.1 < a.1)
  answer (requestMembers request ++
    [("query", .array (query.map fun (name, value) =>
      maskTimes (.ofTexts [name, value])))])

def statusReason (code : Nat) : String :=
  if code = 404 then "NotFound" else if code = 409 then "Conflict" else "Scripted"

def statusBody (code : Nat) : String :=
  (answer [
    ("kind", .text "Status"), ("apiVersion", .text "v1"), ("metadata", answer []),
    ("status", .text "Failure"), ("reason", .text (statusReason code)), ("code", .ofNat code),
    ("message", .text ("failed with " ++ toString code))]).render

def apiAnswerOf (response : Json) : ApiAnswer :=
  if boolOr response "hang" false then .never
  else
    let code := natOr response "code" 200
    let body := match response.member? "body" with
      | some (.string (some text)) => text
      | some body => body.render
      | none => if 400 ≤ code then statusBody code else ""
    .answer code body

def scripted (code : Option Nat) (body : Json) : ApiAnswer :=
  match code with
  | some code => .answer code (statusBody code)
  | none => .answer 200 body.render

def codeOf? (step : Json) (name : String) : Option Nat := (member step name).toUnsigned? (powerOfTwo 16)

end IngressMeter.View
