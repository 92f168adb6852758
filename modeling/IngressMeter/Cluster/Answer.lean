import IngressMeter.Failure
import IngressMeter.Json.Decode
import IngressMeter.Json.Reader
import IngressMeter.Text.Quoted

/-!
Answers of the interface of the cluster. An answer with an error code tells in its body what went
wrong; the code in the body counts.
-/

namespace IngressMeter

inductive ApiAnswer where
  | never
  | answer (code : Nat) (body : String)
  deriving DecidableEq, Repr

structure ApiError where
  code : Nat
  reason : String
  message : String
  deriving DecidableEq, Repr

namespace ApiError

open Json

def ofJson? (json : Json) : Option ApiError := do
  let fields ← Fields.of? ["status", "message", "reason", "code"] json
  let _ ← fields.required? "status" toText?
  return {
    message := ← fields.withDefault? "message" "" toText?
    reason := ← fields.withDefault? "reason" "" toText?
    code := ← fields.required? "code" (toUnsigned? (powerOfTwo 16)) }

def ofBody (code : Nat) (body : String) : ApiError :=
  match (Json.ofText? body).bind ofJson? with
  | some error => error
  | none =>
    { code, reason := "Failed to parse error data"
      message := Quoted.encode body }

def toFailure (error : ApiError) : Failure := .ofStatus error.code error.message

end ApiError

namespace ApiAnswer

def isError (code : Nat) : Bool := 400 ≤ code && code < 600

def content (code : Nat) (body : String) : Except ApiError String :=
  if isError code then .error (.ofBody code body) else .ok body

def decode {α : Type} (ofJson? : Json → Option α) (code : Nat) (body : String) : Except Failure α :=
  match content code body with
  | .error error => .error error.toFailure
  | .ok text =>
    match (Json.ofText? text).bind ofJson? with
    | some object => .ok object
    | none => .error (.kubernetes "malformed answer")

end ApiAnswer

end IngressMeter
