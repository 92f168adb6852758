import IngressMeter.Text.Quoted

/-!
One request as the access log tells it, and why a line may tell of none.
-/

namespace IngressMeter

/-- Durations are kept in milliseconds and turned into seconds where they are measured. -/
structure AccessRecord where
  clientHost : String := ""
  startUtc : String := ""
  routerName : String := ""
  method : String := ""
  path : String := ""
  protocol : String := ""
  originStatus : Nat := 0
  originContentSize : Nat := 0
  requestCount : Nat := 0
  durationMs : Float := 0
  overheadMs : Float := 0

namespace AccessRecord

def durationSeconds (record : AccessRecord) : Float := record.durationMs / 1000

def overheadSeconds (record : AccessRecord) : Float := record.overheadMs / 1000

def isError (record : AccessRecord) : Bool := 400 ≤ record.originStatus

def isServerError (record : AccessRecord) : Bool := 500 ≤ record.originStatus

end AccessRecord

def isStatus (code : Nat) : Bool := 100 ≤ code && code ≤ 599

def isDuration (amount : Float) : Bool := 0 ≤ amount && amount.isFinite

namespace AccessLog

inductive NumericField where
  | originStatus
  | originContentSize
  | requestCount
  | duration
  deriving DecidableEq, Repr

def NumericField.label : NumericField → String
  | originStatus => "OriginStatus"
  | originContentSize => "OriginContentSize"
  | requestCount => "RequestCount"
  | duration => "Duration"

/-- Why a line gave no record. A line with a bad field still has the record of all its good ones. -/
inductive ParseError where
  | emptyLine
  | notAnAccessLog
  | invalidJson
  | invalidAccessLog
  | invalidField (field : NumericField) (value : String) (record : AccessRecord)

namespace ParseError

def isSilent : ParseError → Bool
  | emptyLine | notAnAccessLog => true
  | _ => false

def record? : ParseError → Option AccessRecord
  | invalidField _ _ record => some record
  | _ => none

def message : ParseError → String
  | emptyLine => "empty line"
  | notAnAccessLog => "not an access log line"
  | invalidJson => "invalid JSON"
  | invalidAccessLog => "invalid access log format"
  | invalidField field value _ => "invalid " ++ field.label ++ ": " ++ Quoted.encode value

end ParseError

end IngressMeter.AccessLog
