import IngressMeter.AccessLog.PodTag
import IngressMeter.AccessLog.Record
import IngressMeter.Json.Decode
import IngressMeter.Json.Reader

/-!
The JSON log format: one object a line, with durations in nanoseconds. The proxy writes its own log
in JSON too; such a line has neither a status nor a router.
-/

namespace IngressMeter.AccessLog.Structured

structure Entry where
  clientHost : String
  startUtc : String
  routerName : String
  method : String
  path : String
  protocol : String
  originStatus : Option Int
  originContentSize : Nat
  requestCount : Nat
  duration : Float
  overhead : Float

def memberNames : List String :=
  ["ClientHost", "StartUTC", "RouterName", "RequestMethod", "RequestPath", "RequestProtocol",
    "OriginStatus", "OriginContentSize", "RequestCount", "Duration", "Overhead"]

def Entry.ofJson? (json : Json) : Option Entry := do
  let fields ← Json.Fields.of? memberNames json
  let text (name : String) := fields.withDefault? name "" Json.toText?
  let count (name : String) := fields.withDefault? name 0 (Json.toUnsigned? (powerOfTwo 64))
  let amount (name : String) := fields.withDefault? name 0 Json.toFloat?
  return {
    clientHost := ← text "ClientHost"
    startUtc := ← text "StartUTC"
    routerName := ← text "RouterName"
    method := ← text "RequestMethod"
    path := ← text "RequestPath"
    protocol := ← text "RequestProtocol"
    originStatus := ← fields.optional? "OriginStatus" Json.toInt64?
    originContentSize := ← count "OriginContentSize"
    requestCount := ← count "RequestCount"
    duration := ← amount "Duration"
    overhead := ← amount "Overhead" }

def nanosPerMilli : Float := 1000000

def Entry.record (entry : Entry) : AccessRecord where
  clientHost := entry.clientHost
  startUtc := entry.startUtc
  routerName := entry.routerName
  method := entry.method
  path := entry.path
  protocol := entry.protocol
  originContentSize := entry.originContentSize
  requestCount := entry.requestCount
  durationMs := entry.duration / nanosPerMilli
  overheadMs := entry.overhead / nanosPerMilli

def statusOf? (status : Int) : Option Nat :=
  if 0 ≤ status && isStatus status.toNat then some status.toNat else none

def Entry.toRecord (entry : Entry) : Except ParseError AccessRecord :=
  if entry.originStatus.isNone && entry.routerName.isEmpty then .error .notAnAccessLog
  else
    let status := entry.originStatus.getD 0
    match statusOf? status with
    | none => .error (.invalidField .originStatus (toString status) entry.record)
    | some code =>
      let record := { entry.record with originStatus := code }
      if record.durationMs < 0 || !record.durationMs.isFinite then
        .error (.invalidField .duration (Decimal.render entry.duration) record)
      else .ok record

def parse (line : String) : Except ParseError AccessRecord :=
  let text := PodTag.strip (trim line.toList)
  if text.isEmpty then .error .emptyLine
  else
    match (Json.read? text).bind Entry.ofJson? with
    | none => .error .invalidJson
    | some entry => entry.toRecord

end IngressMeter.AccessLog.Structured
