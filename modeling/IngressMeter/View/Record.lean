import IngressMeter.AccessLog.Record
import IngressMeter.View.Basic

/-!
Records of the access log as JSON, and what could not be read of them.
-/

namespace IngressMeter.View

def recordJson (record : AccessRecord) : Json :=
  answer [
    ("client_host", .text record.clientHost),
    ("start_utc", .text record.startUtc),
    ("router_name", .text record.routerName),
    ("method", .text record.method),
    ("path", .text record.path),
    ("protocol", .text record.protocol),
    ("origin_status", .ofNat record.originStatus),
    ("origin_content_size", .ofNat record.originContentSize),
    ("request_count", .ofNat record.requestCount),
    ("duration_ms", float record.durationMs),
    ("overhead_ms", float record.overheadMs),
    ("duration_seconds", float record.durationSeconds),
    ("overhead_seconds", float record.overheadSeconds),
    ("is_error", .bool record.isError),
    ("is_server_error", .bool record.isServerError)]

def recordOf (request : Json) : AccessRecord where
  clientHost := textOf request "client_host"
  startUtc := textOf request "start_utc"
  routerName := textOf request "router_name"
  method := textOf request "method"
  path := textOf request "path"
  protocol := textOf request "protocol"
  originStatus := natOr request "origin_status" 0
  originContentSize := natOr request "origin_content_size" 0
  requestCount := natOr request "request_count" 0
  durationMs := floatOr request "duration_ms" 0
  overheadMs := floatOr request "overhead_ms" 0

def parseErrorKind : AccessLog.ParseError → String
  | .emptyLine => "EmptyLine"
  | .notAnAccessLog => "NotAnAccessLog"
  | .invalidJson => "InvalidJson"
  | .invalidAccessLog => "InvalidAccessLog"
  | .invalidField _ _ _ => "InvalidField"

def parseErrorJson (error : AccessLog.ParseError) : Json :=
  let message := match error with
    | .invalidJson => []
    | _ => [("message", Json.text error.message)]
  let detail := match error with
    | .invalidField field value record =>
      [("field", Json.text field.label), ("value", .text value), ("partial", recordJson record)]
    | _ => []
  failure (parseErrorKind error) (("silent", .bool error.isSilent) :: message ++ detail)

end IngressMeter.View
