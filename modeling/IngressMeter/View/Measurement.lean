import IngressMeter.Metrics.Engine
import IngressMeter.View.Basic

/-!
Measurements as JSON. Rows are shown in the order in which they began, endpoints in that of their
names.
-/

namespace IngressMeter.View

def statMembers (stat : EndpointStat) : List (String × Json) :=
  [ ("total", .ofNat stat.totalRequests),
    ("errors", .ofNat stat.errorCount),
    ("client_errors", .ofNat stat.clientErrorCount),
    ("server_errors", .ofNat stat.serverErrorCount),
    ("seq", .ofNat stat.seq),
    ("duration", float stat.totalDuration),
    ("max", float stat.maxDuration),
    ("avg", float stat.avgDuration),
    ("error_rate", float stat.errorRate),
    ("client_error_rate", float stat.clientErrorRate),
    ("server_error_rate", float stat.serverErrorRate)]

def statJson (stat : EndpointStat) : Json := answer (statMembers stat)

def optionalStat : Option EndpointStat → Json
  | some stat => statJson stat
  | none => .null

def rowsJson (rows : List (EndpointKey × EndpointStat)) : Json :=
  .array ((rows.mergeSort fun a b => a.2.seq ≤ b.2.seq).map fun (key, stat) =>
    answer (statMembers stat ++ [("router", .text key.router), ("path", .text key.path)]))

def keyOf (request : Json) : EndpointKey := ⟨textOf request "router", textOf request "path"⟩

def topJson (top : TopSet) : Json :=
  let notAfter (a b : EndpointKey) : Bool :=
    if a.router = b.router then !(b.path < a.path) else a.router < b.router
  .array ((top.endpoints.mergeSort notAfter).map fun key => .ofTexts [key.router, key.path])

def rowOf (item : Json) : EndpointKey × EndpointStat :=
  (keyOf item, {
    totalRequests := natOr item "total" 1
    totalDuration := floatOr item "duration" 0
    maxDuration := 0, errorCount := 0, clientErrorCount := 0, serverErrorCount := 0
    seq := natOr item "seq" 0 })

def probeOf : Json → EndpointKey
  | .array [.string (some router), .string (some path)] => ⟨router, path⟩
  | _ => ⟨"", ""⟩

end IngressMeter.View
