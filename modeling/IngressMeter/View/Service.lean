import IngressMeter.Failure
import IngressMeter.Resource.Condition
import IngressMeter.Routes
import IngressMeter.View.Basic

/-!
The health of the service, its pages, its failures and the conditions of its objects as JSON.
-/

namespace IngressMeter.View

def healthJson (report : HealthReport) : Json :=
  answer (report.members ++
    [("text", .text report.status.label), ("is_healthy", .bool report.isHealthy)])

def bodyJson : PageBody → Json
  | .empty => .null
  | .exposition lines => linesJson lines
  | .report report => answer report.members

def pageJson (page : PageAnswer) : Json :=
  let body := match page.body, page.contentType with
    | .empty, some "application/json" => Json.null
    | .empty, _ => .array []
    | body, _ => bodyJson body
  answer [
    ("status", .ofNat page.status),
    ("content_type", optionalText page.contentType),
    ("allow", optionalText page.allow),
    ("body", body)]

def failureName : Failure → String
  | .kubernetes _ => "KubernetesError"
  | .notFound _ => "NotFound"
  | .podNotFound _ _ => "PodNotFound"
  | .logSource _ => "LogSourceError"
  | .timeout _ _ => "Timeout"
  | .config _ => "ConfigError"
  | .invalidRegex _ => "InvalidRegex"
  | .rotation _ => "RotationError"
  | .input => "IoError"
  | .unsupported _ => "UnsupportedFeature"

def failureJson (failed : Failure) : Json :=
  let message := match failed with
    | .notFound _ | .podNotFound _ _ | .timeout _ _ => [("message", Json.text failed.message)]
    | _ => []
  failure (failureName failed) (("is_not_found", .bool failed.isNotFound) :: message)

def conditionJson (condition : Condition) : Json :=
  answer [
    ("type", .text condition.type.label),
    ("status", .text condition.status.label),
    ("time", match condition.lastTransition with
      | some time => .ofInt time.seconds
      | none => .null),
    ("reason", .text condition.reason),
    ("message", .text condition.message)]

end IngressMeter.View
