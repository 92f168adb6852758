import IngressMeter.AccessLog.Line
import IngressMeter.Source.Disk
import IngressMeter.Source.PodSource
import IngressMeter.View.Basic

/-!
Changes of a disk and logs of pods as they are told, and the lines of a log source as they are
shown.
-/

namespace IngressMeter.View

def diskChange? (step : Json) : Option DiskChange :=
  let bytes := (bytesOf? (member step "data")).getD []
  match textOf step "do" with
  | "append" => some (.append bytes)
  | "overwrite" => some (.overwrite bytes)
  | "replace" => some (.replace bytes)
  | "remove" => some .remove
  | "mkdir" => some .makeDirectory
  | "rmdir" => some .removeDirectory
  | _ => none

def tailLines : List LogLine → List Json
  | [] => []
  | line :: rest =>
    let shown := tailLines rest
    if !line.isError then .text line.text :: shown
    else if (rest.head?.map LogLine.isError).getD false then shown
    else answer [("failed", .bool true)] :: shown

def podLine (line : LogLine) : Json :=
  match line.error with
  | some error => answer [("failed", .text error)]
  | none => .text line.text

def podLines (lines : List LogLine) : Json :=
  let pods := (lines.filterMap (·.source)).eraseDups
  answer (pods.map fun pod =>
    (pod, .array ((lines.filter (·.source = some pod)).map podLine)))

def logStreamOf (json : Json) : LogStream :=
  if boolOr json "not_found" false then .refused (.podNotFound "" "")
  else
    match (member json "fail").toText? with
    | some cause => .refused (.logSource cause)
    | none =>
      .opened (texts json "lines")
        (match (member json "then_error").toText? with
          | some cause => .broken cause
          | none => if boolOr json "stay_open" false then .staysOpen else .closed)

def podStreamsOf (json : Json) : List (String × List LogStream) :=
  (json.toMembers?.getD []).map fun (pod, _) => (pod, (items json pod).map logStreamOf)

def podsOf (json : Json) : Option (List Pod) :=
  match json with
  | .array items => some (items.filterMap Pod.ofJson?)
  | _ => none

end IngressMeter.View
