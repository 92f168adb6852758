import IngressMeter.Resource.Metadata

/-!
The parts of a pod that matter for reading its log.
-/

namespace IngressMeter

structure PodInfo where
  name : String
  namespaceName : String
  phase : String
  containerReady : Bool
  deriving DecidableEq, Repr

structure ContainerStatus where
  name : String
  ready : Bool
  deriving DecidableEq, Repr

structure Pod where
  metadata : ObjectMeta
  phase : Option String := none
  containers : List ContainerStatus := []
  deriving DecidableEq, Repr

namespace Pod

def record : Form := Form.record []

def stateForm : Form :=
  Form.record [
    { name := "running", form := Form.record [{ name := "startedAt", form := Form.time }] },
    { name := "terminated", form := Form.record [
      { name := "containerID", form := Form.text },
      { name := "exitCode", form := Form.int32 },
      { name := "finishedAt", form := Form.time },
      { name := "message", form := Form.text },
      { name := "reason", form := Form.text },
      { name := "signal", form := Form.int32 },
      { name := "startedAt", form := Form.time }] },
    { name := "waiting", form := Form.record [
      { name := "message", form := Form.text },
      { name := "reason", form := Form.text }] }]

def containerForm : Form :=
  Form.record [
    { name := "allocatedResources", form := Form.textMap },
    { name := "allocatedResourcesStatus", form := Form.listOf record },
    { name := "containerID", form := Form.text },
    { name := "image", form := Form.text },
    { name := "imageID", form := Form.text },
    { name := "lastState", form := stateForm },
    { name := "name", form := Form.text },
    { name := "ready", form := Form.flag },
    { name := "resources", form := record },
    { name := "restartCount", form := Form.int32 },
    { name := "started", form := Form.flag },
    { name := "state", form := stateForm },
    { name := "user", form := record },
    { name := "volumeMounts", form := Form.listOf record }]

def addressForm : Form := Form.record [{ name := "ip", form := Form.text }]

def conditionForm : Form :=
  Form.record [
    { name := "lastProbeTime", form := Form.time },
    { name := "lastTransitionTime", form := Form.time },
    { name := "message", form := Form.text },
    { name := "reason", form := Form.text },
    { name := "status", form := Form.text },
    { name := "type", form := Form.text }]

def statusForm : Form :=
  Form.record [
    { name := "conditions", form := Form.listOf conditionForm },
    { name := "containerStatuses", form := Form.listOf containerForm },
    { name := "ephemeralContainerStatuses", form := Form.listOf containerForm },
    { name := "hostIP", form := Form.text },
    { name := "hostIPs", form := Form.listOf addressForm },
    { name := "initContainerStatuses", form := Form.listOf containerForm },
    { name := "message", form := Form.text },
    { name := "nominatedNodeName", form := Form.text },
    { name := "phase", form := Form.text },
    { name := "podIP", form := Form.text },
    { name := "podIPs", form := Form.listOf addressForm },
    { name := "qosClass", form := Form.text },
    { name := "reason", form := Form.text },
    { name := "resize", form := Form.text },
    { name := "resourceClaimStatuses", form := Form.listOf record },
    { name := "startTime", form := Form.time }]

def containerOf (json : Json) : ContainerStatus where
  name := ((Form.member? json "name").bind Json.toText?).getD ""
  ready := ((Form.member? json "ready").bind Json.toBool?).getD false

def containersOf (status : Json) : List ContainerStatus :=
  match Form.member? status "containerStatuses" with
  | some (.array items) => items.map containerOf
  | _ => []

def ofJson? (json : Json) : Option Pod := do
  let members ← json.toMembers?
  if !Form.isKind "v1" "Pod" members then none
  else
    let metadata ← Json.lastOf? members "metadata" ObjectMeta.ofJson?
    let status ← Json.lastOf? members "status" statusForm
    let _ ← Json.lastOf? members "spec" record
    return {
      metadata := metadata.getD {}
      phase := (status.bind (Form.member? · "phase")).bind Json.toText?
      containers := (status.map containersOf).getD [] }

/-- What a pod says about one of its containers; the first of that name counts. -/
def info (pod : Pod) (container : String) : PodInfo where
  name := pod.metadata.name.getD ""
  namespaceName := pod.metadata.namespaceName.getD ""
  phase := pod.phase.getD "Unknown"
  containerReady :=
    match pod.containers.find? (·.name = container) with
    | some status => status.ready
    | none => false

def listMeta : Form :=
  Form.record [
    { name := "continue", form := Form.text },
    { name := "remainingItemCount", form := Form.int64 },
    { name := "resourceVersion", form := Form.text },
    { name := "selfLink", form := Form.text }]

/-- The items of a list; they may be null but not missing. -/
def listOf? (json : Json) : Option (List Pod) := do
  let fields ← Json.Fields.ofObject? ["metadata", "items"] json
  let _ ← fields.withDefault? "metadata" .null listMeta
  let items ← fields.required? "items" (Json.Fields.nullable? (Json.toList? ofJson?))
  return items.getD []

end Pod

def PodInfo.isStreamable (info : PodInfo) : Bool :=
  !info.name.isEmpty && info.phase = "Running" && info.containerReady

end IngressMeter
