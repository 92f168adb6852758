import IngressMeter.Cluster.Answer
import IngressMeter.Cluster.Pod
import IngressMeter.Cluster.Request
import IngressMeter.Resource.Definition
import IngressMeter.Text.Lines
import IngressMeter.Time.Timestamp

/-!
The calls that are made to the cluster. A call is the request that is sent and the way its answer is
understood.
-/

namespace IngressMeter

structure Call (α : Type) where
  request : Option ApiRequest
  unsent : Failure
  understand : ApiAnswer → Except Failure α

namespace Call

def result {α : Type} (call : Call α) (answer : ApiAnswer) : Except Failure α :=
  if call.request.isSome then call.understand answer else .error call.unsent

def sendable (name : String) (request : ApiRequest) : Option ApiRequest :=
  if !name.isEmpty && request.isSendable then some request else none

end Call

def callSeconds : Nat := 15

namespace Client

def badRequest : Failure := .kubernetes "malformed request"

def noAnswer : Failure := .kubernetes "no answer"

/-- An object of any kind. Its metadata may be missing but not null. -/
def isObject? (json : Json) : Option Unit := do
  let fields ← Json.Fields.ofObject? ["metadata"] json
  let _ ← fields.withDefault? "metadata" {} ObjectMeta.ofJson?
  return ()

def backendForm : Form :=
  Form.record [
    { name := "resource", form := Form.record [] },
    { name := "service", form := Form.record [] }]

def ingressForm : Form :=
  Form.record [
    { name := "metadata", form := ObjectMeta.form },
    { name := "spec", form := Form.record [
      { name := "defaultBackend", form := backendForm },
      { name := "ingressClassName", form := Form.text },
      { name := "rules", form := Form.listOf (Form.record [
        { name := "host", form := Form.text },
        { name := "http", form := Form.record [
          { name := "paths", form := Form.listOf (Form.record [
            { name := "backend", form := backendForm },
            { name := "path", form := Form.text },
            { name := "pathType", form := Form.text }]) }] }]) },
      { name := "tls", form := Form.listOf (Form.record [
        { name := "hosts", form := Form.listOf Form.text },
        { name := "secretName", form := Form.text }]) }] },
    { name := "status", form := Form.record [{ name := "loadBalancer", form := Form.record [] }] }]

def isIngress? (json : Json) : Option Unit := do
  let members ← json.toMembers?
  if Form.isKind "networking.k8s.io/v1" "Ingress" members then
    let _ ← ingressForm json
    return ()
  else none

/-- An error that names the reason stands for an object that is not there, whatever its code. -/
def understandLookup (decode : Json → Option Unit) : ApiAnswer → Except Failure Bool
  | .never => .error noAnswer
  | .answer code body =>
    match ApiAnswer.content code body with
    | .error error => if error.reason = "NotFound" then .ok false else .error error.toFailure
    | .ok _ => (ApiAnswer.decode decode code body).map fun _ => true

def targetCollection (kind : TargetRefKind) (namespaceName : String) : Collection :=
  match kind with
  | .ingress => .ingresses namespaceName
  | .ingressRoute => .ingressRoutes namespaceName

def targetExists (kind : TargetRefKind) (namespaceName name : String) : Call Bool where
  request := Call.sendable name ((targetCollection kind namespaceName).get name)
  unsent := badRequest
  understand := understandLookup (match kind with
    | .ingress => isIngress?
    | .ingressRoute => isObject?)

def listPods (namespaceName selector : String) : Call (List Pod) where
  request :=
    let request := (Collection.pods namespaceName).list [("labelSelector", selector)]
    if request.isSendable then some request else none
  unsent := badRequest
  understand
    | .never => .error (.timeout "list pods" callSeconds)
    | .answer code body =>
      match ApiAnswer.decode Pod.listOf? code body with
      | .ok pods => .ok pods
      | .error _ =>
        .error (.kubernetes ("Failed to list pods in " ++ namespaceName ++ " (" ++ selector ++ ")"))

def followLogs (namespaceName name container : String) (now : Timestamp) : Call (List String) where
  request := Call.sendable name ((Collection.pods namespaceName).log name
    [("container", container), ("follow", "true"), ("sinceTime", now.toText)])
  unsent := .logSource ("Failed to open log stream for " ++ namespaceName ++ "/" ++ name)
  understand
    | .never => .error (.timeout "open log stream" callSeconds)
    | .answer code body =>
      match ApiAnswer.content code body with
      | .ok text => .ok (splitLines text)
      | .error error =>
        if error.code = 404 then .error (.podNotFound name namespaceName)
        else .error (.logSource ("Failed to open log stream for " ++ namespaceName ++ "/" ++ name))

def patchStatus (namespaceName name : String) (status : PerformanceStatus) : Call Unit where
  request := Call.sendable name ((Collection.urlPerformances namespaceName).patchStatus name
    (.ofMembers [("status", status.toJson)]))
  unsent := badRequest
  understand
    | .never => .error noAnswer
    | .answer code body => (ApiAnswer.decode UrlPerformance.ofJson? code body).map fun _ => ()

def fetchObject (namespaceName name : String) : Call (Option UrlPerformance) where
  request := Call.sendable name ((Collection.urlPerformances namespaceName).get name)
  unsent := badRequest
  understand
    | .never => .error noAnswer
    | .answer code body =>
      match ApiAnswer.content code body with
      | .error error => if error.reason = "NotFound" then .ok none else .error error.toFailure
      | .ok _ => (ApiAnswer.decode UrlPerformance.ofJson? code body).map some

end Client

end IngressMeter
