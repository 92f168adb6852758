import IngressMeter.Backoff
import IngressMeter.Cluster.Client
import IngressMeter.Cluster.RetryQueue
import IngressMeter.Cluster.Watch
import IngressMeter.Reconcile

/-!
The controller brings the rules in line with the objects of the cluster as it hears of them. A
lookup that failed is tried again later; only the replica that leads writes what came of it into the
objects.
-/

namespace IngressMeter

abbrev ApiAnswers := ApiRequest → ApiAnswer

structure Controller where
  service : Service := {}
  retries : RetryQueue := {}
  backoffs : List (String × Backoff) := []
  seen : List String := []
  isLeader : Bool := true

namespace Controller

def component : String := "reconciler"

def reconciler : Reconciler := { hasMetrics := true }

def send {α : Type} (answers : ApiAnswers) (call : Call α) : List ApiRequest × Except Failure α :=
  match call.request with
  | some request => ([request], call.result (answers request))
  | none => ([], call.result .never)

def say (controller : Controller) (status : String) : Controller :=
  { controller with service := { controller.service with
      health := controller.service.health.updateComponent component status none } }

def start (controller : Controller) : Controller := controller.say "starting"

def forgetBackoff (controller : Controller) (object : String) : Controller :=
  { controller with backoffs := controller.backoffs.filter (·.1 ≠ object) }

def setBackoff (controller : Controller) (object : String) (backoff : Backoff) : Controller :=
  { controller with backoffs :=
      (object, backoff) :: controller.backoffs.filter (·.1 ≠ object) }

def lookupOf : Except Failure Bool → TargetLookup
  | .ok true => .found
  | .ok false => .missing
  | .error failure => .failed failure

def lookUp (answers : ApiAnswers) (object : UrlPerformance) : List ApiRequest × TargetLookup :=
  if Reconciler.needsLookup object then
    let call := Client.targetExists object.spec.target.kind object.targetNamespace
      object.spec.target.name
    let (requests, result) := send answers call
    (requests, lookupOf result)
  else ([], .missing)

def writeStatus (controller : Controller) (answers : ApiAnswers) (object : UrlPerformance)
    (status : PerformanceStatus) : List ApiRequest :=
  if object.status = some status || !controller.isLeader then []
  else
    match object.metadata.namespaceName, object.metadata.name with
    | some namespaceName, some name =>
      (send answers (Client.patchStatus namespaceName name status)).1
    | _, _ => []

def planRetry (controller : Controller) (object : String) (now : Nat) : Controller :=
  let backoff := (controller.backoffs.lookup object).getD {}
  match backoff.next with
  | (backoff, .delay nanoseconds) =>
    let planned := controller.setBackoff object backoff
    { planned with
      retries := planned.retries.schedule object (now + nanoseconds / 1000000) }
  | _ => controller.forgetBackoff object

def settle (controller : Controller) (object : UrlPerformance)
    (result : Except ReconcileError PerformanceStatus) (now : Nat) : Controller :=
  match result with
  | .ok _ =>
    let done := controller.forgetBackoff object.objectRef
    { done with retries := done.retries.cancel object.objectRef }
  | .error .missingMetadata => controller
  | .error (.targetLookup _ _ _ _) => controller.planRetry object.objectRef now

def momentOf (now : Nat) : Timestamp := .ofSeconds ((now / 1000 : Nat) : Int)

def apply (controller : Controller) (answers : ApiAnswers) (object : UrlPerformance) (now : Nat) :
    Controller × List ApiRequest :=
  let (asked, lookup) := lookUp answers object
  let (service, result) := reconciler.reconcile controller.service object lookup (momentOf now)
  let settled := { controller with service }.settle object result now
  match result with
  | .ok status => (settled, asked ++ settled.writeStatus answers object status)
  | .error _ => (settled, asked)

def onEvent (controller : Controller) (answers : ApiAnswers) (event : WatchEvent) (now : Nat) :
    Controller × List ApiRequest :=
  match event with
  | .listBegins => ({ controller with seen := [] }, [])
  | .listed object =>
    { controller with seen := object.objectRef :: controller.seen }.apply answers object now
  | .listEnds =>
    let (service, _) := reconciler.prune controller.service controller.seen
    ({ controller with service }.say "running", [])
  | .changed object => controller.apply answers object now
  | .deleted object =>
    let forgotten := controller.forgetBackoff object.objectRef
    let (service, _) := reconciler.cleanup forgotten.service object
    ({ forgotten with service, retries := forgotten.retries.cancel object.objectRef }, [])
  | .failed => (controller.say "reconnecting", [])

def splitReference (object : String) : String × String :=
  let (namespaceName, rest) := object.toList.span (· ≠ '/')
  (String.ofList namespaceName, String.ofList (rest.drop 1))

/-- Tries an object again whose time has come. It is read anew, since it may have changed. -/
def onRetry (controller : Controller) (answers : ApiAnswers) (object : String) (now : Nat) :
    Controller × List ApiRequest :=
  let (namespaceName, name) := splitReference object
  let (requests, fetched) := send answers (Client.fetchObject namespaceName name)
  match fetched with
  | .ok (some found) =>
    let (controller, more) := controller.apply answers found now
    (controller, requests ++ more)
  | .ok none => (controller.forgetBackoff object, requests)
  | .error _ => (controller, requests)

def takeRetry (controller : Controller) (answers : ApiAnswers) (now : Nat) :
    Controller × List ApiRequest :=
  let (retries, object?) := controller.retries.next
  let controller := { controller with retries }
  match object? with
  | some object => controller.onRetry answers object now
  | none => (controller, [])

end Controller

end IngressMeter
