import IngressMeter.Failure
import IngressMeter.Resource.UrlPerformance
import IngressMeter.Service

/-!
Bringing the rules in force in line with an object of the cluster, and telling what came of it. The
rules are stored first; the status is for the object to keep.
-/

namespace IngressMeter

inductive TargetLookup where
  | found
  | missing
  | failed (failure : Failure)
  deriving DecidableEq, Repr

inductive ReconcileError where
  | targetLookup (kind : TargetRefKind) (namespaceName name : String) (failure : Failure)
  | missingMetadata
  deriving DecidableEq, Repr

def ReconcileError.message : ReconcileError → String
  | targetLookup kind namespaceName name failure =>
    "failed to look up " ++ kind.label ++ " " ++ namespaceName ++ "/" ++ name ++ ": " ++
      failure.message
  | missingMetadata => "object has no name or namespace"

namespace UrlPerformance

def hasIdentity (object : UrlPerformance) : Bool :=
  object.metadata.name.isSome && object.metadata.namespaceName.isSome

def targetText (object : UrlPerformance) : String :=
  object.spec.target.kind.label ++ " " ++ object.targetNamespace ++ "/" ++ object.spec.target.name

end UrlPerformance

namespace PerformanceStatus

def setCondition (status : PerformanceStatus) (type : ConditionType) (value : ConditionStatus)
    (reason message : String) (now : Timestamp) : PerformanceStatus :=
  { status with conditions := Condition.set status.conditions type value reason message now }

end PerformanceStatus

structure Reconciler where
  hasMetrics : Bool := true

namespace Reconciler

def forget (reconciler : Reconciler) (key : String) (engine : Engine) : Engine :=
  if reconciler.hasMetrics then engine.forgetRouter key else engine

def withdraw (reconciler : Reconciler) (service : Service) (object : UrlPerformance) :
    Service × Bool :=
  let (store, removed) := service.store.removeOwned object.targetKey object.objectRef
  if removed.isSome then
    ({ service with store, engine := reconciler.forget object.targetKey service.engine }, true)
  else ({ service with store }, false)

def needsLookup (object : UrlPerformance) : Bool := object.hasIdentity && object.spec.enabled

def disabledStatus (status : PerformanceStatus) (now : Timestamp) : PerformanceStatus :=
  { status.setCondition .ready .false "Disabled" "Monitoring is disabled" now with
    phase := .disabled }

def missingStatus (status : PerformanceStatus) (message : String) (now : Timestamp) :
    PerformanceStatus :=
  let noted := status.setCondition .targetExists .false "NotFound" message now
  { noted.setCondition .ready .false "TargetNotFound" message now with phase := .error }

def foundStatus (status : PerformanceStatus) (message : String) (now : Timestamp) :
    PerformanceStatus :=
  status.setCondition .targetExists .true "Found" message now

def invalidStatus (status : PerformanceStatus) (message : String) (now : Timestamp) :
    PerformanceStatus :=
  let noted := status.setCondition .configGenerated .false "InvalidRegex" message now
  { noted.setCondition .ready .false "InvalidRegex" message now with phase := .error }

def activeStatus (status : PerformanceStatus) (now : Timestamp) : PerformanceStatus :=
  let noted :=
    status.setCondition .configGenerated .true "Generated" "Runtime configuration generated" now
  { noted.setCondition .ready .true "Ready" "Monitoring is active" now with phase := .active }

def largestCount : Nat := powerOfTwo 31 - 1

/-- Counts the paths of the target once for each generation of the object. -/
def observeGeneration (reconciler : Reconciler) (service : Service) (object : UrlPerformance)
    (status : PerformanceStatus) : PerformanceStatus :=
  let count : Int := min (service.engine.trackedPaths object.targetKey) largestCount
  let isNew := status.observedGeneration ≠ object.metadata.generation
  { status with
    monitoredPaths := if isNew && reconciler.hasMetrics then some count else status.monitoredPaths
    observedGeneration := object.metadata.generation }

def activate (reconciler : Reconciler) (service : Service) (object : UrlPerformance)
    (status : PerformanceStatus) (now : Timestamp) : Service × PerformanceStatus :=
  let found := foundStatus status (object.targetText ++ " exists") now
  match object.toRules now with
  | .error pattern => (service, invalidStatus found (Failure.invalidRegex pattern).message now)
  | .ok rules =>
    let (store, _) := service.store.upsert rules
    ({ service with store },
      reconciler.observeGeneration service object (activeStatus found now))

/-- Brings the store in line with an object. Only a failed lookup is worth another attempt; all else
that can be wrong is told in the status. -/
def reconcile (reconciler : Reconciler) (service : Service) (object : UrlPerformance)
    (lookup : TargetLookup) (now : Timestamp) :
    Service × Except ReconcileError PerformanceStatus :=
  let status := object.status.getD {}
  if !object.hasIdentity then (service, .error .missingMetadata)
  else if !object.spec.enabled then
    ((reconciler.withdraw service object).1, .ok (disabledStatus status now))
  else
    match lookup with
    | .failed failure =>
      (service, .error (.targetLookup object.spec.target.kind object.targetNamespace
        object.spec.target.name failure))
    | .missing =>
      (service, .ok (missingStatus status (object.targetText ++ " not found") now))
    | .found =>
      let (service, status) := reconciler.activate service object status now
      (service, .ok status)

def cleanup (reconciler : Reconciler) (service : Service) (object : UrlPerformance) :
    Service × Bool :=
  reconciler.withdraw service object

def prune (reconciler : Reconciler) (service : Service) (owners : List String) :
    Service × List String :=
  let (store, removed) := service.store.retainOwners owners
  ({ service with
      store
      engine := removed.foldl (fun engine key => reconciler.forget key engine) service.engine },
    removed)

end Reconciler

end IngressMeter
