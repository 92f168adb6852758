import IngressMeter.Resource.Condition
import IngressMeter.Rules.Basic

/-!
The objects in the cluster that ask for a target to be measured, and what the service reports of
each.
-/

namespace IngressMeter

inductive TargetRefKind where
  | ingress
  | ingressRoute
  deriving DecidableEq, Repr

namespace TargetRefKind

def toTargetKind : TargetRefKind → TargetKind
  | ingress => .ingress
  | ingressRoute => .ingressRoute

def label (kind : TargetRefKind) : String := kind.toTargetKind.label

def ofLabel? (text : String) : Option TargetRefKind :=
  [ingress, ingressRoute].find? (·.label = text)

end TargetRefKind

structure TargetReference where
  kind : TargetRefKind := .ingress
  name : String
  namespaceName : Option String := none
  deriving DecidableEq, Repr

structure PatternSpec where
  pattern : String
  replacement : String
  deriving DecidableEq, Repr

structure PerformanceSpec where
  target : TargetReference
  whitelist : List String := []
  ignored : List String := []
  mergePrefixes : List String := []
  urlPatterns : List PatternSpec := []
  topCount : Nat := 20
  enabled : Bool := true
  deriving DecidableEq, Repr

inductive Phase where
  | pending
  | active
  | error
  | disabled
  deriving DecidableEq, Repr

namespace Phase

def label : Phase → String
  | pending => "Pending"
  | active => "Active"
  | error => "Error"
  | disabled => "Disabled"

def ofLabel? (text : String) : Option Phase :=
  [pending, active, error, disabled].find? (·.label = text)

end Phase

structure PerformanceStatus where
  phase : Phase := .pending
  conditions : List Condition := []
  monitoredPaths : Option Int := none
  observedGeneration : Option Int := none
  deriving DecidableEq, Repr

structure ObjectMeta where
  name : Option String := none
  namespaceName : Option String := none
  generation : Option Int := none
  resourceVersion : Option String := none
  deriving DecidableEq, Repr

structure UrlPerformance where
  metadata : ObjectMeta
  spec : PerformanceSpec
  status : Option PerformanceStatus := none
  deriving DecidableEq, Repr

namespace UrlPerformance

def objectRef (object : UrlPerformance) : String :=
  object.metadata.namespaceName.getD "" ++ "/" ++ object.metadata.name.getD ""

/-- The namespace of the target; a blank one counts as missing. -/
def targetNamespace (object : UrlPerformance) : String :=
  match object.spec.target.namespaceName with
  | some name =>
    if (trim name.toList).isEmpty then object.metadata.namespaceName.getD "" else name
  | none => object.metadata.namespaceName.getD ""

def targetKey (object : UrlPerformance) : String :=
  IngressMeter.targetKey object.targetNamespace object.spec.target.name

def largestTopCount : Nat := 1000

def compilePatterns : List PatternSpec → Except String (List UrlPattern)
  | [] => .ok []
  | spec :: rest =>
    match Pattern.compile? spec.pattern with
    | none => .error spec.pattern
    | some pattern => (compilePatterns rest).map (⟨pattern, spec.replacement⟩ :: ·)

def toRules (object : UrlPerformance) (now : Timestamp) : Except String TargetRules := do
  let urlPatterns ← compilePatterns object.spec.urlPatterns
  let whitelist ← Pattern.compileAll object.spec.whitelist
  let ignored ← Pattern.compileAll object.spec.ignored
  return {
    key := object.targetKey
    namespaceName := trimString object.targetNamespace
    targetName := trimString object.spec.target.name
    kind := object.spec.target.kind.toTargetKind
    owner := object.objectRef
    whitelist, ignored, urlPatterns
    mergePrefixes := object.spec.mergePrefixes
    topCount := min (max object.spec.topCount 1) largestTopCount
    enabled := object.spec.enabled
    lastUpdated := now.seconds }

end UrlPerformance

end IngressMeter
