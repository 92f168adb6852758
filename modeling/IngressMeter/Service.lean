import IngressMeter.AccessLog.Format
import IngressMeter.AccessLog.Line
import IngressMeter.Health
import IngressMeter.Metrics.Engine
import IngressMeter.Rules.AllowList
import IngressMeter.Rules.Store

/-!
What becomes of a line: it is read, its router is looked up, the rules of its target are applied,
and its request is counted. Every line has one outcome, and outcomes are counted too.
-/

namespace IngressMeter

inductive DropReason where
  | transportError
  | notAccessLog
  | parseError
  | unconfigured
  | kindMismatch
  | disabled
  | ignoredRouter
  | notAllowed
  | ignoredPath
  | notWhitelisted
  deriving DecidableEq, Repr

def DropReason.label : DropReason → String
  | transportError => "transport_error"
  | notAccessLog => "not_access_log"
  | parseError => "parse_error"
  | unconfigured => "unconfigured"
  | kindMismatch => "kind_mismatch"
  | disabled => "disabled"
  | ignoredRouter => "ignored_router"
  | notAllowed => "not_allowed"
  | ignoredPath => "ignored_path"
  | notWhitelisted => "not_whitelisted"

inductive Outcome where
  | recorded
  | dropped (reason : DropReason)
  deriving DecidableEq, Repr

def Outcome.label : Outcome → String
  | recorded => "recorded"
  | dropped reason => reason.label

inductive Mode where
  | operator
  | allowList (list : AllowList)

structure Service where
  store : RulesStore := {}
  engine : Engine := {}
  health : Health := {}

structure Processor where
  format : LogFormat
  mode : Mode

namespace Processor

def resolveStored (store : RulesStore) (routerName : String) : Except DropReason TargetRules :=
  let identity := RouterIdentity.decode routerName
  match identity.key?.bind store.get? with
  | none => .error .unconfigured
  | some rules =>
    if rules.kind ≠ identity.kind then .error .kindMismatch
    else if !rules.enabled then .error .disabled
    else .ok rules

def resolve (processor : Processor) (store : RulesStore) (routerName : String) :
    Except DropReason TargetRules :=
  match processor.mode with
  | .operator => resolveStored store routerName
  | .allowList list =>
    match list.lookup routerName with
    | .ok rules => .ok rules
    | .error .ignoredRouter => .error .ignoredRouter
    | .error .notAllowed => .error .notAllowed

def rulesFor (processor : Processor) (store : RulesStore) (record : AccessRecord) :
    Except DropReason TargetRules :=
  match processor.resolve store record.routerName with
  | .error reason => .error reason
  | .ok rules =>
    if rules.isIgnored record.path.toList then .error .ignoredPath
    else if !rules.isWhitelisted record.path.toList then .error .notWhitelisted
    else .ok rules

def targetOf (rules : TargetRules) (record : AccessRecord) : EndpointTarget where
  router := rules.key
  namespaceName := rules.namespaceName
  ingress := rules.targetName
  kind := rules.kind
  app := record.routerName

/-- Counts a record under its rules. Only the JSON format tells the time spent in the proxy. -/
def count (processor : Processor) (rules : TargetRules) (record : AccessRecord) (engine : Engine) :
    Engine :=
  let observed :=
    engine.observe (targetOf rules record) record (rules.normalizePath record.path) rules.topCount
  match processor.format with
  | .json => observed.observeOverhead record
  | .common => observed

def processRecord (processor : Processor) (service : Service) (record : AccessRecord) :
    Service × Outcome :=
  match processor.rulesFor service.store record with
  | .error reason => (service, .dropped reason)
  | .ok rules =>
    ({ service with engine := processor.count rules record service.engine }, .recorded)

def processText (processor : Processor) (service : Service) (text : String) :
    Service × Outcome :=
  match processor.format.parse text with
  | .ok record => processor.processRecord service record
  | .error error =>
    (service, .dropped (if error.isSilent then .notAccessLog else .parseError))

def processLine (processor : Processor) (now : Nat) (service : Service) (line : LogLine) :
    Service × Outcome :=
  let marked := { service with health := service.health.markProcessed now }
  let (done, outcome) :=
    if line.isError then (marked, .dropped .transportError)
    else processor.processText marked line.text
  ({ done with engine := done.engine.countLine outcome.label }, outcome)

end Processor

end IngressMeter
