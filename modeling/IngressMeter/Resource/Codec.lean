import IngressMeter.Json.Form
import IngressMeter.Resource.UrlPerformance

/-!
Objects as JSON. Lists that are empty, options that are absent and texts of conditions that are
empty are left out in writing, and stand for just that in reading.
-/

namespace IngressMeter

namespace Json

/-- The name of a case without contents; an object may hold it as the name of a null member. -/
def toCase? {α : Type} (ofLabel? : String → Option α) : Json → Option α
  | .string (some label) => ofLabel? label
  | .object [(some label, .null)] => ofLabel? label
  | _ => none

def unlessEmpty {α : Type} (encode : List α → Json) (items : List α) : Option Json :=
  if items.isEmpty then none else some (encode items)

def textUnlessEmpty (value : String) : Option Json := if value.isEmpty then none else some (text value)

end Json

open Json in
def Condition.ofJson? (json : Json) : Option Condition := do
  let fields ← Fields.of? ["type", "status", "lastTransitionTime", "reason", "message"] json
  return {
    type := ← fields.required? "type" (toCase? ConditionType.ofLabel?)
    status := ← fields.required? "status" (toCase? ConditionStatus.ofLabel?)
    lastTransition := ← fields.optionalOrMissing? "lastTransitionTime" toTimestamp?
    reason := ← fields.withDefault? "reason" "" toText?
    message := ← fields.withDefault? "message" "" toText? }

def Condition.toJson (condition : Condition) : Json :=
  Json.ofOptions [
    ("type", some (.text condition.type.label)),
    ("status", some (.text condition.status.label)),
    ("lastTransitionTime", condition.lastTransition.map fun time => .text time.toText),
    ("reason", Json.textUnlessEmpty condition.reason),
    ("message", Json.textUnlessEmpty condition.message)]

def Condition.listToJson (conditions : List Condition) : Json :=
  .array (conditions.map Condition.toJson)

open Json in
def TargetReference.ofJson? (json : Json) : Option TargetReference := do
  let fields ← Fields.of? ["kind", "name", "namespace"] json
  return {
    kind := ← fields.withDefault? "kind" .ingress (toCase? TargetRefKind.ofLabel?)
    name := ← fields.required? "name" toText?
    namespaceName := ← fields.optionalOrMissing? "namespace" toText? }

def TargetReference.toJson (target : TargetReference) : Json :=
  Json.ofOptions [
    ("kind", some (.text target.kind.label)),
    ("name", some (.text target.name)),
    ("namespace", target.namespaceName.map Json.text)]

open Json in
def PatternSpec.ofJson? (json : Json) : Option PatternSpec := do
  let fields ← Fields.of? ["pattern", "replacement"] json
  return {
    pattern := ← fields.required? "pattern" toText?
    replacement := ← fields.required? "replacement" toText? }

def PatternSpec.toJson (spec : PatternSpec) : Json :=
  Json.ofMembers [("pattern", .text spec.pattern), ("replacement", .text spec.replacement)]

open Json in
def PerformanceSpec.ofJson? (json : Json) : Option PerformanceSpec := do
  let fields ← Fields.of? ["targetRef", "whitelistPathsRegex", "ignoredPathsRegex",
    "mergePathsWithExtensions", "urlPatterns", "collectNTop", "enabled"] json
  return {
    target := ← fields.required? "targetRef" TargetReference.ofJson?
    whitelist := ← fields.withDefault? "whitelistPathsRegex" [] toTexts?
    ignored := ← fields.withDefault? "ignoredPathsRegex" [] toTexts?
    mergePrefixes := ← fields.withDefault? "mergePathsWithExtensions" [] toTexts?
    urlPatterns := ← fields.withDefault? "urlPatterns" [] (toList? PatternSpec.ofJson?)
    topCount := ← fields.withDefault? "collectNTop" 20 (toUnsigned? (powerOfTwo 32))
    enabled := ← fields.withDefault? "enabled" true toBool? }

def PerformanceSpec.toJson (spec : PerformanceSpec) : Json :=
  Json.ofOptions [
    ("targetRef", some spec.target.toJson),
    ("whitelistPathsRegex", Json.unlessEmpty Json.ofTexts spec.whitelist),
    ("ignoredPathsRegex", Json.unlessEmpty Json.ofTexts spec.ignored),
    ("mergePathsWithExtensions", Json.unlessEmpty Json.ofTexts spec.mergePrefixes),
    ("urlPatterns",
      Json.unlessEmpty (fun specs => .array (specs.map PatternSpec.toJson)) spec.urlPatterns),
    ("collectNTop", some (.ofNat spec.topCount)),
    ("enabled", some (.bool spec.enabled))]

open Json in
def PerformanceStatus.ofJson? (json : Json) : Option PerformanceStatus := do
  let fields ← Fields.of? ["phase", "conditions", "monitoredPaths", "observedGeneration"] json
  return {
    phase := ← fields.withDefault? "phase" .pending (toCase? Phase.ofLabel?)
    conditions := ← fields.withDefault? "conditions" [] (toList? Condition.ofJson?)
    monitoredPaths := ← fields.optionalOrMissing? "monitoredPaths" toInt32?
    observedGeneration := ← fields.optionalOrMissing? "observedGeneration" toInt64? }

def PerformanceStatus.toJson (status : PerformanceStatus) : Json :=
  Json.ofOptions [
    ("phase", some (.text status.phase.label)),
    ("conditions", Json.unlessEmpty Condition.listToJson status.conditions),
    ("monitoredPaths", status.monitoredPaths.map Json.ofInt),
    ("observedGeneration", status.observedGeneration.map Json.ofInt)]

end IngressMeter
