import IngressMeter.Json.Basic
import IngressMeter.Resource.UrlPerformance

/-!
The definition that teaches the cluster the resource: its names, its columns and the form of its
objects.
-/

namespace IngressMeter.Definition

abbrev Schema := List (String × Json)

def ofType (name : String) : Schema := [("type", .text name)]

def textSchema : Schema := ofType "string"

def formatted (format : String) (schema : Schema) : Schema := ("format", .text format) :: schema

def described (text : String) (schema : Schema) : Schema := ("description", .text text) :: schema

def nullable (schema : Schema) : Schema := ("nullable", .bool true) :: schema

def withDefault (value : Json) (schema : Schema) : Schema := ("default", value) :: schema

def oneOf (labels : List String) : Schema := ("enum", .ofTexts labels) :: textSchema

def listOf (items : Schema) : Schema := ("items", Json.ofMembers items) :: ofType "array"

def record (members : List (String × Schema)) (required : List String) : Schema :=
  let properties := Json.ofMembers (members.map fun (name, schema) => (name, Json.ofMembers schema))
  ("properties", properties) ::
    (if required.isEmpty then [] else [("required", Json.ofTexts required)]) ++ ofType "object"

def amount (value : Nat) : Json := .number ⟨false, Decimal.natDigits value, some ['0'], none⟩

def kindLabels : List String := [TargetRefKind.ingress, .ingressRoute].map TargetRefKind.label

def phaseLabels : List String := [Phase.pending, .active, .error, .disabled].map Phase.label

def targetSchema : Schema :=
  record
    [ ("kind", withDefault (.text TargetRefKind.ingress.label) (oneOf kindLabels)),
      ("name", textSchema),
      ("namespace",
        described "Defaults to the namespace of the `UrlPerformance`" (nullable textSchema))]
    ["name"]

def patternSchema : Schema :=
  record [("pattern", textSchema), ("replacement", textSchema)] ["pattern", "replacement"]

def topCountSchema : Schema :=
  described "Number of slowest paths that get per-endpoint series" (withDefault (.ofNat defaultTopCount)
    (formatted "uint32" ([("maximum", amount UrlPerformance.largestTopCount), ("minimum", amount 1)] ++
      ofType "integer")))

def specSchema : Schema :=
  described "Per-target monitoring rules for one Ingress or IngressRoute"
    (record
      [ ("targetRef", targetSchema),
        ("whitelistPathsRegex",
          described "Only matching paths are monitored; empty means all paths" (listOf textSchema)),
        ("ignoredPathsRegex", described "Matching paths are never monitored" (listOf textSchema)),
        ("mergePathsWithExtensions",
          described "Paths under these prefixes have ids and query strings merged"
            (listOf textSchema)),
        ("urlPatterns", listOf patternSchema),
        ("collectNTop", topCountSchema),
        ("enabled", withDefault (.bool true) (ofType "boolean"))]
      ["targetRef"])

def timeDescription : String :=
  "Time is a wrapper around time.Time which supports correct marshaling to YAML and JSON.  Wrappers " ++
    "are provided for many of the factory methods that the time package offers."

def conditionSchema : Schema :=
  record
    [ ("type", oneOf (ConditionType.all.map ConditionType.label)),
      ("status", oneOf (ConditionStatus.all.map ConditionStatus.label)),
      ("lastTransitionTime",
        described timeDescription (nullable (formatted "date-time" textSchema))),
      ("reason", textSchema),
      ("message", textSchema)]
    ["status", "type"]

def statusSchema : Schema :=
  nullable (record
    [ ("phase", withDefault (.text Phase.pending.label) (oneOf phaseLabels)),
      ("conditions", listOf conditionSchema),
      ("monitoredPaths",
        described "Distinct endpoint paths seen for the target"
          (nullable (formatted "int32" (ofType "integer")))),
      ("observedGeneration", nullable (formatted "int64" (ofType "integer")))]
    [])

def objectSchema : Schema :=
  described "Auto-generated derived type for UrlPerformanceSpec via `CustomResource`"
    (("title", .text "UrlPerformance") ::
      record [("spec", specSchema), ("status", statusSchema)] ["spec"])

def column (name path type description : String) : Json :=
  .ofMembers [("name", .text name), ("jsonPath", .text path), ("type", .text type),
    ("description", .text description)]

def columns : List Json :=
  [ column "Target Kind" ".spec.targetRef.kind" "string" "The kind of target resource",
    column "Target Name" ".spec.targetRef.name" "string" "The name of the target resource",
    column "Namespace" ".spec.targetRef.namespace" "string" "The namespace of the target resource",
    column "Enabled" ".spec.enabled" "boolean" "Whether monitoring is enabled",
    column "Phase" ".status.phase" "string" "The current phase",
    column "Age" ".metadata.creationTimestamp" "date" "The age of the resource"]

def group : String := "traefikofficer.io"

def version : String := "v1alpha1"

def kind : String := "UrlPerformance"

def plural : String := "urlperformances"

def names : Json :=
  .ofMembers [
    ("kind", .text kind), ("singular", .text "urlperformance"), ("plural", .text plural),
    ("shortNames", .ofTexts ["urlperf"]), ("categories", .ofTexts [])]

def versionEntry : Json :=
  .ofMembers [
    ("name", .text version), ("served", .bool true), ("storage", .bool true),
    ("additionalPrinterColumns", .array columns),
    ("schema", .ofMembers [("openAPIV3Schema", .ofMembers objectSchema)]),
    ("subresources", .ofMembers [("status", .ofMembers [])])]

def manifest : Json :=
  .ofMembers [
    ("apiVersion", .text "apiextensions.k8s.io/v1"),
    ("kind", .text "CustomResourceDefinition"),
    ("metadata", .ofMembers [("name", .text (plural ++ "." ++ group))]),
    ("spec", .ofMembers [
      ("group", .text group), ("scope", .text "Namespaced"), ("names", names),
      ("versions", .array [versionEntry])])]

end IngressMeter.Definition
