import IngressMeter.Rules.AllowList
import IngressMeter.Rules.Store
import IngressMeter.View.Basic

/-!
Rules as JSON.
-/

namespace IngressMeter.View

def invalidRegex (pattern : String) : Json := failure "InvalidRegex" [("pattern", .text pattern)]

def urlPatterns (request : Json) : Except String (List UrlPattern) :=
  (items request "patterns").mapM fun item =>
    let source := textOf item "pattern"
    match Pattern.compile? source with
    | some pattern => .ok ⟨pattern, textOf item "replacement"⟩
    | none => .error source

def sources (patterns : List Pattern) : Json := .ofTexts (patterns.map (·.source))

def kindOf (label : String) : TargetKind :=
  match label with
  | "Ingress" => .ingress
  | "IngressRoute" => .ingressRoute
  | _ => .unknown

def rulesOf (request : Json) : Except String TargetRules := do
  let whitelist ← Pattern.compileAll (texts request "whitelist")
  let ignored ← Pattern.compileAll (texts request "ignored")
  let urlPatterns ← urlPatterns request
  let namespaceName := textOf request "namespace"
  let targetName := textOf request "name"
  return {
    key := targetKey namespaceName targetName
    namespaceName, targetName
    kind := kindOf (textOf request "kind")
    owner := textOf request "owner"
    whitelist, ignored, urlPatterns
    mergePrefixes := texts request "merge"
    topCount := natOr request "top_n" 20
    enabled := boolOr request "enabled" true
    lastUpdated := intOr request "updated" 0 }

def rulesMembers (rules : TargetRules) : List (String × Json) :=
  [ ("key", .text rules.key),
    ("namespace", .text rules.namespaceName),
    ("name", .text rules.targetName),
    ("kind", .text rules.kind.label),
    ("owner", .text rules.owner),
    ("whitelist", sources rules.whitelist),
    ("ignored", sources rules.ignored),
    ("merge", .ofTexts rules.mergePrefixes),
    ("patterns", .array (rules.urlPatterns.map fun rule =>
      answer [("pattern", .text rule.pattern.source), ("replacement", .text rule.replacement)])),
    ("top_n", .ofNat rules.topCount),
    ("enabled", .bool rules.enabled)]

def rulesJson (rules : TargetRules) : Json := answer (rulesMembers rules)

def datedRulesJson (rules : TargetRules) : Json :=
  answer (rulesMembers rules ++ [("updated", .ofInt rules.lastUpdated)])

def sortedRules (store : RulesStore) : List TargetRules :=
  (store.entries.mergeSort fun a b => !(b.1 < a.1)).map (·.2)

def sortedKeys (store : RulesStore) : Json := .ofTexts (sortTexts store.keys)

def upsertLabel : UpsertOutcome → String
  | .inserted => "Inserted"
  | .updated => "Updated"
  | .unchanged => "Unchanged"

def briefRules : Option TargetRules → Json
  | some rules =>
    answer [
      ("key", .text rules.key), ("owner", .text rules.owner),
      ("updated", .ofInt rules.lastUpdated)]
  | none => .null

def rejectionLabel : Rejection → String
  | .ignoredRouter => "IgnoredRouter"
  | .notAllowed => "NotAllowed"

def lookupJson (list : AllowList) (router : String) : Json :=
  match list.lookup router with
  | .ok rules => answer [("key", .text rules.key)]
  | .error rejection => answer [("rejected", .text (rejectionLabel rejection))]

end IngressMeter.View
