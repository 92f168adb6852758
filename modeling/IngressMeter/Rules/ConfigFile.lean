import IngressMeter.Json.Decode
import IngressMeter.Json.Reader
import IngressMeter.Rules.AllowList
import IngressMeter.Text.Utf8
import IngressMeter.Yaml.Reader

/-!
Configuration files, which are written in JSON or YAML. Both say the same, yet YAML takes every
scalar for a text where a text is asked for.
-/

namespace IngressMeter

structure DocumentForm (ν : Type) where
  members? : List String → ν → Option (List (String × ν))
  toText? : ν → Option String
  toFlag? : ν → Option Bool
  toCount? : ν → Option Nat
  toItems? : ν → Option (List ν)

namespace DocumentForm

def json : DocumentForm Json where
  members? names value := (Json.Fields.of? names value).map (·.values)
  toText? := Json.toText?
  toFlag? := Json.toBool?
  toCount? := Json.toUnsigned? (powerOfTwo 64)
  toItems?
    | .array items => some items
    | _ => none

def yamlMembers? (names : List String) : List (Yaml.Node × Yaml.Node) →
    Option (List (String × Yaml.Node))
  | [] => some []
  | (key, value) :: rest =>
    match key.toText?, yamlMembers? names rest with
    | some name, some known =>
      if !names.contains name then some known
      else if known.any (·.1 = name) then none
      else some ((name, value) :: known)
    | _, _ => none

def yaml : DocumentForm Yaml.Node where
  members? names
    | .mapping members => yamlMembers? names members
    | .sequence items => if items.length ≤ names.length then some (names.zip items) else none
    | .scalar isPlain text => if isPlain && text.isEmpty then some [] else none
  toText? := Yaml.Node.toText?
  toFlag? := Yaml.Node.toFlag?
  toCount? := Yaml.Node.toCount? (powerOfTwo 64)
  toItems?
    | .sequence items => some items
    | .mapping _ => none
    | .scalar isPlain text => if isPlain && text.isEmpty then some [] else none

variable {ν : Type} (form : DocumentForm ν)

def toTexts? (value : ν) : Option (List String) := (form.toItems? value).bind (·.mapM form.toText?)

def field? {α : Type} (members : List (String × ν)) (name : String) (missing : α)
    (decode : ν → Option α) : Option α :=
  match members.lookup name with
  | none => some missing
  | some value => decode value

def service? (value : ν) : Option AllowedService := do
  let members ← form.members? ["Name", "Namespace"] value
  return {
    name := ← field? members "Name" "" form.toText?
    namespaceName := ← field? members "Namespace" "" form.toText? }

def pattern? (value : ν) : Option ServicePattern := do
  let members ← form.members? ["service_name", "namespace", "pattern", "replacement"] value
  return {
    serviceName := ← field? members "service_name" "" form.toText?
    namespaceName := ← field? members "namespace" "" form.toText?
    pattern := ← (members.lookup "pattern").bind form.toText?
    replacement := ← field? members "replacement" "" form.toText? }

def listOf? {α : Type} (decode : ν → Option α) (value : ν) : Option (List α) :=
  (form.toItems? value).bind (·.mapM decode)

def config? (value : ν) : Option ServiceConfig := do
  let members ← form.members? ["IgnoredRouters", "IgnoredPathsRegex", "MergePathsWithExtensions",
    "URLPatterns", "AllowedServices", "TopNPaths", "Debug"] value
  return {
    ignoredRouters := ← field? members "IgnoredRouters" [] form.toTexts?
    ignoredPaths := ← field? members "IgnoredPathsRegex" [] form.toTexts?
    mergePrefixes := ← field? members "MergePathsWithExtensions" [] form.toTexts?
    urlPatterns := ← field? members "URLPatterns" [] (form.listOf? form.pattern?)
    allowedServices := ← field? members "AllowedServices" [] (form.listOf? form.service?)
    topCount := ← field? members "TopNPaths" 0 form.toCount?
    debug := ← field? members "Debug" false form.toFlag? }

end DocumentForm

inductive ConfigFileError where
  | unreadable
  | malformed
  deriving DecidableEq, Repr

namespace ServiceConfig

def ofJson? (json : Json) : Option ServiceConfig := DocumentForm.json.config? json

def fileName (path : List Char) : List Char := (path.reverse.takeWhile (· ≠ '/')).reverse

def extension? (path : List Char) : Option (List Char) :=
  let reversed := (fileName path).reverse
  match reversed.dropWhile (· ≠ '.') with
  | '.' :: _ :: _ => some (reversed.takeWhile (· ≠ '.')).reverse
  | _ => none

def yamlExtensions : List (List Char) := [['y', 'a', 'm', 'l'], ['y', 'm', 'l']]

def isYamlFile (path : String) : Bool :=
  ((extension? path.toList).map yamlExtensions.contains).getD false

def ofText (path text : String) : Except ConfigFileError ServiceConfig :=
  if (trim text.toList).isEmpty then .ok default
  else
    let config? :=
      if isYamlFile path then (Yaml.document? text).bind DocumentForm.yaml.config?
      else (Json.ofText? text).bind ofJson?
    match config? with
    | some config => .ok config.fillTopCount
    | none => .error .malformed

def ofFile (path : String) (content : Option (List UInt8)) : Except ConfigFileError ServiceConfig :=
  match content.bind Utf8.decode? with
  | some text => ofText path text
  | none => .error .unreadable

def AllowedService.toJson (service : AllowedService) : Json :=
  Json.ofMembers [("Name", .text service.name), ("Namespace", .text service.namespaceName)]

def ServicePattern.toJson (entry : ServicePattern) : Json :=
  Json.ofMembers [
    ("service_name", .text entry.serviceName),
    ("namespace", .text entry.namespaceName),
    ("pattern", .text entry.pattern),
    ("replacement", .text entry.replacement)]

def toJson (config : ServiceConfig) : Json :=
  Json.ofMembers [
    ("IgnoredRouters", .ofTexts config.ignoredRouters),
    ("IgnoredPathsRegex", .ofTexts config.ignoredPaths),
    ("MergePathsWithExtensions", .ofTexts config.mergePrefixes),
    ("URLPatterns", .array (config.urlPatterns.map ServicePattern.toJson)),
    ("AllowedServices", .array (config.allowedServices.map AllowedService.toJson)),
    ("TopNPaths", .ofNat config.topCount),
    ("Debug", .bool config.debug)]

end ServiceConfig

end IngressMeter
