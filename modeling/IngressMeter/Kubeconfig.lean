import IngressMeter.Json.Decode
import IngressMeter.Yaml.Reader

/-!
The files that tell how to reach a cluster. A context names a cluster and a namespace; which context
counts is said on the command line or in the file itself.
-/

namespace IngressMeter

structure ClusterContext where
  cluster : String
  namespaceName : Option String
  deriving DecidableEq, Repr

structure Kubeconfig where
  currentContext : Option String := none
  clusters : List (String × Option (Option String)) := []
  contexts : List (String × Option ClusterContext) := []
  deriving DecidableEq, Repr

inductive ConnectError where
  | unreadable
  | invalid
  | notInferred
  deriving DecidableEq, Repr

def ConnectError.message : ConnectError → String
  | unreadable => "Failed to read kubeconfig"
  | invalid => "Invalid kubeconfig"
  | notInferred => "Failed to infer K8s config"

structure ClusterAccess where
  server : String
  defaultNamespace : String
  deriving DecidableEq, Repr

namespace Kubeconfig

open Json

def namedPart? {α : Type} (content : String) (decode : Json → Option α) (json : Json) :
    Option (String × Option α) := do
  let fields ← Fields.of? ["name", content] json
  return (← fields.required? "name" toText?, ← fields.optionalOrMissing? content decode)

def cluster? (json : Json) : Option (Option String) := do
  let fields ← Fields.of? ["server", "insecure-skip-tls-verify", "certificate-authority",
    "certificate-authority-data", "proxy-url", "disable-compression", "tls-server-name",
    "extensions"] json
  let server ← fields.optionalOrMissing? "server" toText?
  let _ ← fields.optionalOrMissing? "insecure-skip-tls-verify" toBool?
  let _ ← fields.optionalOrMissing? "certificate-authority" toText?
  let _ ← fields.optionalOrMissing? "certificate-authority-data" toText?
  let _ ← fields.optionalOrMissing? "proxy-url" toText?
  let _ ← fields.optionalOrMissing? "tls-server-name" toText?
  return server

def context? (json : Json) : Option ClusterContext := do
  let fields ← Fields.of? ["cluster", "user", "namespace", "extensions"] json
  let cluster ← fields.required? "cluster" toText?
  let _ ← fields.optionalOrMissing? "user" toText?
  return { cluster, namespaceName := ← fields.optionalOrMissing? "namespace" toText? }

def list? {α : Type} (fields : Fields) (name : String) (decode : Json → Option α) :
    Option (List α) :=
  (fields.optionalOrMissing? name (toList? decode)).map (·.getD [])

def ofJson? (json : Json) : Option Kubeconfig := do
  let fields ← Fields.ofObject? ["preferences", "clusters", "users", "contexts", "current-context",
    "extensions", "kind", "apiVersion"] json
  let _ ← fields.optionalOrMissing? "kind" toText?
  let _ ← fields.optionalOrMissing? "apiVersion" toText?
  let _ ← list? fields "users" (namedPart? "user" (Fields.ofObject? []))
  return {
    currentContext := ← fields.optionalOrMissing? "current-context" toText?
    clusters := ← list? fields "clusters" (namedPart? "cluster" cluster?)
    contexts := ← list? fields "contexts" (namedPart? "context" context?) }

/-- What a file says; what its first documents say goes before what later ones do. -/
def ofText? (text : String) : Option Kubeconfig := do
  let documents ← (← Yaml.documents? text).mapM fun node => ofJson? node.toJson
  return documents.foldl
    (fun all one => {
      currentContext := all.currentContext.or one.currentContext
      clusters := all.clusters ++ one.clusters
      contexts := all.contexts ++ one.contexts })
    {}

def isAddress (server : String) : Bool :=
  !server.isEmpty && server.toList.all fun c => '!' ≤ c && c ≤ '~' && c ≠ '"' && c ≠ '<' && c ≠ '>'

def access? (config : Kubeconfig) (context : Option String) : Option ClusterAccess := do
  let name ← context.or config.currentContext
  let context ← (← config.contexts.find? (·.1 = name)).2
  let server ← (← (← config.clusters.find? (·.1 = context.cluster)).2)
  if isAddress server then
    return { server, defaultNamespace := context.namespaceName.getD "default" }
  else none

/-- The access given by a named file or else by the one of the environment. A file that is named but
missing is `some none`. -/
def connect (named : Option (Option String)) (environment : Option String)
    (context : Option String) : Except ConnectError ClusterAccess :=
  match named, context with
  | some file, _ =>
    match file.bind ofText? with
    | none => .error .unreadable
    | some config =>
      match config.access? context with
      | some access => .ok access
      | none => .error .invalid
  | none, some _ =>
    match (environment.bind ofText?).bind (·.access? context) with
    | some access => .ok access
    | none => .error .invalid
  | none, none =>
    match (environment.bind ofText?).bind (·.access? none) with
    | some access => .ok access
    | none => .error .notInferred

end Kubeconfig

end IngressMeter
