import IngressMeter.Json.Basic

/-!
Requests to the interface of the cluster.
-/

namespace IngressMeter

structure ApiRequest where
  method : String
  path : String
  query : List (String × String) := []
  body : Option Json := none
  contentType : Option String := none

namespace ApiRequest

def withContent (request : ApiRequest) (body : Json) : ApiRequest :=
  { request with body := some body, contentType := some "application/json" }

def withMergePatch (request : ApiRequest) (body : Json) : ApiRequest :=
  { request with body := some body, contentType := some "application/merge-patch+json" }

end ApiRequest

structure Collection where
  path : String
  deriving DecidableEq, Repr

namespace Collection

def ofGroup (group namespaceName plural : String) : Collection :=
  ⟨"/apis/" ++ group ++ "/namespaces/" ++ namespaceName ++ "/" ++ plural⟩

def pods (namespaceName : String) : Collection :=
  ⟨"/api/v1/namespaces/" ++ namespaceName ++ "/pods"⟩

def leases (namespaceName : String) : Collection :=
  ofGroup "coordination.k8s.io/v1" namespaceName "leases"

def ingresses (namespaceName : String) : Collection :=
  ofGroup "networking.k8s.io/v1" namespaceName "ingresses"

def ingressRoutes (namespaceName : String) : Collection :=
  ofGroup "traefik.io/v1alpha1" namespaceName "ingressroutes"

def urlPerformances (namespaceName : String) : Collection :=
  ofGroup "traefikofficer.io/v1alpha1" namespaceName "urlperformances"

def item (collection : Collection) (name : String) : String := collection.path ++ "/" ++ name

def list (collection : Collection) (query : List (String × String)) : ApiRequest :=
  { method := "GET", path := collection.path, query }

def get (collection : Collection) (name : String) : ApiRequest :=
  { method := "GET", path := collection.item name }

def create (collection : Collection) (body : Json) : ApiRequest :=
  { method := "POST", path := collection.path : ApiRequest }.withContent body

def replace (collection : Collection) (name : String) (body : Json) : ApiRequest :=
  { method := "PUT", path := collection.item name : ApiRequest }.withContent body

def patchStatus (collection : Collection) (name : String) (body : Json) : ApiRequest :=
  { method := "PATCH", path := collection.item name ++ "/status" : ApiRequest }.withMergePatch body

def log (collection : Collection) (name : String) (query : List (String × String)) : ApiRequest :=
  { method := "GET", path := collection.item name ++ "/log", query }

end Collection

def isPathChar (c : Char) : Bool :=
  c = '!' || c = '"' || ('$' ≤ c && c ≤ ';') || c = '=' || ('@' ≤ c && c ≤ '_') ||
    ('a' ≤ c && c ≤ '~') || 0x7F ≤ c.toNat

namespace ApiRequest

def isSendable (request : ApiRequest) : Bool := request.path.toList.all isPathChar

end ApiRequest

end IngressMeter
