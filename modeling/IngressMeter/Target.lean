import IngressMeter.Text.Blank

/-!
The Kubernetes resources that routers are made from, and the key under which rules and measurements
of one of them are kept.
-/

namespace IngressMeter

inductive TargetKind where
  | ingress
  | ingressRoute
  | unknown
  deriving DecidableEq, Repr

namespace TargetKind

def label : TargetKind → String
  | ingress => "Ingress"
  | ingressRoute => "IngressRoute"
  | unknown => "Unknown"

def ofProvider (provider : List Char) : TargetKind :=
  if provider = ['k', 'u', 'b', 'e', 'r', 'n', 'e', 't', 'e', 's'] then ingress
  else if provider = ['k', 'u', 'b', 'e', 'r', 'n', 'e', 't', 'e', 's', 'c', 'r', 'd'] then
    ingressRoute
  else unknown

end TargetKind

/-- Joins namespace and name with a dash. If one of them is blank the other stands alone. -/
def targetKeyChars (namespaceName name : List Char) : List Char :=
  let namespaceName := trim namespaceName
  let name := trim name
  if namespaceName.isEmpty then name
  else if name.isEmpty then namespaceName
  else namespaceName ++ '-' :: name

def targetKey (namespaceName name : String) : String :=
  String.ofList (targetKeyChars namespaceName.toList name.toList)

end IngressMeter
