/-!
What can go wrong while the service runs. Messages that other programs word are cut off where their
text would begin.
-/

namespace IngressMeter

inductive Failure where
  | kubernetes (text : String)
  | notFound (text : String)
  | podNotFound (name namespaceName : String)
  | logSource (text : String)
  | timeout (operation : String) (seconds : Nat)
  | config (text : String)
  | invalidRegex (pattern : String)
  | rotation (text : String)
  | input
  | unsupported (text : String)
  deriving DecidableEq, Repr

namespace Failure

def message : Failure → String
  | kubernetes text => "Kubernetes error: " ++ text
  | notFound text => "Not found: " ++ text
  | podNotFound name namespaceName =>
    "Pod not found: " ++ name ++ " in namespace " ++ namespaceName
  | logSource text => "Log source error: " ++ text
  | timeout operation seconds =>
    "Timed out after " ++ toString seconds ++ "s: " ++ operation
  | config text => "Configuration error: " ++ text
  | invalidRegex pattern => "Invalid regex '" ++ pattern ++ "'"
  | rotation text => "Log rotation failed: " ++ text
  | input => "IO error"
  | unsupported text => "Unsupported feature on this system: " ++ text

def isNotFound : Failure → Bool
  | notFound _ => true
  | podNotFound _ _ => true
  | _ => false

def ofStatus (code : Nat) (text : String) : Failure :=
  if code = 404 then notFound text else kubernetes text

end IngressMeter.Failure
