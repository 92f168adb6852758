import IngressMeter.CommandLine.Options
import IngressMeter.Kubeconfig
import IngressMeter.Rotation
import IngressMeter.Rules.ConfigFile
import IngressMeter.Service

/-!
What a run of the program consists of, worked out from its options and from what it finds around it.
The cluster is reached first, if it is needed; then the port is taken.
-/

namespace IngressMeter

structure Surroundings where
  kubeconfig : Option String := none
  userKubeconfig : Option String := none
  configFile : Option (List UInt8) := none
  podNamespace : Option String := none
  podName : Option String := none
  hostName : Option String := none
  isPortFree : Bool := true

inductive StartError where
  | noCluster (cause : ConnectError)
  | portTaken
  deriving DecidableEq, Repr

def StartError.message : StartError → String
  | noCluster _ => "Failed to connect to Kubernetes"
  | portTaken => "Failed to start metrics server"

structure Candidacy where
  namespaceName : String
  identity : String
  deriving DecidableEq, Repr

structure StartPlan where
  processor : Processor
  access : Option ClusterAccess
  candidacy : Option Candidacy
  rotationLines : Option Nat
  topPeriodSeconds : Nat
  syncPeriodSeconds : Nat

def Surroundings.identity (surroundings : Surroundings) : String :=
  (surroundings.podName.or surroundings.hostName).getD ""

namespace RunOptions

def connect (options : RunOptions) (surroundings : Surroundings) :
    Except StartError (Option ClusterAccess) :=
  if options.needsCluster then
    let named := options.kubeconfig.map fun _ => surroundings.kubeconfig
    match Kubeconfig.connect named surroundings.userKubeconfig options.kubeContext with
    | .ok access => .ok (some access)
    | .error cause => .error (.noCluster cause)
  else .ok none

/-- The rules of the configuration file. A file that is missing or malformed allows nothing. -/
def allowList (options : RunOptions) (surroundings : Surroundings) : AllowList :=
  let config := match options.configFile with
    | none => ServiceConfig.default
    | some path =>
      match ServiceConfig.ofFile path surroundings.configFile with
      | .ok config => config
      | .error _ => ServiceConfig.default
  config.compile

def mode (options : RunOptions) (surroundings : Surroundings) : Mode :=
  if options.operatorMode then .operator else .allowList (options.allowList surroundings)

def candidacy (options : RunOptions) (surroundings : Surroundings) (access : ClusterAccess) :
    Option Candidacy :=
  if options.operatorMode && options.leaderElect then
    some {
      namespaceName :=
        (options.leaseNamespace.or surroundings.podNamespace).getD access.defaultNamespace
      identity := surroundings.identity }
  else none

def plan (options : RunOptions) (surroundings : Surroundings) : Except StartError StartPlan := do
  let access ← options.connect surroundings
  if !surroundings.isPortFree then .error .portTaken
  else
    return {
      processor := { format := options.logFormat, mode := options.mode surroundings }
      access
      candidacy := access.bind (options.candidacy surroundings)
      rotationLines :=
        if options.logSource = .file then some (Rotation.linesFor options.maxLogMegabytes) else none
      topPeriodSeconds := max options.topPathsSeconds 1
      syncPeriodSeconds := max options.podSyncSeconds 1 }

end RunOptions

end IngressMeter
