import IngressMeter.AccessLog.Format

/-!
What the program can be asked to do.
-/

namespace IngressMeter

inductive LogOrigin where
  | file
  | kubernetes
  deriving DecidableEq, Repr

structure RunOptions where
  logSource : LogOrigin := .file
  logFile : String := "./accessLog.txt"
  maxLogMegabytes : Int := 10
  namespaceName : String := "ingress-controller"
  containerName : String := "traefik"
  podLabelSelector : String := "app.kubernetes.io/name=traefik"
  kubeconfig : Option String := none
  kubeContext : Option String := none
  jsonLogs : Bool := false
  listenPort : Nat := 8080
  operatorMode : Bool := false
  leaderElect : Bool := false
  leaseNamespace : Option String := none
  configFile : Option String := none
  podSyncSeconds : Nat := 10
  topPathsSeconds : Nat := 30
  deriving DecidableEq, Repr

namespace RunOptions

def logFormat (options : RunOptions) : LogFormat := if options.jsonLogs then .json else .common

def needsCluster (options : RunOptions) : Bool :=
  options.logSource = .kubernetes || options.operatorMode

end RunOptions

inductive Command where
  | definition
  | run (options : RunOptions)
  deriving DecidableEq, Repr

structure Invocation where
  debug : Bool
  command : Command
  deriving DecidableEq, Repr

end IngressMeter
