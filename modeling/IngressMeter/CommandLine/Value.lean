import IngressMeter.CommandLine.Options
import IngressMeter.Decimal.Text

/-!
The options by their names, and how the values behind them are read.
-/

namespace IngressMeter

inductive UsageError where
  | help
  | version
  | noCommand
  | missingCommand
  | unknownCommand
  | unknownArgument
  | invalidValue
  | malformedValue
  | unexpectedValue
  | repeated
  deriving DecidableEq, Repr

namespace CommandLine

abbrev ValueReader := RunOptions → String → Except UsageError RunOptions

def nonEmpty (value : String) : Except UsageError String :=
  if value.isEmpty then .error .invalidValue else .ok value

def integer (value : String) : Except UsageError Int :=
  let (negative, digits) := Decimal.splitSign value.toList
  match Decimal.digits? digits with
  | none => .error .malformedValue
  | some magnitude =>
    let value : Int := if negative then -(magnitude : Int) else magnitude
    if fitsSigned 64 value then .ok value else .error .malformedValue

def port (value : String) : Except UsageError Nat :=
  match integer value with
  | .ok (.ofNat port) => if port < powerOfTwo 16 then .ok port else .error .malformedValue
  | _ => .error .malformedValue

def seconds (value : String) : Except UsageError Nat :=
  match Decimal.readUnsigned? (powerOfTwo 64) value.toList with
  | some seconds => .ok seconds
  | none => .error .malformedValue

def origin (value : String) : Except UsageError LogOrigin :=
  match value with
  | "file" => .ok .file
  | "kubernetes" => .ok .kubernetes
  | _ => .error .invalidValue

def valueReader? (name : String) : Option ValueReader :=
  match name with
  | "log-source" => some fun options value =>
    (origin value).map fun origin => { options with logSource := origin }
  | "log-file" => some fun options value =>
    (nonEmpty value).map fun path => { options with logFile := path }
  | "max-accesslog-size" => some fun options value =>
    (integer value).map fun size => { options with maxLogMegabytes := size }
  | "namespace" => some fun options value => .ok { options with namespaceName := value }
  | "container-name" => some fun options value => .ok { options with containerName := value }
  | "pod-label-selector" => some fun options value =>
    .ok { options with podLabelSelector := value }
  | "kubeconfig" => some fun options value =>
    (nonEmpty value).map fun path => { options with kubeconfig := some path }
  | "kube-context" => some fun options value => .ok { options with kubeContext := some value }
  | "listen-port" => some fun options value =>
    (port value).map fun port => { options with listenPort := port }
  | "lease-namespace" => some fun options value =>
    .ok { options with leaseNamespace := some value }
  | "config-file" => some fun options value =>
    (nonEmpty value).map fun path => { options with configFile := some path }
  | "pod-sync-interval" => some fun options value =>
    (seconds value).map fun time => { options with podSyncSeconds := time }
  | "top-paths-interval" => some fun options value =>
    (seconds value).map fun time => { options with topPathsSeconds := time }
  | _ => none

def switch? (name : String) : Option (RunOptions → RunOptions) :=
  match name with
  | "json-logs" => some fun options => { options with jsonLogs := true }
  | "operator-mode" => some fun options => { options with operatorMode := true }
  | "leader-elect" => some fun options => { options with leaderElect := true }
  | _ => none

end CommandLine

end IngressMeter
