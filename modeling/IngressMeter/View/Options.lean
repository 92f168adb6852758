import IngressMeter.CommandLine.Parse
import IngressMeter.View.Basic

/-!
Command lines as JSON.
-/

namespace IngressMeter.View

def usageKind : UsageError → String
  | .help => "DisplayHelp"
  | .version => "DisplayVersion"
  | .noCommand => "DisplayHelpOnMissingArgumentOrSubcommand"
  | .missingCommand => "MissingSubcommand"
  | .unknownCommand => "InvalidSubcommand"
  | .unknownArgument => "UnknownArgument"
  | .invalidValue => "InvalidValue"
  | .malformedValue => "ValueValidation"
  | .unexpectedValue => "TooManyValues"
  | .repeated => "ArgumentConflict"

def optionsMembers (options : RunOptions) : List (String × Json) :=
  [ ("log_source", .text (match options.logSource with
      | .file => "File"
      | .kubernetes => "Kubernetes")),
    ("log_file", .text options.logFile),
    ("max_accesslog_size", .ofInt options.maxLogMegabytes),
    ("namespace", .text options.namespaceName),
    ("container_name", .text options.containerName),
    ("pod_label_selector", .text options.podLabelSelector),
    ("kubeconfig", optionalText options.kubeconfig),
    ("kube_context", optionalText options.kubeContext),
    ("json_logs", .bool options.jsonLogs),
    ("listen_port", .ofNat options.listenPort),
    ("operator_mode", .bool options.operatorMode),
    ("leader_elect", .bool options.leaderElect),
    ("lease_namespace", optionalText options.leaseNamespace),
    ("config_file", optionalText options.configFile),
    ("pod_sync_interval", .ofNat options.podSyncSeconds),
    ("top_paths_interval", .ofNat options.topPathsSeconds),
    ("log_format", .text (match options.logFormat with
      | .json => "json"
      | .common => "common")),
    ("needs_kubernetes", .bool options.needsCluster)]

end IngressMeter.View
