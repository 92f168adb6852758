import IngressMeter.RouterName
import IngressMeter.Rules.Basic

/-!
A fixed list of services, for use without the cluster. A router that can be decoded belongs to the
service of its key; any other to the first service whose key its name begins with.
-/

namespace IngressMeter

structure AllowedService where
  name : String
  namespaceName : String
  deriving DecidableEq, Repr

structure ServicePattern where
  serviceName : String
  namespaceName : String
  pattern : String
  replacement : String
  deriving DecidableEq, Repr

structure ServiceConfig where
  ignoredRouters : List String := []
  ignoredPaths : List String := []
  mergePrefixes : List String := []
  urlPatterns : List ServicePattern := []
  allowedServices : List AllowedService := []
  topCount : Nat := 0
  debug : Bool := false
  deriving DecidableEq, Repr

structure AllowList where
  ignoredRouters : List String
  services : List TargetRules

inductive Rejection where
  | ignoredRouter
  | notAllowed
  deriving DecidableEq, Repr

def AllowedService.key (service : AllowedService) : String :=
  targetKey service.namespaceName service.name

namespace ServiceConfig

def default : ServiceConfig := { topCount := defaultTopCount }

/-- A file cannot ask for no endpoint at all. -/
def fillTopCount (config : ServiceConfig) : ServiceConfig :=
  if config.topCount = 0 then { config with topCount := defaultTopCount } else config

def patternsOf (config : ServiceConfig) (key : String) : List UrlPattern :=
  (config.urlPatterns.filter fun entry =>
      targetKey entry.namespaceName entry.serviceName = key).filterMap fun entry =>
    (Pattern.compile? entry.pattern).map fun pattern => ⟨pattern, entry.replacement⟩

def rulesOf (config : ServiceConfig) (service : AllowedService) : TargetRules where
  key := service.key
  namespaceName := trimString service.namespaceName
  targetName := trimString service.name
  kind := .unknown
  owner := "config-file/" ++ service.key
  whitelist := []
  ignored := Pattern.compileValid config.ignoredPaths
  mergePrefixes := config.mergePrefixes
  urlPatterns := config.patternsOf service.key
  topCount := config.topCount
  enabled := true
  lastUpdated := 0

def compile (config : ServiceConfig) : AllowList where
  ignoredRouters := config.ignoredRouters
  services := config.allowedServices.map config.rulesOf

end ServiceConfig

def containsChars (part : List Char) : List Char → Bool
  | [] => part.isEmpty
  | c :: rest => part.isPrefixOf (c :: rest) || containsChars part rest

namespace AllowList

def isIgnored (list : AllowList) (routerName : String) : Bool :=
  list.ignoredRouters.any fun part =>
    !part.isEmpty && containsChars part.toList routerName.toList

def find? (list : AllowList) (routerName : String) : Option TargetRules :=
  match (RouterIdentity.decode routerName).key? with
  | some key => list.services.find? (·.key = key)
  | none =>
    list.services.find? fun service =>
      !service.key.isEmpty && service.key.toList.isPrefixOf routerName.toList

def lookup (list : AllowList) (routerName : String) : Except Rejection TargetRules :=
  if list.isIgnored routerName then .error .ignoredRouter
  else
    match list.find? routerName with
    | some rules => .ok rules
    | none => .error .notAllowed

end AllowList

end IngressMeter
