import IngressMeter.Path.Normalize
import IngressMeter.Target

/-!
The rules for the requests of one target: which paths are measured, how they are normalized, and how
many of the slowest are shown on their own.
-/

namespace IngressMeter

namespace Pattern

def compileAll : List String → Except String (List Pattern)
  | [] => .ok []
  | source :: rest =>
    match compile? source with
    | none => .error source
    | some pattern => (compileAll rest).map (pattern :: ·)

def compileValid (sources : List String) : List Pattern := sources.filterMap compile?

def sameSources (first second : List Pattern) : Bool :=
  first.map (·.source) = second.map (·.source)

end Pattern

def defaultTopCount : Nat := 20

structure TargetRules where
  key : String
  namespaceName : String
  targetName : String
  kind : TargetKind
  owner : String
  whitelist : List Pattern
  ignored : List Pattern
  mergePrefixes : List String
  urlPatterns : List UrlPattern
  topCount : Nat
  enabled : Bool
  lastUpdated : Int

namespace TargetRules

def sameRules (first second : TargetRules) : Bool :=
  first.key = second.key && first.namespaceName = second.namespaceName &&
    first.targetName = second.targetName && first.kind = second.kind &&
    first.owner = second.owner && Pattern.sameSources first.whitelist second.whitelist &&
    Pattern.sameSources first.ignored second.ignored &&
    first.mergePrefixes = second.mergePrefixes &&
    first.urlPatterns.map (fun rule => (rule.pattern.source, rule.replacement)) =
      second.urlPatterns.map (fun rule => (rule.pattern.source, rule.replacement)) &&
    first.topCount = second.topCount && first.enabled = second.enabled

def isIgnored (rules : TargetRules) (path : List Char) : Bool :=
  rules.ignored.any (·.matches? path)

/-- An empty list admits every path. -/
def isWhitelisted (rules : TargetRules) (path : List Char) : Bool :=
  rules.whitelist.isEmpty || rules.whitelist.any (·.matches? path)

def normalizePath (rules : TargetRules) (path : String) : String :=
  String.ofList (Path.normalize rules.mergePrefixes rules.urlPatterns path.toList)

end TargetRules

end IngressMeter
