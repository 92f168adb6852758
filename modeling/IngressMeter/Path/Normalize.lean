import IngressMeter.Path.Segment
import IngressMeter.Pattern.Basic

/-!
Paths as endpoints: all requests that only differ in numbers, identifiers, tokens and queries are to
have one path.
-/

namespace IngressMeter

structure UrlPattern where
  pattern : Pattern
  replacement : String

namespace Path

def queryMark : List Char :=
  ['?', '{', 'q', 'u', 'e', 'r', 'y', '_', 'p', 'a', 'r', 'a', 'm', 's', '}']

def defaultRules (path : List Char) : List Char :=
  replaceQuery queryMark
    (replaceSegments tokenRule (replaceSegments uuidRule (replaceSegments numberRule path)))

def isUnder (prefixes : List String) (path : List Char) : Bool :=
  prefixes.any fun start => start.toList.isPrefixOf path

def merge (prefixes : List String) (path : List Char) : List Char :=
  if isUnder prefixes path then replaceQuery [] (replaceSegments numberRule path) else path

def normalizeUrl (patterns : List UrlPattern) (path : List Char) : List Char :=
  match patterns.find? (·.pattern.matches? path) with
  | some rule => rule.pattern.replaceAll rule.replacement.toList path
  | none => defaultRules path

def normalize (prefixes : List String) (patterns : List UrlPattern) (path : List Char) :
    List Char :=
  normalizeUrl patterns (merge prefixes path)

end IngressMeter.Path
