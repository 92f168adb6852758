import IngressMeter.Decimal.Text
import IngressMeter.Pattern.Match

/-!
Replacement templates. A dollar sign with a name or a number stands for what a group matched, two of
them for one, and any other dollar sign for itself.
-/

namespace IngressMeter.Pattern

inductive TemplatePart where
  | char (c : Char)
  | group (name : List Char)

def isNameChar (c : Char) : Bool :=
  ('0' ≤ c && c ≤ '9') || ('a' ≤ c && c ≤ 'z') || ('A' ≤ c && c ≤ 'Z') || c = '_'

def groupName? : List Char → Option (List Char × Nat)
  | '{' :: rest =>
    let name := rest.takeWhile (· ≠ '}')
    if name.length < rest.length then some (name, name.length + 2) else none
  | text =>
    let name := text.takeWhile isNameChar
    if name.isEmpty then none else some (name, name.length)

def templateParts : Nat → List Char → List TemplatePart
  | _, [] => []
  | skip + 1, _ :: rest => templateParts skip rest
  | 0, '$' :: '$' :: rest => .char '$' :: templateParts 0 rest
  | 0, '$' :: rest =>
    match groupName? rest with
    | some (name, length) => .group name :: templateParts length rest
    | none => .char '$' :: templateParts 0 rest
  | 0, c :: rest => .char c :: templateParts 0 rest

def slice (text : List Char) (first last : Nat) : List Char := (text.take last).drop first

def groupText (text : List Char) (names : List (String × Nat)) (found : Found)
    (name : List Char) : List Char :=
  let index? := match Decimal.readUnsigned? (powerOfTwo 64) name with
    | some index => some index
    | none => names.lookup (String.ofList name)
  match index? with
  | none => []
  | some 0 => slice text found.first found.place.index
  | some index =>
    match found.group? index with
    | some (first, last) => slice text first last
    | none => []

def expand (parts : List TemplatePart) (text : List Char) (names : List (String × Nat))
    (found : Found) : List Char :=
  parts.flatMap fun
    | .char c => [c]
    | .group name => groupText text names found name

def replaceMatches (parts : List TemplatePart) (text : List Char) (names : List (String × Nat)) :
    Nat → List Found → List Char
  | done, [] => text.drop done
  | done, found :: rest =>
    slice text done found.first ++ expand parts text names found ++
      replaceMatches parts text names found.place.index rest

end IngressMeter.Pattern
