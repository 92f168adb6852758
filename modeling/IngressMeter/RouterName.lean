import IngressMeter.Target

/-!
What a router name tells about the resource it was made from. The proxy joins namespace, name, parts
of the host and a hash with dashes and adds the provider behind an `@`; names made from an Ingress
begin with the entry point. The resource name is taken to be everything between the first part of
the namespace and the last part that looks like a hash. That is a guess, good for finding a key.
-/

namespace IngressMeter

structure RouterIdentity where
  namespaceName : List Char
  targetName : List Char
  kind : TargetKind
  deriving DecidableEq, Repr

namespace RouterIdentity

def isHashChar (c : Char) : Bool := ('0' ≤ c && c ≤ '9') || ('a' ≤ c && c ≤ 'f')

def isHash (part : List Char) : Bool := 12 ≤ part.length && part.all isHashChar

def splitDashes : List Char → List (List Char)
  | [] => [[]]
  | c :: rest =>
    if c = '-' then [] :: splitDashes rest
    else
      match splitDashes rest with
      | [] => [[c]]
      | part :: parts => (c :: part) :: parts

def joinDashes : List (List Char) → List Char
  | [] => []
  | [part] => part
  | part :: parts => part ++ '-' :: joinDashes parts

def beforeLastHash? : List (List Char) → Option (List (List Char))
  | [] => none
  | part :: parts =>
    match beforeLastHash? parts with
    | some before => some (part :: before)
    | none => if isHash part then some [] else none

def unknownOf (kind : TargetKind) : RouterIdentity := ⟨[], [], kind⟩

def ofParts (kind : TargetKind) : List (List Char) → RouterIdentity
  | [] => unknownOf kind
  | namespaceName :: parts =>
    match beforeLastHash? parts with
    | some name => ⟨namespaceName, joinDashes name, kind⟩
    | none => unknownOf kind

def kindOf (routerName : List Char) : TargetKind :=
  match routerName.dropWhile (· ≠ '@') with
  | _ :: provider => .ofProvider provider
  | [] => .unknown

def decodeChars (routerName : List Char) : RouterIdentity :=
  let parts := splitDashes (routerName.takeWhile (· ≠ '@'))
  match kindOf routerName with
  | .ingressRoute => ofParts .ingressRoute parts
  | .ingress => ofParts .ingress parts.tail
  | .unknown => unknownOf .unknown

def decode (routerName : String) : RouterIdentity := decodeChars routerName.toList

def isComplete (identity : RouterIdentity) : Bool :=
  !identity.namespaceName.isEmpty && !identity.targetName.isEmpty && identity.kind != .unknown

def key? (identity : RouterIdentity) : Option String :=
  if identity.isComplete then
    some (String.ofList (targetKeyChars identity.namespaceName identity.targetName))
  else none

end IngressMeter.RouterIdentity
