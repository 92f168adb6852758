import IngressMeter.Source.Disk

/-!
Files and directories by their places. A path leads to a place name by name, through directories
that exist; what it leads to need not exist itself.
-/

namespace IngressMeter

inductive TreeEntry where
  | directory
  | file (bytes : Bytes)
  deriving DecidableEq, Repr

inductive PathError where
  | missing
  | notDirectory
  | isDirectory
  | nameTooLong
  | malformed
  deriving DecidableEq, Repr

structure FileTree where
  entries : List (List String × TreeEntry) := []
  deriving DecidableEq, Repr

namespace FileTree

def entryAt? (tree : FileTree) (place : List String) : Option TreeEntry :=
  if place.isEmpty then some .directory else tree.entries.lookup place

def set (tree : FileTree) (place : List String) (entry : TreeEntry) : FileTree :=
  ⟨(place, entry) :: tree.entries.filter (·.1 ≠ place)⟩

def erase (tree : FileTree) (place : List String) : FileTree :=
  ⟨tree.entries.filter (·.1 ≠ place)⟩

def namesOf (path : String) : List String := (path.splitOn "/").filter (!·.isEmpty)

def endsInSlash (path : String) : Bool := path.toList.getLast? = some '/'

def longestName : Nat := 255

def step (tree : FileTree) (place : List String) (name : String) : Except PathError (List String) :=
  match tree.entryAt? place with
  | none => .error .missing
  | some (.file _) => .error .notDirectory
  | some .directory =>
    if name = "." then .ok place
    else if name = ".." then .ok place.dropLast
    else if longestName < name.utf8ByteSize then .error .nameTooLong
    else .ok (place ++ [name])

def placeOf (tree : FileTree) (path : String) : Except PathError (List String) :=
  if path.toList.contains '\x00' then .error .malformed
  else (namesOf path).foldlM tree.step []

/-- Whether a path can only be that of a directory that exists. -/
def endsInDots (path : String) : Bool :=
  (namesOf path).getLast?.any fun name => name = "." || name = ".."

def find? (tree : FileTree) (path : String) : Option TreeEntry :=
  match tree.placeOf path with
  | .error _ => none
  | .ok place =>
    match tree.entryAt? place with
    | some (.file bytes) => if endsInSlash path then none else some (.file bytes)
    | entry => entry

def removeFile (tree : FileTree) (path : String) : Except PathError FileTree := do
  let place ← tree.placeOf path
  if endsInDots path then .error .isDirectory
  else
    match tree.entryAt? place with
    | none => .error .missing
    | some .directory => .error .isDirectory
    | some (.file _) => if endsInSlash path then .error .notDirectory else .ok (tree.erase place)

def enter (state : FileTree × List String) (name : String) :
    Except PathError (FileTree × List String) := do
  let (tree, place) := state
  let next ← tree.step place name
  match tree.entryAt? next with
  | some .directory => return (tree, next)
  | some (.file _) => .error .notDirectory
  | none => return (tree.set next .directory, next)

def makeDirectories (tree : FileTree) (names : List String) : Except PathError FileTree :=
  (names.foldlM enter (tree, [])).map (·.1)

def createFile (tree : FileTree) (path : String) : Except PathError FileTree := do
  let place ← tree.placeOf path
  if endsInDots path || endsInSlash path || tree.entryAt? place = some .directory then
    .error .isDirectory
  else return tree.set place (.file [])

def parentNames (path : String) : List String := ((namesOf path).filter (· ≠ ".")).dropLast

end FileTree

end IngressMeter
