import IngressMeter.Text.Blank

/-!
Lines that come from a pod are tagged with its name, in brackets before the line.
-/

namespace IngressMeter.PodTag

def add (pod line : String) : String := "[" ++ pod ++ "] " ++ line

def splitTag? : List Char → Option (List Char × List Char)
  | ']' :: ' ' :: rest => some ([], rest)
  | c :: rest => (splitTag? rest).map fun (tag, payload) => (c :: tag, payload)
  | [] => none

/-- A pod name is not empty and has neither blanks nor slashes, which tells it from a timestamp. -/
def isPodName (tag : List Char) : Bool :=
  !tag.isEmpty && !tag.any isBlank && !tag.contains '/'

def strip (line : List Char) : List Char :=
  match line with
  | '[' :: rest =>
    match splitTag? rest with
    | some (tag, payload) => if isPodName tag then trimStart payload else line
    | none => line
  | _ => line

end IngressMeter.PodTag
