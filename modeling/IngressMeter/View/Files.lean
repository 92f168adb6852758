import IngressMeter.FileTree
import IngressMeter.View.Basic

/-!
Files as they are told and shown.
-/

namespace IngressMeter.View

def lengthJson (bytes : Bytes) : Json := answer [("len", .ofNat bytes.length)]

def entryJson : Option TreeEntry → Json
  | none => .text "absent"
  | some .directory => .text "directory"
  | some (.file bytes) => lengthJson bytes

def placeFile (root : String) (files : FileTree) (json : Json) : FileTree :=
  let names := root :: FileTree.namesOf (textOf json "name")
  let parents := (files.makeDirectories names.dropLast).toOption.getD files
  let entry := match bytesOf? (member json "data") with
    | some bytes => TreeEntry.file bytes
    | none => .directory
  parents.set names entry

end IngressMeter.View
