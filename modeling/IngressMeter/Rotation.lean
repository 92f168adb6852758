import IngressMeter.Decimal.Power
import IngressMeter.Failure
import IngressMeter.FileTree
import IngressMeter.Text.Blank

/-!
Replacing the log file by an empty one: when it is to be done, after as many lines as the allowed
size holds, and what comes of it. It is only done while the process that writes the file runs, which
is then told to open the file again.
-/

namespace IngressMeter.Rotation

def bytesPerLine : Int := 150

def leastLines : Nat := 1000

def defaultMegabytes : Int := 10

def maxInt64 : Int := powerOfTwo 63 - 1

def linesFor (megabytes : Int) : Nat :=
  let megabytes := if megabytes ≤ 0 then defaultMegabytes else megabytes
  max (min (megabytes * 1000000) maxInt64 / bytesPerLine).toNat leastLines

def writerName : String := "traefik"

def isWriter (process : String) : Bool := trimEnd process.toList = writerName.toList

def recreate (files : FileTree) (path : String) : FileTree × Except Failure Unit :=
  let removed? := match files.removeFile path with
    | .ok removed => some removed
    | .error .missing => some files
    | .error _ => none
  match removed? with
  | none => (files, .error (.rotation ("failed to delete " ++ path)))
  | some removed =>
    match removed.makeDirectories (FileTree.parentNames path) with
    | .error _ => (removed, .error .input)
    | .ok ready =>
      match ready.createFile path with
      | .error _ => (ready, .error (.rotation ("failed to create " ++ path)))
      | .ok created => (created, .ok ())

def rotate (processes : List String) (files : FileTree) (path : String) :
    FileTree × Except Failure Unit :=
  if path.isEmpty then (files, .error (.rotation "access log location cannot be empty"))
  else if !processes.any isWriter then
    (files, .error (.rotation (writerName ++ " process not found")))
  else recreate files path

end IngressMeter.Rotation
