/-!
What a program sees at one path of a disk. A file that is removed or replaced lives on for those who
have opened it; files are told apart by their numbers, which are never used again.
-/

namespace IngressMeter

abbrev Bytes := List UInt8

inductive PathEntry where
  | absent
  | directory
  | file (number : Nat)
  deriving DecidableEq, Repr

structure Disk where
  entry : PathEntry := .absent
  files : List (Nat × Bytes) := []
  nextNumber : Nat := 0
  deriving DecidableEq, Repr

inductive DiskChange where
  | append (bytes : Bytes)
  | overwrite (bytes : Bytes)
  | replace (bytes : Bytes)
  | remove
  | makeDirectory
  | removeDirectory
  deriving DecidableEq, Repr

namespace Disk

def content (disk : Disk) (number : Nat) : Bytes := (disk.files.lookup number).getD []

def setContent (disk : Disk) (number : Nat) (bytes : Bytes) : Disk :=
  { disk with files := disk.files.map fun entry =>
      if entry.1 = number then (number, bytes) else entry }

def create (disk : Disk) (bytes : Bytes) : Disk where
  entry := .file disk.nextNumber
  files := disk.files ++ [(disk.nextNumber, bytes)]
  nextNumber := disk.nextNumber + 1

def change (disk : Disk) (change : DiskChange) : Disk :=
  match change, disk.entry with
  | .append bytes, .file number => disk.setContent number (disk.content number ++ bytes)
  | .append bytes, .absent => disk.create bytes
  | .overwrite bytes, .file number => disk.setContent number bytes
  | .overwrite bytes, .absent => disk.create bytes
  | .replace bytes, .file _ => disk.create bytes
  | .replace bytes, .absent => disk.create bytes
  | .remove, .file _ => { disk with entry := .absent }
  | .makeDirectory, .absent => { disk with entry := .directory }
  | .removeDirectory, .directory => { disk with entry := .absent }
  | _, _ => disk

end Disk

end IngressMeter
