import IngressMeter.AccessLog.Line
import IngressMeter.Source.Disk
import IngressMeter.Text.Utf8

/-!
Following a log file. The file is looked at once a period: what was added is read, and whole lines
are passed on. When the path has another file, or the file has become shorter than what was read of
it, the next look opens it anew.
-/

namespace IngressMeter

structure OpenFile where
  number : Nat
  offset : Nat := 0
  unfinished : Bytes := []
  deriving DecidableEq, Repr

structure FileTail where
  current : Option OpenFile := none
  deriving DecidableEq, Repr

namespace FileTail

def lineFeed : UInt8 := 10

def takeLines : Bytes → List Bytes × Bytes
  | [] => ([], [])
  | byte :: rest =>
    let (lines, left) := takeLines rest
    if byte = lineFeed then ([byte] :: lines, left)
    else
      match lines with
      | [] => ([], byte :: left)
      | line :: more => ((byte :: line) :: more, left)

def isLineEnd (c : Char) : Bool := c = '\n' || c = '\r'

def lineText (bytes : Bytes) : String :=
  String.ofList ((Utf8.decodeLossy bytes).toList.reverse.dropWhile isLineEnd).reverse

def drain (disk : Disk) (file : OpenFile) : OpenFile × List LogLine :=
  let added := (disk.content file.number).drop file.offset
  let (lines, left) := takeLines (file.unfinished ++ added)
  ({ file with offset := file.offset + added.length, unfinished := left },
    lines.map fun line => LogLine.ofText (lineText line))

/-- Whether the path has another file or this one has become shorter. -/
def isRotated (disk : Disk) (file : OpenFile) : Bool :=
  match disk.entry with
  | .absent => false
  | .directory => true
  | .file number => number ≠ file.number || (disk.content number).length < file.offset

def readFailure : LogLine := .failed none "cannot be read"

/-- One look at the file. A directory can be opened but not read. -/
def poll (tail : FileTail) (disk : Disk) : FileTail × List LogLine :=
  let opened : Except (List LogLine) OpenFile :=
    match tail.current, disk.entry with
    | some file, _ => .ok file
    | none, .file number => .ok { number }
    | none, .directory => .error [readFailure]
    | none, .absent => .error []
  match opened with
  | .error lines => ({}, lines)
  | .ok file =>
    let (file, lines) := drain disk file
    ({ current := if isRotated disk file then none else some file }, lines)

end FileTail

structure FileSource where
  tail : FileTail := {}
  period : Nat := 250
  now : Nat := 0
  nextPoll : Option Nat := none
  hasReader : Bool := true
  finished : Bool := false

namespace FileSource

def name : String := "file"

def capacity : Nat := 100

def start (source : FileSource) : FileSource :=
  if source.nextPoll.isSome || source.finished then source
  else { source with nextPoll := some source.now }

/-- One look. Without a reader the source ends with the first line that it should pass on. -/
def poll (source : FileSource) (disk : Disk) : FileSource × List LogLine :=
  let (tail, lines) := source.tail.poll disk
  if source.hasReader then ({ source with tail }, lines)
  else if lines.isEmpty then ({ source with tail }, [])
  else ({ source with tail, nextPoll := none, finished := true }, [])

def pollsUpTo (disk : Disk) (upTo : Nat) : Nat → FileSource → FileSource × List LogLine
  | 0, source => (source, [])
  | fuel + 1, source =>
    match source.nextPoll with
    | none => (source, [])
    | some time =>
      if upTo < time then (source, [])
      else
        let due := { source with nextPoll := some (time + source.period) }
        let (polled, lines) := due.poll disk
        let (source, more) := pollsUpTo disk upTo fuel polled
        (source, lines ++ more)

def wait (source : FileSource) (disk : Disk) (milliseconds : Nat) : FileSource × List LogLine :=
  let upTo := source.now + milliseconds
  let (source, lines) := pollsUpTo disk upTo (milliseconds / source.period + 2) source
  ({ source with now := upTo }, lines)

end FileSource

end IngressMeter
