import IngressMeter.Yaml.Cursor

/-!
Texts as blocks of lines. The lines of a block are indented alike; a header tells whether their ends
are kept and what becomes of the last ones.
-/

namespace IngressMeter.Yaml

inductive Chomping where
  | strip
  | clip
  | keep
  deriving DecidableEq, Repr

structure BlockHeader where
  folded : Bool
  chomping : Chomping := .clip
  indentation : Option Nat := none

def BlockHeader.read (header : BlockHeader) : List Char → BlockHeader × List Char
  | [] => (header, [])
  | c :: rest =>
    if c = '+' then BlockHeader.read { header with chomping := .keep } rest
    else if c = '-' then BlockHeader.read { header with chomping := .strip } rest
    else if '1' ≤ c && c ≤ '9' then
      BlockHeader.read { header with indentation := some (c.toNat - '0'.toNat) } rest
    else (header, c :: rest)

def linesBehind? (text : List Char) : Option (List Char) :=
  match text.dropWhile isBlankChar with
  | [] => some []
  | '\n' :: rest => some rest
  | '#' :: rest => some ((rest.dropWhile (· ≠ '\n')).drop 1)
  | _ => none

def detectIndent (widest column : Nat) : List Char → Nat
  | [] => max widest column
  | c :: rest =>
    if c = ' ' then detectIndent widest (column + 1) rest
    else if c = '\n' then detectIndent (max widest column) 0 rest
    else max widest column

structure BlockText where
  reversed : List Char := []
  ended : Bool := false
  emptyLines : Nat := 0
  indented : Bool := false

namespace BlockText

def addLine (folded : Bool) (block : BlockText) (line : List Char) (ended : Bool) : BlockText :=
  let indented := (line.head?.map isBlankChar).getD false
  let joint :=
    if !block.ended then []
    else if folded && !block.indented && !indented then
      if block.emptyLines = 0 then [' '] else []
    else ['\n']
  { reversed :=
      line.reverse ++ (List.replicate block.emptyLines '\n' ++ joint ++ block.reversed)
    ended, indented }

def finish (block : BlockText) (chomping : Chomping) : List Char :=
  let lineEnd := if block.ended then ['\n'] else []
  let empty := List.replicate block.emptyLines '\n'
  match chomping with
  | .strip => block.reversed.reverse
  | .clip => (lineEnd ++ block.reversed).reverse
  | .keep => (empty ++ lineEnd ++ block.reversed).reverse

end BlockText

def readBlockLines (folded : Bool) (indent : Nat) : Nat → BlockText → List Char →
    BlockText × List Char
  | 0, block, rest => (block, rest)
  | fuel + 1, block, rest =>
    let spaces := ((rest.takeWhile (· = ' ')).take indent).length
    match rest.drop spaces with
    | [] => (block, [])
    | '\n' :: more =>
      readBlockLines folded indent fuel { block with emptyLines := block.emptyLines + 1 } more
    | line =>
      if spaces < indent then (block, rest)
      else
        let (line, left) := line.span (· ≠ '\n')
        readBlockLines folded indent fuel (block.addLine folded line (!left.isEmpty)) (left.drop 1)

def readBlock? (folded : Bool) (parent : Int) (text : List Char) :
    Option (List Char × List Char) := do
  let (header, rest) := BlockHeader.read { folded } text
  let rest ← linesBehind? rest
  let indent := match header.indentation with
    | some width => (max parent 0).toNat + width
    | none => max (max (detectIndent 0 0 rest) (parent + 1).toNat) 1
  let (block, left) := readBlockLines folded indent (rest.length + 1) {} rest
  return (block.finish header.chomping, left)

end IngressMeter.Yaml
