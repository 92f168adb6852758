import IngressMeter.Yaml.Node

/-!
A place in a YAML text. Where something stands in its line decides what it belongs to.
-/

namespace IngressMeter.Yaml

structure Cursor where
  rest : List Char
  column : Nat := 0
  anchors : List (List Char × Node) := []

def isBlankChar (c : Char) : Bool := c = ' ' || c = '\t'

def startsBlank : List Char → Bool
  | [] => true
  | c :: _ => isBlankChar c || c = '\n'

structure Gap where
  rest : List Char
  column : Nat
  newLine : Bool

/-- Passes over blanks, line ends and comments. Tabs may not stand at the beginning of a line. -/
def skipGap (inFlow inComment newLine : Bool) (column : Nat) : List Char → Gap
  | [] => ⟨[], column, newLine⟩
  | c :: rest =>
    if c = '\n' then skipGap inFlow false true 0 rest
    else if inComment then skipGap inFlow true newLine (column + 1) rest
    else if c = '#' then skipGap inFlow true newLine (column + 1) rest
    else if c = ' ' || (c = '\t' && (inFlow || !newLine)) then
      skipGap inFlow false newLine (column + 1) rest
    else ⟨c :: rest, column, newLine⟩

namespace Cursor

def atEnd (cursor : Cursor) : Bool := cursor.rest.isEmpty

def skip (cursor : Cursor) (count : Nat) : Cursor :=
  { cursor with rest := cursor.rest.drop count, column := cursor.column + count }

def next (cursor : Cursor) (inFlow : Bool) : Cursor × Bool :=
  let gap := skipGap inFlow false false cursor.column cursor.rest
  ({ cursor with rest := gap.rest, column := gap.column }, gap.newLine)

def skipSpaces (cursor : Cursor) : Cursor :=
  cursor.skip (cursor.rest.takeWhile isBlankChar).length

def isAt (cursor : Cursor) (indicator : Char) : Bool :=
  match cursor.rest with
  | c :: rest => c = indicator && startsBlank rest
  | [] => false

def isAtMark (cursor : Cursor) (mark : List Char) : Bool :=
  cursor.column = 0 && mark.isPrefixOf cursor.rest &&
    startsBlank (cursor.rest.drop mark.length)

def startMark : List Char := ['-', '-', '-']

def endMark : List Char := ['.', '.', '.']

def atDocumentEnd (cursor : Cursor) : Bool :=
  cursor.atEnd || cursor.isAtMark startMark || cursor.isAtMark endMark

def moveTo (cursor : Cursor) (rest : List Char) : Cursor :=
  let passed := cursor.rest.take (cursor.rest.length - rest.length)
  let column :=
    if passed.contains '\n' then (passed.reverse.takeWhile (· ≠ '\n')).length
    else cursor.column + passed.length
  { cursor with rest, column }

def crossesLine (start stop : Cursor) : Bool :=
  (start.rest.take (start.rest.length - stop.rest.length)).contains '\n'

end IngressMeter.Yaml.Cursor
