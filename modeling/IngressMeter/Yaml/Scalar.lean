import IngressMeter.Text.Hex
import IngressMeter.Yaml.Cursor

/-!
Texts that are plain, in single quotes or in double quotes. A line end counts as a space, and each
further one behind it as itself.
-/

namespace IngressMeter.Yaml

inductive Fold where
  | blanks (reversed : List Char)
  /-- A line end, whether it was escaped, and how many more follow. -/
  | lines (escaped : Bool) (more : Nat)

namespace Fold

def none : Fold := .blanks []

def blank (fold : Fold) (c : Char) : Fold :=
  match fold with
  | .blanks reversed => .blanks (c :: reversed)
  | .lines escaped more => .lines escaped more

def lineEnd : Fold → Fold
  | .blanks _ => .lines false 0
  | .lines escaped more => .lines escaped (more + 1)

def reversed : Fold → List Char
  | .blanks reversed => reversed
  | .lines false 0 => [' ']
  | .lines _ more => List.replicate more '\n'

end Fold

def readSingle (read : List Char) (fold : Fold) : List Char → Option (List Char × List Char)
  | [] => none
  | '\'' :: '\'' :: rest => readSingle ('\'' :: (fold.reversed ++ read)) .none rest
  | c :: rest =>
    if c = '\'' then some ((fold.reversed ++ read).reverse, rest)
    else if c = '\n' then readSingle read fold.lineEnd rest
    else if isBlankChar c then readSingle read (fold.blank c) rest
    else readSingle (c :: (fold.reversed ++ read)) .none rest

def simpleEscape? (c : Char) : Option Char :=
  match c with
  | '0' => some '\x00'
  | 'a' => some '\x07'
  | 'b' => some '\x08'
  | 't' => some '\t'
  | '\t' => some '\t'
  | 'n' => some '\n'
  | 'v' => some '\x0b'
  | 'f' => some '\x0c'
  | 'r' => some '\r'
  | 'e' => some '\x1b'
  | ' ' => some ' '
  | '"' => some '"'
  | '/' => some '/'
  | '\\' => some '\\'
  | 'N' => some (Char.ofNat 0x85)
  | '_' => some (Char.ofNat 0xA0)
  | 'L' => some (Char.ofNat 0x2028)
  | 'P' => some (Char.ofNat 0x2029)
  | _ => none

def codeWidth? (c : Char) : Option Nat :=
  match c with
  | 'x' => some 2
  | 'u' => some 4
  | 'U' => some 8
  | _ => none

def readDouble : Nat → List Char → Fold → List Char → Option (List Char × List Char)
  | 0, _, _, _ => none
  | fuel + 1, read, fold, text =>
    match text with
    | [] => none
    | '"' :: rest => some ((fold.reversed ++ read).reverse, rest)
    | '\\' :: '\n' :: rest => readDouble fuel (fold.reversed ++ read) (.lines true 0) rest
    | '\\' :: c :: rest =>
      match simpleEscape? c, codeWidth? c with
      | some escaped, _ => readDouble fuel (escaped :: (fold.reversed ++ read)) .none rest
      | none, some width =>
        if rest.length < width then none
        else
          match charOfHex? (rest.take width) with
          | some escaped =>
            readDouble fuel (escaped :: (fold.reversed ++ read)) .none (rest.drop width)
          | none => none
      | none, none => none
    | '\n' :: rest => readDouble fuel read fold.lineEnd rest
    | c :: rest =>
      if isBlankChar c then readDouble fuel read (fold.blank c) rest
      else readDouble fuel (c :: (fold.reversed ++ read)) .none rest

def isFlowIndicator (c : Char) : Bool :=
  c = ',' || c = '[' || c = ']' || c = '\x7b' || c = '\x7d'

def plainPart (inFlow : Bool) : List Char → List Char × List Char
  | [] => ([], [])
  | c :: rest =>
    let ends :=
      c = '\n' || (c = ':' && startsBlank rest) || (inFlow && isFlowIndicator c) ||
        (isBlankChar c && rest.head? = some '#')
    if ends then ([], c :: rest)
    else
      let (part, left) := plainPart inFlow rest
      (c :: part, left)

def dropBlanksAtEnd (text : List Char) : List Char :=
  (text.reverse.dropWhile isBlankChar).reverse

def skipLines (lines column : Nat) : List Char → Nat × Nat × List Char
  | [] => (lines, column, [])
  | c :: rest =>
    if c = '\n' then skipLines (lines + 1) 0 rest
    else if isBlankChar c then skipLines lines (column + 1) rest
    else (lines, column, c :: rest)

def readPlainLines (inFlow : Bool) (least : Nat) : Nat → List Char → List Char →
    List Char × List Char
  | 0, read, rest => (read, rest)
  | fuel + 1, read, rest =>
    let (lines, column, after) := skipLines 0 0 rest
    let cursor : Cursor := { rest := after, column }
    let stops :=
      lines = 0 || cursor.atDocumentEnd || after.head? = some '#' || (!inFlow && column < least)
    let part := (plainPart inFlow after).1
    if stops || part.isEmpty then (read, rest)
    else
      let joint := (Fold.lines false (lines - 1)).reversed
      readPlainLines inFlow least fuel (read ++ joint ++ dropBlanksAtEnd part)
        (after.drop (dropBlanksAtEnd part).length)

def readPlain (inFlow : Bool) (least : Nat) (text : List Char) : List Char × List Char :=
  let first := dropBlanksAtEnd (plainPart inFlow text).1
  readPlainLines inFlow least text.length first (text.drop first.length)

end IngressMeter.Yaml
