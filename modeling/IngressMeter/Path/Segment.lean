import IngressMeter.Text.Digit
import IngressMeter.Text.Hex

/-!
Path segments that name one thing among many, such as numbers. Each is replaced by a mark for its
kind. A replacement takes up the delimiter behind the segment, so of two neighbours that both fit
one pass replaces the first; passes are repeated until nothing fits any more.
-/

namespace IngressMeter.Path

def endsSegment : List Char → Bool
  | [] => true
  | c :: _ => c = '/' || c = '?'

def wholeRun? (accept : Char → Bool) (least : Nat) (text : List Char) : Option Nat :=
  let (run, rest) := text.span accept
  if least ≤ run.length && endsSegment rest then some run.length else none

def isTokenChar (c : Char) : Bool :=
  ('a' ≤ c && c ≤ 'z') || ('A' ≤ c && c ≤ 'Z') || ('0' ≤ c && c ≤ '9')

def uuidShape : List (Option Unit) :=
  let group (count : Nat) := List.replicate count (some ())
  group 8 ++ none :: group 4 ++ none :: group 4 ++ none :: group 4 ++ none :: group 12

def dropShape? : List (Option Unit) → List Char → Option (List Char)
  | [], text => some text
  | some () :: shape, c :: text => if isHexDigit c then dropShape? shape text else none
  | none :: shape, c :: text => if c = '-' then dropShape? shape text else none
  | _ :: _, [] => none

structure SegmentRule where
  length? : List Char → Option Nat
  mark : List Char

def numberRule : SegmentRule where
  length? := wholeRun? isDecimalDigit 1
  mark := ['{', 'i', 'd', '}']

def uuidRule : SegmentRule where
  length? text :=
    match dropShape? uuidShape text with
    | some rest => if endsSegment rest then some uuidShape.length else none
    | none => none
  mark := ['{', 'u', 'u', 'i', 'd', '}']

def tokenRule : SegmentRule where
  length? := wholeRun? isTokenChar 20
  mark := ['{', 't', 'o', 'k', 'e', 'n', '}']

/-- One pass from left to right over a path whose first `skip` characters are already done. Tells
whether anything was replaced. -/
def replacePass (rule : SegmentRule) : Nat → List Char → List Char × Bool
  | _, [] => ([], false)
  | skip + 1, _ :: rest => replacePass rule skip rest
  | 0, c :: rest =>
    if c = '/' then
      match rule.length? rest with
      | some length =>
        let delimiter := (rest.drop length).take 1
        ('/' :: rule.mark ++ delimiter ++ (replacePass rule (length + 1) rest).1, true)
      | none =>
        let (done, changed) := replacePass rule 0 rest
        (c :: done, changed)
    else
      let (done, changed) := replacePass rule 0 rest
      (c :: done, changed)

def maxPasses : Nat := 8

def replacePasses (rule : SegmentRule) : Nat → List Char → List Char
  | 0, path => path
  | passes + 1, path =>
    match replacePass rule 0 path with
    | (next, true) => replacePasses rule passes next
    | (_, false) => path

def replaceSegments (rule : SegmentRule) (path : List Char) : List Char :=
  replacePasses rule maxPasses path

/-- Puts `mark` in the place of the query, which begins with a question mark and ends with the
line. -/
def replaceQuery (mark : List Char) (path : List Char) : List Char :=
  let (before, rest) := path.span (· ≠ '?')
  if rest.isEmpty then path else before ++ mark ++ rest.dropWhile (· ≠ '\n')

end IngressMeter.Path
