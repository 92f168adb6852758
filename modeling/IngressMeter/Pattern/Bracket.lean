import IngressMeter.Pattern.Escape

/-!
Sets of characters in brackets: single characters, ranges, sets inside of sets, and the operators
that combine what stands before and behind them.
-/

namespace IngressMeter.Pattern

inductive ClassOp where
  | both
  | less
  | either

/-- What was read of a bracketed class: the items since the last operator, and the operator with
what stands before it. -/
structure OpenClass where
  items : CharClass := .none
  left : Option (ClassOp × CharClass) := none
  count : Nat := 0
  depth : Nat := 0

namespace OpenClass

def add (opened : OpenClass) (item : CharClass) (depth : Nat) : OpenClass :=
  { opened with
    items := .union opened.items item
    count := opened.count + 1
    depth := max opened.depth depth }

def settle (flags : Flags) (opened : OpenClass) : CharClass :=
  match opened.left with
  | none => opened.items
  | some (op, left) =>
    let left := foldClass flags left
    let right := foldClass flags opened.items
    match op with
    | .both => .both left right
    | .less => .less left right
    | .either => .either left right

def operate (flags : Flags) (opened : OpenClass) (op : ClassOp) : OpenClass :=
  { items := .none, left := some (op, opened.settle flags), depth := opened.depth + 1 }

def finish? (flags : Flags) (negated : Bool) (opened : OpenClass) : Option (CharClass × Nat) :=
  let accepted := foldClass flags (opened.settle flags)
  (wholeChars? flags (if negated then .complement accepted else accepted)).map fun accepted =>
    (accepted, 1 + (if 1 < opened.count then 1 else 0) + opened.depth)

end OpenClass

def readNamedClass (flags : Flags) : List Char → Option (CharClass × List Char)
  | ':' :: rest =>
    let (negated, rest) := match rest with
      | '^' :: rest => (true, rest)
      | _ => (false, rest)
    let (name, rest) := rest.span (· ≠ ':')
    match rest, CharClass.named? (String.ofList name) with
    | ':' :: ']' :: rest, some accepted =>
      let accepted := foldClass flags accepted
      some (if negated then .complement accepted else accepted, rest)
    | _, _ => none
  | _ => none

def readClassItem (flags : Flags) : List Char → Option (Escaped × List Char)
  | [] => none
  | '\\' :: rest => readEscape flags rest
  | c :: rest => some (.char c, rest)

def singleClass? (flags : Flags) (c : Char) : Option CharClass :=
  if !flags.unicode && 128 ≤ c.toNat then none else some (.single c)

def readClassRange (flags : Flags) (text : List Char) : Option (CharClass × List Char) := do
  let (first, rest) ← readClassItem flags text
  let rest := skipIgnored flags rest
  let isRange := match rest with
    | '-' :: more =>
      let next := (skipIgnored flags more).head?
      next != some ']' && next != some '-'
    | _ => false
  if rest.isEmpty then none
  else if isRange then
    let (last, rest) ← readClassItem flags (advance flags rest)
    match first, last with
    | .char first, .char last =>
      if last < first then none
      else
        let _ ← singleClass? flags last
        return (.ranges [(first.toNat, last.toNat)], rest)
    | _, _ => none
  else
    match first with
    | .char c => return (← singleClass? flags c, rest)
    | .set accepted => return (accepted, rest)
    | .look _ => none

def readDashes (flags : Flags) : Nat → OpenClass → List Char → OpenClass × List Char
  | 0, opened, text => (opened, text)
  | fuel + 1, opened, text =>
    match text with
    | '-' :: rest =>
      readDashes flags fuel (opened.add (.single '-') 0) (skipIgnored flags rest)
    | _ => (opened, text)

def openClass (flags : Flags) (text : List Char) : Bool × OpenClass × List Char :=
  let text := skipIgnored flags text
  let (negated, text) := match text with
    | '^' :: rest => (true, skipIgnored flags rest)
    | _ => (false, text)
  let (opened, text) := readDashes flags text.length {} text
  match text with
  | ']' :: rest =>
    if opened.count = 0 then (negated, opened.add (.single ']') 0, skipIgnored flags rest)
    else (negated, opened, text)
  | _ => (negated, opened, text)

def readClass (flags : Flags) (negated : Bool) :
    Nat → OpenClass → List Char → Option ((CharClass × Nat) × List Char)
  | 0, _, _ => none
  | fuel + 1, opened, text =>
    match skipIgnored flags text with
    | [] => none
    | '[' :: rest =>
      match readNamedClass flags rest with
      | some (accepted, rest) =>
        match wholeChars? flags accepted with
        | some accepted => readClass flags negated fuel (opened.add accepted 0) rest
        | none => none
      | none =>
        let (innerNegated, inner, rest) := openClass flags rest
        match readClass flags innerNegated fuel inner rest with
        | some ((accepted, depth), rest) =>
          readClass flags negated fuel (opened.add accepted depth) rest
        | none => none
    | ']' :: rest => (opened.finish? flags negated).map (·, rest)
    | '&' :: '&' :: rest => readClass flags negated fuel (opened.operate flags .both) rest
    | '-' :: '-' :: rest => readClass flags negated fuel (opened.operate flags .less) rest
    | '~' :: '~' :: rest => readClass flags negated fuel (opened.operate flags .either) rest
    | text =>
      match readClassRange flags text with
      | some (accepted, rest) => readClass flags negated fuel (opened.add accepted 0) rest
      | none => none

end IngressMeter.Pattern
