import IngressMeter.Decimal.Text
import IngressMeter.Pattern.Bracket

/-!
Reading a pattern as a tree. The readers count down from the length of the pattern, of which every
step uses up something. A pattern that is not well formed gives nothing.
-/

namespace IngressMeter.Pattern

/-! Counts of repetitions. -/

def readCountDigits (flags : Flags) : Nat → List Char → List Char × List Char
  | 0, text => ([], text)
  | fuel + 1, text =>
    match text with
    | c :: rest =>
      if Decimal.isDigit c then
        let (digits, rest) := readCountDigits flags fuel (skipIgnored flags rest)
        (c :: digits, rest)
      else ([], c :: rest)
    | [] => ([], [])

def readCount (flags : Flags) (text : List Char) : Option (Nat × List Char) :=
  let (digits, rest) := readCountDigits flags text.length (trimStart text)
  ((Decimal.digits? digits).filter (· < powerOfTwo 32)).map (·, skipIgnored flags (trimStart rest))

def readBounds (flags : Flags) (text : List Char) : Option ((Nat × Option Nat) × List Char) := do
  let (least, rest) ← readCount flags (skipIgnored flags text)
  match rest with
  | '}' :: rest => return ((least, some least), rest)
  | ',' :: rest =>
    match skipIgnored flags rest with
    | '}' :: rest => return ((least, none), rest)
    | rest =>
      let (most, rest) ← readCount flags rest
      match rest with
      | '}' :: rest => if most < least then none else return ((least, some most), rest)
      | _ => none
  | _ => none

/-! Groups. -/

def isGroupNameStart (c : Char) : Bool := c = '_' || CharProperty.alphabetic.contains c.toNat

def isNumeric (c : Char) : Bool := Category.numbers.any (·.contains c.toNat)

def isGroupNameChar (c : Char) : Bool :=
  isGroupNameStart c || isNumeric c || c = '.' || c = '[' || c = ']'

def readGroupName (text : List Char) : Option (String × List Char) :=
  let (name, rest) := text.span (· ≠ '>')
  match name, rest with
  | first :: more, _ :: rest =>
    if isGroupNameStart first && more.all isGroupNameChar then some (String.ofList name, rest)
    else none
  | _, _ => none

def isLookAround : List Char → Bool
  | '?' :: '=' :: _ | '?' :: '!' :: _ | '?' :: '<' :: '=' :: _ | '?' :: '<' :: '!' :: _ => true
  | _ => false

/-! Expressions. -/

abbrev Item := Option Node × Nat

structure Reading where
  rest : List Char
  groups : Nat := 0
  names : List (String × Nat) := []

def joinItems : List Item → Item
  | [] => (some .empty, 0)
  | [item] => (some (item.1.getD .empty), item.2)
  | items =>
    (some (items.foldr (fun item rest => .seq (item.1.getD .empty) rest) .empty),
      1 + (items.foldl (fun depth item => max depth item.2) 0))

def joinChoices : List Item → Item
  | [] => (some .empty, 0)
  | [item] => item
  | first :: rest =>
    let node (item : Item) := item.1.getD .empty
    let last := (rest.getLast?.map node).getD .empty
    (some (.choice (node first) (rest.dropLast.foldr (fun item more => .choice (node item) more) last)),
      1 + ((first :: rest).foldl (fun depth item => max depth item.2) 0))

def charNode (flags : Flags) (c : Char) : Node :=
  if !flags.unicode && 128 ≤ c.toNat then .one (.single c) else .one (foldClass flags (.single c))

def dotNode? (flags : Flags) : Option Node :=
  let excluded : CharClass :=
    if flags.dotAll then .none
    else if flags.returnEndsLine then .ranges [(10, 10), (13, 13)]
    else .ranges [(10, 10)]
  (wholeChars? flags (.complement excluded)).map Node.one

def lineStart (flags : Flags) : Look :=
  if !flags.multiLine then .textStart else if flags.returnEndsLine then .returnStart else .lineStart

def lineEnd (flags : Flags) : Look :=
  if !flags.multiLine then .textEnd else if flags.returnEndsLine then .returnEnd else .lineEnd

def escapedNode (flags : Flags) : Escaped → Node
  | .char c => charNode flags c
  | .set accepted => .one accepted
  | .look condition => .look condition

def readGreed (flags : Flags) : List Char → Bool × List Char
  | '?' :: rest => (flags.swapGreed, rest)
  | text => (!flags.swapGreed, text)

def repeatLast? (flags : Flags) (least : Nat) (most : Option Nat) (items : List Item)
    (text : List Char) : Option (List Item × List Char) :=
  match items with
  | (some node, depth) :: items =>
    let (greedy, rest) := readGreed flags text
    some ((some (.loop node least most greedy), depth + 1) :: items, rest)
  | _ => none

def readChoices : Nat → Flags → List Item → List Item → Reading → Option (Item × Reading)
  | 0, _, _, _, _ => none
  | fuel + 1, flags, choices, items, reading =>
    let more (item : Item) (rest : List Char) :=
      readChoices fuel flags choices (item :: items) { reading with rest }
    let repeated (least : Nat) (most : Option Nat) (rest : List Char) :=
      match repeatLast? flags least most items rest with
      | some (items, rest) => readChoices fuel flags choices items { reading with rest }
      | none => none
    let group (inner : Flags) (capture : Option Nat) (start : Reading) :=
      match readChoices fuel inner [] [] start with
      | some ((node, depth), done) =>
        match done.rest with
        | ')' :: rest =>
          let body := node.getD .empty
          let node := match capture with
            | some index => .capture index body
            | none => body
          readChoices fuel flags choices ((some node, depth + 1) :: items) { done with rest }
        | _ => none
      | none => none
    match skipIgnored flags reading.rest with
    | [] => some (joinChoices ((joinItems items.reverse :: choices).reverse), { reading with rest := [] })
    | ')' :: rest =>
      some (joinChoices ((joinItems items.reverse :: choices).reverse),
        { reading with rest := ')' :: rest })
    | '|' :: rest =>
      readChoices fuel flags (joinItems items.reverse :: choices) [] { reading with rest }
    | '(' :: rest =>
      let rest := skipIgnored flags rest
      let index := reading.groups + 1
      let named (text : List Char) :=
        match readGroupName text with
        | some (name, rest) =>
          if reading.names.any (·.1 = name) then none
          else group flags (some index) ⟨rest, index, (name, index) :: reading.names⟩
        | none => none
      if isLookAround rest then none
      else
        match rest with
        | '?' :: 'P' :: '<' :: rest => named rest
        | '?' :: '<' :: rest => named rest
        | '?' :: rest =>
          match readFlags flags [] rest with
          | some (changed, seen, ')' :: rest) =>
            if seen.isEmpty then none
            else readChoices fuel changed choices ((none, 0) :: items) { reading with rest }
          | some (changed, _, _ :: rest) => group changed none { reading with rest }
          | _ => none
        | rest => group flags (some index) { reading with rest, groups := index }
    | '[' :: rest =>
      let (negated, opened, rest) := openClass flags rest
      match readClass flags negated (rest.length + 1) opened rest with
      | some ((accepted, depth), rest) => more (some (.one accepted), depth) rest
      | none => none
    | '?' :: rest => repeated 0 (some 1) rest
    | '*' :: rest => repeated 0 none rest
    | '+' :: rest => repeated 1 none rest
    | '{' :: rest =>
      match readBounds flags rest with
      | some ((least, most), rest) => repeated least most (skipIgnored flags rest)
      | none => none
    | '\\' :: rest =>
      match readEscape flags rest with
      | some (escaped, rest) => more (some (escapedNode flags escaped), 0) rest
      | none => none
    | '.' :: rest =>
      match dotNode? flags with
      | some node => more (some node, 0) rest
      | none => none
    | '^' :: rest => more (some (.look (lineStart flags)), 0) rest
    | '$' :: rest => more (some (.look (lineEnd flags)), 0) rest
    | c :: rest => more (some (charNode flags c), 0) rest

end IngressMeter.Pattern
