import IngressMeter.Yaml.Block
import IngressMeter.Yaml.Scalar

/-!
Reading YAML documents. The readers count down from the length of the text, of which every two steps
use up something.
-/

namespace IngressMeter.Yaml

def isNameChar (c : Char) : Bool := c.isAlphanum || c = '-' || c = '_'

structure Position where
  parent : Int
  afterKey : Bool

def readProperty? (cursor : Cursor) : Option (Option (List Char) × Cursor) :=
  match cursor.rest with
  | '&' :: rest =>
    let name := rest.takeWhile isNameChar
    if name.isEmpty then none else some (some name, cursor.skip (name.length + 1))
  | '!' :: rest =>
    some (none, cursor.skip ((rest.takeWhile fun c => !startsBlank [c] && c ≠ ',').length + 1))
  | _ => none

structure Properties where
  anchor : Option (List Char) := none
  cursor : Cursor
  newLine : Bool := false

def readProperties (inFlow : Bool) : Nat → Properties → Properties
  | 0, properties => properties
  | fuel + 1, properties =>
    match readProperty? properties.cursor with
    | none => properties
    | some (anchor, cursor) =>
      let anchor := anchor.or properties.anchor
      let (next, newLine) := cursor.next inFlow
      if newLine && !inFlow then { anchor, cursor, newLine }
      else readProperties inFlow fuel { anchor, cursor := next }

def Cursor.define (cursor : Cursor) (anchor : Option (List Char)) (node : Node) : Cursor :=
  match anchor with
  | some name => { cursor with anchors := (name, node) :: cursor.anchors }
  | none => cursor

def startsPlain (inFlow : Bool) : List Char → Bool
  | [] => false
  | c :: rest =>
    if c = '-' then !startsBlank rest
    else if c = '?' || c = ':' then !inFlow && !startsBlank rest
    else
      !(startsBlank [c] || isFlowIndicator c || "#&*!|>'\"%@\x60".toList.contains c)

def readAlias? (cursor : Cursor) : Option (Node × Cursor) :=
  let name := (cursor.rest.drop 1).takeWhile isNameChar
  (cursor.anchors.lookup name).map fun node => (node, cursor.skip (name.length + 1))

def isAtValue (inFlow : Bool) (cursor : Cursor) : Bool :=
  if inFlow then cursor.rest.head? = some ':' else cursor.isAt ':'

mutual

def readInline (inFlow : Bool) (least : Nat) : Nat → Cursor → Option (Node × Cursor)
  | 0, _ => none
  | fuel + 1, cursor =>
    match cursor.rest with
    | '"' :: rest =>
      (readDouble (rest.length + 1) [] .none rest).map fun (text, left) =>
        (.scalar false text, cursor.moveTo left)
    | '\'' :: rest =>
      (readSingle [] .none rest).map fun (text, left) => (.scalar false text, cursor.moveTo left)
    | '[' :: _ => readItems fuel [] (cursor.skip 1)
    | '\x7b' :: _ => readMembers fuel [] (cursor.skip 1)
    | '*' :: _ => readAlias? cursor
    | text =>
      if startsPlain inFlow text then
        let (scalar, left) := readPlain inFlow least text
        some (.scalar true scalar, cursor.moveTo left)
      else none

def readFlowNode : Nat → Cursor → Option (Node × Cursor)
  | 0, _ => none
  | fuel + 1, cursor =>
    let properties := readProperties true 2 { cursor }
    let cursor := properties.cursor
    match cursor.rest with
    | [] => none
    | c :: _ =>
      if c = ',' || c = ']' || c = '\x7d' || c = ':' then
        some (.empty, cursor.define properties.anchor .empty)
      else
        match readInline true 0 fuel cursor with
        | none => none
        | some (node, cursor) => some (node, cursor.define properties.anchor node)

def readPair : Nat → Cursor → Option (Node × Option Node × Cursor)
  | 0, _ => none
  | fuel + 1, cursor =>
    match readFlowNode fuel cursor with
    | none => none
    | some (key, cursor) =>
      let cursor := (cursor.next true).1
      if isAtValue true cursor then
        match readFlowNode fuel ((cursor.skip 1).next true).1 with
        | none => none
        | some (value, cursor) => some (key, some value, (cursor.next true).1)
      else some (key, none, cursor)

def readItems : Nat → List Node → Cursor → Option (Node × Cursor)
  | 0, _, _ => none
  | fuel + 1, read, cursor =>
    let cursor := (cursor.next true).1
    match cursor.rest with
    | ']' :: _ => some (.sequence read.reverse, cursor.skip 1)
    | ',' :: _ => none
    | _ =>
      match readPair fuel cursor with
      | none => none
      | some (key, value, cursor) =>
        let item := match value with
          | some value => .mapping [(key, value)]
          | none => key
        match cursor.rest with
        | ',' :: _ => readItems fuel (item :: read) (cursor.skip 1)
        | ']' :: _ => some (.sequence (item :: read).reverse, cursor.skip 1)
        | _ => none

def readMembers : Nat → List (Node × Node) → Cursor → Option (Node × Cursor)
  | 0, _, _ => none
  | fuel + 1, read, cursor =>
    let cursor := (cursor.next true).1
    match cursor.rest with
    | '\x7d' :: _ => some (.mapping read.reverse, cursor.skip 1)
    | ',' :: _ => none
    | _ =>
      match readPair fuel cursor with
      | none => none
      | some (key, value, cursor) =>
        let member := (key, value.getD .empty)
        match cursor.rest with
        | ',' :: _ => readMembers fuel (member :: read) (cursor.skip 1)
        | '\x7d' :: _ => some (.mapping (member :: read).reverse, cursor.skip 1)
        | _ => none

end

mutual

def readNode : Nat → Position → Cursor → Option (Node × Cursor)
  | 0, _, _ => none
  | fuel + 1, position, cursor =>
    let (start, newLine) := cursor.next false
    let isItem :=
      position.afterKey && newLine && (start.column : Int) = position.parent && start.isAt '-'
    if start.atDocumentEnd || ((start.column : Int) ≤ position.parent && !isItem) then
      some (.empty, start)
    else
      let properties := readProperties false 2 { cursor := start }
      let afterKey := position.afterKey && !newLine && !properties.newLine
      if properties.newLine || properties.cursor.atDocumentEnd then
        match readNode fuel position properties.cursor with
        | none => none
        | some (node, cursor) => some (node, cursor.define properties.anchor node)
      else readContent fuel { position with afterKey } properties.anchor start.column properties.cursor

def readContent : Nat → Position → Option (List Char) → Nat → Cursor → Option (Node × Cursor)
  | 0, _, _, _, _ => none
  | fuel + 1, position, anchor, column, cursor =>
    let defined (result : Option (Node × Cursor)) : Option (Node × Cursor) :=
      result.map fun (node, cursor) => (node, cursor.define anchor node)
    let block (folded : Bool) : Option (Node × Cursor) :=
      (readBlock? folded position.parent (cursor.rest.drop 1)).map fun (text, left) =>
        (.scalar false text, cursor.moveTo left)
    if cursor.isAt '-' then
      if position.afterKey then none
      else defined (readSequence fuel column ((column : Int) = position.parent) [] cursor)
    else if cursor.isAt '?' then
      if position.afterKey then none else defined (readMapping fuel column [] cursor)
    else if cursor.rest.head? = some '|' then defined (block false)
    else if cursor.rest.head? = some '>' then defined (block true)
    else
      match readInline false (position.parent + 1).toNat fuel cursor with
      | none => none
      | some (node, after) =>
        let behind := after.skipSpaces
        if isAtValue false behind then
          if position.afterKey || cursor.crossesLine after then none
          else
            match readNode fuel ⟨column, true⟩ ((behind.define anchor node).skip 1) with
            | none => none
            | some (value, cursor) => readMapping fuel column [(node, value)] cursor
        else some (node, after.define anchor node)

/-- The items of a sequence, the first of which begins here. A sequence in the column of the key that
it belongs to ends with the next key. -/
def readSequence : Nat → Nat → Bool → List Node → Cursor → Option (Node × Cursor)
  | 0, _, _, _, _ => none
  | fuel + 1, column, besideKey, read, cursor =>
    match readNode fuel ⟨column, false⟩ (cursor.skip 1) with
    | none => none
    | some (item, cursor) =>
      let (cursor, _) := cursor.next false
      let done := some (Node.sequence (item :: read).reverse, cursor)
      if cursor.atDocumentEnd || cursor.column < column then done
      else if column < cursor.column then none
      else if cursor.isAt '-' then readSequence fuel column besideKey (item :: read) cursor
      else if besideKey then done
      else none

def readMapping : Nat → Nat → List (Node × Node) → Cursor → Option (Node × Cursor)
  | 0, _, _, _ => none
  | fuel + 1, column, read, cursor =>
    let (cursor, _) := cursor.next false
    if cursor.atDocumentEnd || cursor.column < column then
      some (.mapping read.reverse, cursor)
    else if column < cursor.column then none
    else if cursor.isAt '?' then
      match readNode fuel ⟨column, false⟩ (cursor.skip 1) with
      | none => none
      | some (key, cursor) =>
        let (cursor, _) := cursor.next false
        if cursor.column = column && cursor.isAt ':' then
          match readNode fuel ⟨column, false⟩ (cursor.skip 1) with
          | none => none
          | some (value, cursor) => readMapping fuel column ((key, value) :: read) cursor
        else readMapping fuel column ((key, .empty) :: read) cursor
    else
      let properties := readProperties false 2 { cursor }
      if properties.newLine then none
      else
        match readInline false (column + 1) fuel properties.cursor with
        | none => none
        | some (key, after) =>
          let behind := after.skipSpaces
          if isAtValue false behind && !cursor.crossesLine after then
            match readNode fuel ⟨column, true⟩
                ((behind.define properties.anchor key).skip 1) with
            | none => none
            | some (value, cursor) => readMapping fuel column ((key, value) :: read) cursor
          else none

end

def skipDirectives : Nat → Cursor → Cursor
  | 0, cursor => cursor
  | fuel + 1, cursor =>
    let (cursor, _) := cursor.next false
    if cursor.column = 0 && cursor.rest.head? = some '%' then
      skipDirectives fuel (cursor.moveTo (cursor.rest.dropWhile (· ≠ '\n')))
    else cursor

def readDocuments : Nat → List Node → Cursor → Option (List Node)
  | 0, _, _ => none
  | fuel + 1, read, cursor =>
    let (start, _) := cursor.next false
    let cursor := skipDirectives fuel start
    let isMarked := cursor.isAtMark Cursor.startMark
    if cursor.atEnd then if start.atEnd then some read.reverse else none
    else if cursor.isAtMark Cursor.endMark then readDocuments fuel read (cursor.skip 3)
    else if !isMarked && (start.rest.head? = some '%') then none
    else
      let position : Position := ⟨-1, isMarked⟩
      match readNode fuel position (if isMarked then cursor.skip 3 else cursor) with
      | none => none
      | some (node, cursor) =>
        let (cursor, _) := cursor.next false
        if cursor.atDocumentEnd then
          readDocuments fuel (node :: read) { cursor with anchors := [] }
        else none

def alignLineEnds : List Char → List Char
  | [] => []
  | '\r' :: '\n' :: rest => '\n' :: alignLineEnds rest
  | '\r' :: rest => '\n' :: alignLineEnds rest
  | c :: rest => c :: alignLineEnds rest

def byteOrderMark : Char := Char.ofNat 0xFEFF

def isAllowed (c : Char) : Bool :=
  let code := c.toNat
  code = 9 || code = 10 || code = 13 || (32 ≤ code && code < 127) || code = 0x85 ||
    (0xA0 ≤ code && code < 0xFFFE && code ≠ 0xFEFF) || 0x10000 ≤ code

def documents? (text : String) : Option (List Node) :=
  let chars := match text.toList with
    | c :: rest => if c = byteOrderMark then rest else c :: rest
    | [] => []
  if chars.all isAllowed then
    readDocuments (4 * chars.length + 8) [] { rest := alignLineEnds chars }
  else none

def document? (text : String) : Option Node :=
  match documents? text with
  | some [] => some .empty
  | some [node] => some node
  | _ => none

end IngressMeter.Yaml
