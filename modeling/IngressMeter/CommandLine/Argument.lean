import IngressMeter.CommandLine.Value

/-!
The arguments of a command. An option takes its value from the same argument, behind an equals sign,
or from the next one. A value is only looked at when the argument behind it is known to be one of
the program, so an unknown argument is reported before a bad value that precedes it.
-/

namespace IngressMeter.CommandLine

def takesNegative (name : String) : Bool := name = "max-accesslog-size"

/-- A number as it may stand behind a minus sign: digits, one point that is not the first character,
and an exponent that is neither the first nor the last one. -/
def looksNumeric (first point exponent : Bool) : List Char → Bool
  | [] => true
  | c :: rest =>
    if Decimal.isDigit c then looksNumeric false point exponent rest
    else if c = '.' then !first && !point && !exponent && looksNumeric false true exponent rest
    else if c = 'e' then
      !first && !exponent && !rest.isEmpty && looksNumeric false point true rest
    else false

inductive Argument where
  | escape
  | long (name : String) (value : Option String)
  | short (letters : List Char)
  | word (text : String)
  deriving DecidableEq, Repr

def Argument.ofText (text : String) : Argument :=
  match text.toList with
  | ['-', '-'] => .escape
  | '-' :: '-' :: rest =>
    let (name, behind) := rest.span (· ≠ '=')
    .long (String.ofList name) (if behind.isEmpty then none else some (String.ofList (behind.drop 1)))
  | '-' :: letter :: rest => .short (letter :: rest)
  | _ => .word text

structure Reading where
  options : RunOptions := {}
  debug : Bool := false
  used : List String := []
  pending : Option (String × Option String) := none

namespace Reading

def markUsed (reading : Reading) (name : String) : Except UsageError Reading :=
  if reading.used.contains name then .error .repeated
  else .ok { reading with used := name :: reading.used }

def setValue (reading : Reading) (name value : String) : Except UsageError Reading := do
  let reading ← reading.markUsed name
  match valueReader? name with
  | none => .error .unknownArgument
  | some read => return { reading with options := ← read reading.options value }

def settle (reading : Reading) : Except UsageError Reading :=
  match reading.pending with
  | none => .ok reading
  | some (_, none) => .error .invalidValue
  | some (name, some value) => { reading with pending := none }.setValue name value

def waiting? (reading : Reading) : Option String :=
  match reading.pending with
  | some (name, none) => some name
  | _ => none

def long (isRun : Bool) (reading : Reading) (name : String) (value : Option String) :
    Except UsageError Reading :=
  let isValued := isRun && (valueReader? name).isSome
  let isSwitch := name = "debug" || name = "help" || (isRun && (switch? name).isSome)
  if isValued then do
    let reading ← reading.settle
    match value with
    | some value => reading.setValue name value
    | none => return { reading with pending := some (name, none) }
  else if !isSwitch then .error .unknownArgument
  else if value.isSome then .error .unexpectedValue
  else do
    let reading ← reading.settle
    if name = "help" then .error .help
    else
      let reading ← reading.markUsed name
      if name = "debug" then return { reading with debug := true }
      else return { reading with options := ((switch? name).getD id) reading.options }

def short (reading : Reading) (letters : List Char) : Except UsageError Reading :=
  match reading.waiting? with
  | some name =>
    if takesNegative name && looksNumeric true false false letters then
      .ok { reading with pending := some (name, some (String.ofList ('-' :: letters))) }
    else if letters.head? = some 'h' then .error .invalidValue
    else .error .unknownArgument
  | none =>
    if letters.head? = some 'h' then do
      let _ ← reading.settle
      .error .help
    else .error .unknownArgument

def word (reading : Reading) (text : String) : Except UsageError Reading :=
  match reading.waiting? with
  | some name => .ok { reading with pending := some (name, some text) }
  | none => .error .unknownArgument

def finish (isRun : Bool) (reading : Reading) : List String → Except UsageError Reading
  | [] => reading.settle
  | argument :: rest => do
    match Argument.ofText argument with
    | .escape => if rest.isEmpty then reading.settle else .error .unknownArgument
    | .long name value => finish isRun (← reading.long isRun name value) rest
    | .short letters => finish isRun (← reading.short letters) rest
    | .word text => finish isRun (← reading.word text) rest

end Reading

end IngressMeter.CommandLine
