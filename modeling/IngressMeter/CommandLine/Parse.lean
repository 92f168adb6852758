import IngressMeter.CommandLine.Argument

/-!
The whole command line: what stands before the name of a command, the name itself, and its
arguments.
-/

namespace IngressMeter.CommandLine

def isCommandName (name : String) : Bool := ["run", "crd", "help"].contains name

def askForHelp : List String → UsageError
  | [] => .help
  | [name] => if isCommandName name then .help else .unknownCommand
  | _ => .unknownCommand

def parseFrom (debug : Bool) : List String → Except UsageError Invocation
  | [] => .error (if debug then .missingCommand else .noCommand)
  | argument :: rest =>
    match Argument.ofText argument with
    | .escape =>
      match rest with
      | [] => .error (if debug then .missingCommand else .noCommand)
      | name :: _ => .error (if isCommandName name then .unknownArgument else .unknownCommand)
    | .long name value =>
      if name ∉ ["debug", "help", "version"] then .error .unknownArgument
      else if value.isSome then .error .unexpectedValue
      else if name = "help" then .error .help
      else if name = "version" then .error .version
      else if debug then .error .repeated
      else parseFrom true rest
    | .short letters =>
      match letters.head? with
      | some 'h' => .error .help
      | some 'V' => .error .version
      | _ => .error .unknownArgument
    | .word "run" =>
      (Reading.finish true {} rest).map fun reading =>
        ⟨debug || reading.debug, .run reading.options⟩
    | .word "crd" =>
      (Reading.finish false {} rest).map fun reading => ⟨debug || reading.debug, .definition⟩
    | .word "help" => .error (askForHelp rest)
    | .word _ => .error .unknownCommand

def parse (arguments : List String) : Except UsageError Invocation := parseFrom false arguments

end IngressMeter.CommandLine
