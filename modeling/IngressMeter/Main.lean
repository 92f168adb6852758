import IngressMeter.Json.Printer
import IngressMeter.Program
import IngressMeter.Resource.Definition
import IngressMeter.Routes
import IngressMeter.Source.FileTail

/-!
The command line. A service that runs reads requests for its pages from the standard input, one a
line, such as `GET /metrics`, and answers them on the standard output. Before each answer it counts
what was added to its log file.
-/

namespace IngressMeter.Main

def readBytes? (path : String) : IO (Option Bytes) := do
  try
    return some (← IO.FS.readBinFile path).toList
  catch _ => return none

def readText? (path : String) : IO (Option String) := do
  let bytes ← readBytes? path
  return bytes.bind fun bytes => String.fromUTF8? ⟨bytes.toArray⟩

def readNamed {α : Type} (read : String → IO (Option α)) (path : Option String) : IO (Option α) :=
  match path with
  | some path => read path
  | none => return none

def userKubeconfigPath : IO (Option String) := do
  match ← IO.getEnv "KUBECONFIG" with
  | some path => return some path
  | none => return (← IO.getEnv "HOME").map (· ++ "/.kube/config")

def surroundings (options : RunOptions) : IO Surroundings := do
  return {
    kubeconfig := ← readNamed readText? options.kubeconfig
    userKubeconfig := ← readNamed readText? (← userKubeconfigPath)
    configFile := ← readNamed readBytes? options.configFile
    podNamespace := ← IO.getEnv "POD_NAMESPACE"
    podName := ← IO.getEnv "POD_NAME"
    hostName := ← IO.getEnv "HOSTNAME" }

def seconds : IO Nat := return (← IO.monoMsNow) / 1000

def diskAt (path : String) : IO Disk := do
  match ← readBytes? path with
  | some bytes => return Disk.create {} bytes
  | none => return {}

structure Running where
  service : Service
  tail : FileTail := {}

def Running.catchUp (running : Running) (processor : Processor) (disk : Disk) (now : Nat) :
    Running :=
  let (tail, lines) := running.tail.poll disk
  let service := lines.foldl (fun service line => (processor.processLine now service line).1)
    running.service
  { service := { service with engine := service.engine.refreshTop }, tail }

def bodyText : PageBody → String
  | .empty => ""
  | .exposition lines => String.join (lines.map (· ++ "\n"))
  | .report report => (Json.ofMembers report.members).render ++ "\n"

def splitRequest (line : String) : String × String :=
  match (line.splitOn " ").filter (!·.isEmpty) with
  | [] => ("GET", "")
  | [target] => ("GET", target)
  | method :: target :: _ => (method, target)

partial def serve (options : RunOptions) (processor : Processor) (running : Running) : IO Unit := do
  let line ← (← IO.getStdin).getLine
  if line.isEmpty then return
  let now ← seconds
  let disk ← diskAt options.logFile
  let caughtUp := running.catchUp processor disk now
  let (method, target) := splitRequest (trimString line)
  let (service, page) := Routes.respond caughtUp.service now method target
  IO.println (toString page.status)
  IO.print (bodyText page.body)
  (← IO.getStdout).flush
  serve options processor { caughtUp with service }

def usageText : String :=
  "Usage: ingress-meter [--debug] <run [options] | crd>"

def versionText : String := "ingress-meter"

def usageMessage : UsageError → String
  | .help => usageText
  | .version => versionText
  | .noCommand | .missingCommand => "error: no command is given\n\n" ++ usageText
  | .unknownCommand => "error: unknown command\n\n" ++ usageText
  | .unknownArgument => "error: unknown argument\n\n" ++ usageText
  | .invalidValue => "error: an option lacks its value or does not take it\n\n" ++ usageText
  | .malformedValue => "error: the value of an option is malformed\n\n" ++ usageText
  | .unexpectedValue => "error: an option that takes no value has one\n\n" ++ usageText
  | .repeated => "error: an option is repeated\n\n" ++ usageText

def optionsOf (arguments : List String) : RunOptions :=
  match CommandLine.parse arguments with
  | .ok ⟨_, .run options⟩ => options
  | _ => {}

def run (arguments : List String) : IO UInt32 := do
  let options := optionsOf arguments
  let found ← surroundings options
  let course := Course.ofArguments arguments fun _ => found
  match course with
  | .refused error =>
    if Course.isAnswer error then IO.println (usageMessage error)
    else IO.eprintln (usageMessage error)
  | .printed => IO.println Definition.manifest.render
  | .failed error => IO.eprintln ("Error: " ++ error.message)
  | .served plan =>
    let now ← seconds
    let health := { started := now, lastProcessed := now : Health }.setReady
    serve options plan.processor { service := { health } }
  return UInt32.ofNat course.exitCode

end IngressMeter.Main

def main (arguments : List String) : IO UInt32 := IngressMeter.Main.run arguments
