import IngressMeter.CommandLine.Parse
import IngressMeter.Startup

/-!
A run of the program from its arguments to its exit code.
-/

namespace IngressMeter

inductive Course where
  | refused (error : UsageError)
  | printed
  | failed (error : StartError)
  | served (plan : StartPlan)

namespace Course

/-- What the program finds around it depends on the files that its options name. -/
def ofArguments (arguments : List String) (surroundings : RunOptions → Surroundings) : Course :=
  match CommandLine.parse arguments with
  | .error error => .refused error
  | .ok ⟨_, .definition⟩ => .printed
  | .ok ⟨_, .run options⟩ =>
    match options.plan (surroundings options) with
    | .error error => .failed error
    | .ok plan => .served plan

def isAnswer : UsageError → Bool
  | .help | .version => true
  | _ => false

def exitCode : Course → Nat
  | refused error => if isAnswer error then 0 else 2
  | failed _ => 1
  | printed | served _ => 0

def failure? : Course → Option StartError
  | failed error => some error
  | _ => none

def writes : Course → Bool
  | refused error => isAnswer error
  | printed => true
  | failed _ | served _ => false

end Course

end IngressMeter
