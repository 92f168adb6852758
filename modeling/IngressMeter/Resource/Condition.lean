import IngressMeter.Time.Timestamp

/-!
Conditions of an object: for each type what holds and since when. The time of a condition only moves
when its status does.
-/

namespace IngressMeter

inductive ConditionType where
  | ready
  | targetExists
  | configGenerated
  deriving DecidableEq, Repr

namespace ConditionType

def label : ConditionType → String
  | ready => "Ready"
  | targetExists => "TargetExists"
  | configGenerated => "ConfigGenerated"

def all : List ConditionType := [ready, targetExists, configGenerated]

def ofLabel? (text : String) : Option ConditionType := all.find? (·.label = text)

end ConditionType

inductive ConditionStatus where
  | true
  | false
  | unknown
  deriving DecidableEq, Repr

namespace ConditionStatus

def label : ConditionStatus → String
  | .true => "True"
  | .false => "False"
  | .unknown => "Unknown"

def all : List ConditionStatus := [.true, .false, .unknown]

def ofLabel? (text : String) : Option ConditionStatus := all.find? (·.label = text)

end ConditionStatus

structure Condition where
  type : ConditionType
  status : ConditionStatus
  lastTransition : Option Timestamp
  reason : String
  message : String
  deriving DecidableEq, Repr

namespace Condition

def find? (conditions : List Condition) (type : ConditionType) : Option Condition :=
  conditions.find? (·.type = type)

def change (condition : Condition) (status : ConditionStatus) (reason message : String)
    (now : Timestamp) : Condition :=
  { condition with
    status, reason, message
    lastTransition := if condition.status = status then condition.lastTransition else some now }

def set (conditions : List Condition) (type : ConditionType) (status : ConditionStatus)
    (reason message : String) (now : Timestamp) : List Condition :=
  match conditions with
  | [] => [⟨type, status, some now, reason, message⟩]
  | condition :: rest =>
    if condition.type = type then condition.change status reason message now :: rest
    else condition :: set rest type status reason message now

end Condition

end IngressMeter
