import IngressMeter.Metrics.Engine

/-!
The two periodic tasks of the engine: the top set is decided anew at the beginning and then once a
period, and the series of single endpoints are dropped once a longer period. Times are milliseconds
since the beginning.
-/

namespace IngressMeter

inductive PeriodicTask where
  | refreshTop
  | resetEndpointSeries
  deriving DecidableEq, Repr

def PeriodicTask.run (engine : Engine) : PeriodicTask → Engine
  | refreshTop => engine.refreshTop
  | resetEndpointSeries => engine.resetEndpointSeries

structure Schedule where
  topPeriod : Nat
  resetPeriod : Nat
  elapsed : Option Nat := none
  stopped : Bool := false

namespace Schedule

def ticks (period first upTo : Nat) : List Nat :=
  (List.range' first (upTo / period + 1 - first)).map (· * period)

def due (schedule : Schedule) (wait : Nat) : List PeriodicTask :=
  if schedule.stopped then []
  else
    let upTo := schedule.elapsed.getD 0 + wait
    let firstTop := match schedule.elapsed with
      | none => 0
      | some time => time / schedule.topPeriod + 1
    let firstReset := match schedule.elapsed with
      | none => 1
      | some time => time / schedule.resetPeriod + 1
    let tops := (ticks schedule.topPeriod firstTop upTo).map fun time =>
      (time, PeriodicTask.refreshTop)
    let resets := (ticks schedule.resetPeriod firstReset upTo).map fun time =>
      (time, PeriodicTask.resetEndpointSeries)
    ((tops ++ resets).mergeSort fun a b => a.1 ≤ b.1).map (·.2)

def wait (schedule : Schedule) (milliseconds : Nat) (engine : Engine) : Schedule × Engine :=
  ({ schedule with elapsed := some (schedule.elapsed.getD 0 + milliseconds) },
    (schedule.due milliseconds).foldl PeriodicTask.run engine)

def stop (schedule : Schedule) : Schedule := { schedule with stopped := true }

end Schedule

end IngressMeter
