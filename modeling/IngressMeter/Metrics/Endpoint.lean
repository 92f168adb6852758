import IngressMeter.Decimal.Binary

/-!
What is known of each endpoint since it was first requested. A row counts the requests of one path
of one router and sums up their durations, in seconds.
-/

namespace IngressMeter

structure EndpointKey where
  router : String
  path : String
  deriving DecidableEq, Repr

structure EndpointStat where
  totalRequests : Nat
  totalDuration : Float
  maxDuration : Float
  errorCount : Nat
  clientErrorCount : Nat
  serverErrorCount : Nat
  /-- Rows are numbered in the order in which they began. -/
  seq : Nat

namespace EndpointStat

def start (seq : Nat) : EndpointStat := ⟨0, 0, 0, 0, 0, 0, seq⟩

def isClientError (status : Nat) : Bool := 400 ≤ status && status < 500

def isServerError (status : Nat) : Bool := 500 ≤ status

def update (stat : EndpointStat) (seconds : Float) (status : Nat) : EndpointStat where
  totalRequests := stat.totalRequests + 1
  totalDuration := stat.totalDuration + seconds
  maxDuration := if stat.maxDuration < seconds then seconds else stat.maxDuration
  errorCount :=
    if isServerError status || isClientError status then stat.errorCount + 1 else stat.errorCount
  clientErrorCount :=
    if isClientError status then stat.clientErrorCount + 1 else stat.clientErrorCount
  serverErrorCount :=
    if isServerError status then stat.serverErrorCount + 1 else stat.serverErrorCount
  seq := stat.seq

def countToFloat (count : Nat) : Float := (UInt64.ofNat count).toFloat

def perRequest (stat : EndpointStat) (amount : Float) : Float :=
  if stat.totalRequests = 0 then 0 else amount / countToFloat stat.totalRequests

def avgDuration (stat : EndpointStat) : Float := stat.perRequest stat.totalDuration

def errorRate (stat : EndpointStat) : Float := stat.perRequest (countToFloat stat.errorCount)

def clientErrorRate (stat : EndpointStat) : Float :=
  stat.perRequest (countToFloat stat.clientErrorCount)

def serverErrorRate (stat : EndpointStat) : Float :=
  stat.perRequest (countToFloat stat.serverErrorCount)

end EndpointStat

structure EndpointStats where
  rows : List (EndpointKey × EndpointStat) := []
  nextSeq : Nat := 0

namespace EndpointStats

def get? (stats : EndpointStats) (key : EndpointKey) : Option EndpointStat :=
  stats.rows.lookup key

def record (stats : EndpointStats) (key : EndpointKey) (seconds : Float) (status : Nat) :
    EndpointStats × EndpointStat :=
  match stats.get? key with
  | some stat =>
    let updated := stat.update seconds status
    ({ stats with
        rows := stats.rows.map fun row => if row.1 = key then (row.1, updated) else row },
      updated)
  | none =>
    let updated := (EndpointStat.start stats.nextSeq).update seconds status
    (⟨stats.rows ++ [(key, updated)], stats.nextSeq + 1⟩, updated)

def pathCount (stats : EndpointStats) (router : String) : Nat :=
  (stats.rows.filter fun row => row.1.router = router).length

def removeRouter (stats : EndpointStats) (router : String) : EndpointStats :=
  { stats with rows := stats.rows.filter fun row => row.1.router ≠ router }

def size (stats : EndpointStats) : Nat := stats.rows.length

end EndpointStats

end IngressMeter
