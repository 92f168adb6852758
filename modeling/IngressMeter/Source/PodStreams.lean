/-!
Which pods have their log followed, and by whom. A follower gets a number when it starts, and it is
registered for its pod. A pod that is no longer to be followed loses its registration at once, while
the follower, which is told to stop, ends in its own time; by then the pod may have another one.
-/

namespace IngressMeter

structure PodStream where
  pod : String
  number : Nat
  isCancelled : Bool := false
  deriving DecidableEq, Repr

structure PodStreams where
  running : List PodStream := []
  registered : List (String × Nat) := []
  nextNumber : Nat := 0
  deriving DecidableEq, Repr

namespace PodStreams

def start (streams : PodStreams) (pod : String) : PodStreams :=
  match streams.registered.lookup pod with
  | some _ => streams
  | none =>
    { running := streams.running ++ [{ pod, number := streams.nextNumber }]
      registered := streams.registered ++ [(pod, streams.nextNumber)]
      nextNumber := streams.nextNumber + 1 }

def retain (streams : PodStreams) (live : List String) : PodStreams :=
  let dropped := streams.registered.filter fun entry => !live.contains entry.1
  { streams with
    running := streams.running.map fun stream =>
      if dropped.contains (stream.pod, stream.number) then { stream with isCancelled := true }
      else stream
    registered := streams.registered.filter fun entry => live.contains entry.1 }

def sync (streams : PodStreams) (live : List String) : PodStreams :=
  live.foldl start (streams.retain live)

/-- The end of a follower, which takes back its own registration only. -/
def finish (streams : PodStreams) (number : Nat) : PodStreams :=
  match streams.running.find? (·.number = number) with
  | none => streams
  | some ended =>
    { streams with
      running := streams.running.filter (·.number ≠ number)
      registered := streams.registered.filter (· ≠ (ended.pod, number)) }

def cancelAll (streams : PodStreams) : PodStreams := streams.retain []

def followed (streams : PodStreams) : List String :=
  (streams.running.filter (!·.isCancelled)).map (·.pod)

end PodStreams

end IngressMeter
