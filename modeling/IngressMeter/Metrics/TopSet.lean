import IngressMeter.Metrics.Endpoint

/-!
The endpoints that are shown on their own: of each router those with the longest average duration.
Of two equally slow ones the older goes first.
-/

namespace IngressMeter

structure TopSet where
  endpoints : List EndpointKey := []
  deriving DecidableEq, Repr

namespace TopSet

def goesBefore (first second : EndpointStat) : Bool :=
  let a := first.avgDuration
  let b := second.avgDuration
  if isNotANumber a || isNotANumber b || floatRank a = floatRank b then first.seq ≤ second.seq
  else floatRank b < floatRank a

def distinct {α : Type} [DecidableEq α] : List α → List α
  | [] => []
  | x :: rest => x :: (distinct rest).filter (· ≠ x)

def candidates (rows : List (EndpointKey × EndpointStat)) (router : String) :
    List (EndpointKey × EndpointStat) :=
  (rows.filter fun row => row.1.router = router && 0 < row.2.totalRequests).mergeSort
    fun first second => goesBefore first.2 second.2

def compute (rows : List (EndpointKey × EndpointStat)) (limit : String → Nat) : TopSet :=
  let routers := distinct (rows.map (·.1.router))
  ⟨routers.flatMap fun router =>
    distinct (((candidates rows router).take (limit router)).map (·.1))⟩

def contains (top : TopSet) (key : EndpointKey) : Bool := top.endpoints.contains key

def pathsOf (top : TopSet) (router : String) : List String :=
  (top.endpoints.filter (·.router = router)).map (·.path)

def size (top : TopSet) : Nat := top.endpoints.length

end IngressMeter.TopSet
