/-!
Retries that wait for their time. Each object has at most one that is pending: scheduling another
one aborts the first. A retry whose time has come can no longer be aborted, and stays in the queue
until it is taken. Times are milliseconds.
-/

namespace IngressMeter

inductive RetryState where
  | waiting
  | finished
  | aborted
  deriving DecidableEq, Repr

structure Retry where
  id : Nat
  object : String
  due : Nat
  state : RetryState
  deriving DecidableEq, Repr

structure RetryQueue where
  retries : List Retry := []
  /-- The retry that can be aborted, for each object that has one. -/
  pending : List (String × Nat) := []
  nextId : Nat := 0
  deriving DecidableEq, Repr

namespace RetryQueue

def abort (queue : RetryQueue) (id : Nat) : RetryQueue :=
  { queue with retries := queue.retries.map fun retry =>
      if retry.id = id && retry.state = .waiting then { retry with state := .aborted } else retry }

def forget (queue : RetryQueue) (object : String) : RetryQueue :=
  { queue with pending := queue.pending.filter (·.1 ≠ object) }

def cancel (queue : RetryQueue) (object : String) : RetryQueue :=
  match queue.pending.lookup object with
  | some id => (queue.abort id).forget object
  | none => queue

def schedule (queue : RetryQueue) (object : String) (due : Nat) : RetryQueue :=
  let queue := queue.cancel object
  { retries := queue.retries ++ [⟨queue.nextId, object, due, .waiting⟩]
    pending := (object, queue.nextId) :: queue.pending
    nextId := queue.nextId + 1 }

/-- Lets the time of a retry come. It goes behind those whose time came before. -/
def expire (queue : RetryQueue) (id : Nat) : RetryQueue :=
  let (ending, others) := queue.retries.partition fun retry =>
    retry.id = id && retry.state = .waiting
  { queue with retries := others ++ ending.map ({ · with state := .finished }) }

def earliest? (queue : RetryQueue) : Option Retry :=
  queue.retries.foldl
    (fun best retry =>
      if retry.state ≠ .waiting then best
      else
        match best with
        | some first => if retry.due < first.due then some retry else some first
        | none => some retry)
    none

def ready? (queue : RetryQueue) : Option Retry := queue.retries.find? (·.state = .finished)

/-- Takes a retry whose time has come, and drops those that were aborted. -/
def next (queue : RetryQueue) : RetryQueue × Option String :=
  let kept := queue.retries.filter (·.state ≠ .aborted)
  match queue.ready? with
  | none => ({ queue with retries := kept }, none)
  | some retry =>
    ({ queue with retries := kept.filter (·.id ≠ retry.id) }.forget retry.object,
      some retry.object)

def isEmpty (queue : RetryQueue) : Bool := queue.retries.isEmpty

end RetryQueue

end IngressMeter
