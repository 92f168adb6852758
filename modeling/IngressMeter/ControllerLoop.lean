import IngressMeter.Controller

/-!
The controller in the course of time: it waits for what the watch tells and for the next retry, and
deals with whatever comes first. Times are milliseconds.
-/

namespace IngressMeter

structure ClusterFeed where
  answers : ApiAnswers
  list : Option (List UrlPerformance)

structure ControllerLoop where
  controller : Controller := {}
  watcher : Watcher := {}
  told : List WatchItem := []
  awake : Nat := 0
  pauses : WatchPauses := {}
  now : Nat := 0

namespace ControllerLoop

inductive Step where
  | list
  | hear (item : WatchItem) (rest : List WatchItem)
  | retry (id : Nat)

def nextWatch? (loop : ControllerLoop) : Option (Nat × Step) :=
  let time := max loop.now loop.awake
  if loop.watcher.mustList then some (time, .list)
  else
    match loop.told with
    | item :: rest => some (time, .hear item rest)
    | [] => none

def nextRetry? (loop : ControllerLoop) : Option (Nat × Step) :=
  loop.controller.retries.earliest?.map fun retry => (max loop.now retry.due, .retry retry.id)

def next? (loop : ControllerLoop) : Option (Nat × Step) :=
  match loop.nextWatch?, loop.nextRetry? with
  | some watch, some retry => if retry.1 < watch.1 then some retry else some watch
  | some watch, none => some watch
  | none, retry => retry

def hearAll (answers : ApiAnswers) (now : Nat) (controller : Controller) (events : List WatchEvent) :
    Controller × List ApiRequest :=
  events.foldl
    (fun (controller, requests) event =>
      let (controller, more) := controller.onEvent answers event now
      (controller, requests ++ more))
    (controller, [])

def watch (loop : ControllerLoop) (feed : ClusterFeed) (watcher : Watcher)
    (events : List WatchEvent) (told : List WatchItem) : ControllerLoop × List ApiRequest :=
  let (controller, requests) := hearAll feed.answers loop.now loop.controller events
  let told := if watcher.mustList then [] else told
  let heard := { loop with controller, watcher, told }
  if Watcher.hasFailed events then
    let (pauses, pause) := loop.pauses.next loop.now
    ({ heard with pauses, awake := loop.now + pause }, requests)
  else (heard, requests)

def perform (loop : ControllerLoop) (feed : ClusterFeed) : Step → ControllerLoop × List ApiRequest
  | .list =>
    let (watcher, events) := Watcher.onList feed.list
    loop.watch feed watcher events loop.told
  | .hear item rest =>
    let (watcher, events) := Watcher.onItem item
    loop.watch feed watcher events rest
  | .retry id =>
    let expired := { loop.controller with retries := loop.controller.retries.expire id }
    let (controller, requests) := expired.takeRetry feed.answers loop.now
    ({ loop with controller }, requests)

def runBefore (feed : ClusterFeed) (upTo : Nat) : Nat → ControllerLoop →
    ControllerLoop × List ApiRequest
  | 0, loop => (loop, [])
  | fuel + 1, loop =>
    match loop.next? with
    | none => (loop, [])
    | some (time, step) =>
      if upTo ≤ time then (loop, [])
      else
        let (loop, requests) := { loop with now := time }.perform feed step
        let (loop, more) := runBefore feed upTo fuel loop
        (loop, requests ++ more)

/-- Lets time pass. Every step either uses up something that was told or takes at least a part of a
second, except for the retries of one moment. -/
def wait (loop : ControllerLoop) (feed : ClusterFeed) (milliseconds : Nat) :
    ControllerLoop × List ApiRequest :=
  let upTo := loop.now + milliseconds
  let fuel :=
    (milliseconds / WatchPauses.first + 2) * (loop.controller.retries.retries.length +
      loop.controller.service.store.size + loop.told.length + 100)
  let (loop, requests) := runBefore feed upTo fuel loop
  ({ loop with now := upTo }, requests)

end ControllerLoop

end IngressMeter
