import IngressMeter.AccessLog.Line
import IngressMeter.Backoff
import IngressMeter.Cluster.Pod
import IngressMeter.Failure
import IngressMeter.Source.PodStreams

/-!
The log source that follows all pods a selector selects. It lists them once a period and follows
those that have a log to read. A log that ends is opened again; when it fails, after longer and
longer pauses. A pod that turns out to be missing makes the source list the pods again at once.
Times are milliseconds.
-/

namespace IngressMeter

inductive StreamEnd where
  | staysOpen
  | closed
  | broken (cause : String)
  deriving DecidableEq, Repr

inductive LogStream where
  | refused (failure : Failure)
  | opened (lines : List String) (finish : StreamEnd)
  deriving DecidableEq, Repr

structure PodCluster where
  pods : Option (List Pod) := some []
  /-- What comes of the attempts to open the log of each pod. When they are used up, logs are silent. -/
  streams : List (String × List LogStream) := []
  opened : List (String × Nat) := []
  isListed : Bool := false

namespace PodCluster

def silent : LogStream := .opened [] .staysOpen

def openCount (cluster : PodCluster) (pod : String) : Nat := (cluster.opened.lookup pod).getD 0

def openLog (cluster : PodCluster) (pod : String) : PodCluster × LogStream :=
  let count := cluster.openCount pod
  ({ cluster with opened := (pod, count + 1) :: cluster.opened.filter (·.1 ≠ pod) },
    (((cluster.streams.lookup pod).getD [])[count]?).getD silent)

def list (cluster : PodCluster) : PodCluster × Option (List Pod) :=
  ({ cluster with isListed := true }, cluster.pods)

def streamCount (cluster : PodCluster) : Nat :=
  cluster.streams.foldl (fun count entry => count + entry.2.length) 0

end PodCluster

structure PodFollower where
  number : Nat
  pod : String
  backoff : Backoff := {}
  due : Option Nat

structure PodSource where
  container : String
  period : Nat
  streams : PodStreams := {}
  followers : List PodFollower := []
  nextTick : Nat := 0
  mustResync : Bool := false
  lastSync : Option Nat := none
  /-- After a list that failed, none is made before. -/
  resumesAt : Nat := 0
  listBackoff : Backoff := {}
  hasReader : Bool := true
  now : Nat := 0

namespace PodSource

def name : String := "kubernetes"

def capacity : Nat := 1000

def reopenDelay : Nat := 1000

def liveNames (container : String) (pods : List Pod) : List String :=
  ((pods.map (Pod.info · container)).filter PodInfo.isStreamable).map (·.name)

def isSyncDue (source : PodSource) : Bool :=
  match source.lastSync with
  | some time => source.period * 9 ≤ (source.now - time) * 10
  | none => true

def withStreams (source : PodSource) (streams : PodStreams) : PodSource :=
  let kept := source.followers.filter fun follower =>
    streams.registered.contains (follower.pod, follower.number)
  let isNew (entry : String × Nat) := !kept.any (·.number = entry.2)
  let started := (streams.registered.filter isNew).map fun (pod, number) =>
    { pod, number, due := some source.now : PodFollower }
  let cancelled := streams.running.filter (·.isCancelled)
  let streams := cancelled.foldl (fun streams stream => streams.finish stream.number) streams
  { source with streams, followers := kept ++ started }

/-- The pause after a list that failed. When all tries are used up it is a period. -/
def pauseLists (source : PodSource) : PodSource :=
  match source.listBackoff.next with
  | (listBackoff, .delay nanoseconds) =>
    { source with listBackoff, resumesAt := source.now + nanoseconds / 1000000 }
  | (listBackoff, _) =>
    { source with listBackoff := listBackoff.reset, resumesAt := source.now + source.period }

def sync (source : PodSource) (cluster : PodCluster) : PodSource × PodCluster :=
  let (cluster, listed) := cluster.list
  match listed with
  | some pods =>
    let streams := source.streams.sync (liveNames source.container pods)
    ({ source with lastSync := some source.now, listBackoff := source.listBackoff.reset }.withStreams
      streams, cluster)
  | none => (source.pauseLists, cluster)

def finish (source : PodSource) (number : Nat) : PodSource :=
  { source with
    streams := source.streams.finish number
    followers := source.followers.filter (·.number ≠ number) }

def setFollower (source : PodSource) (follower : PodFollower) : PodSource :=
  { source with followers := source.followers.map fun other =>
      if other.number = follower.number then follower else other }

/-- Passes on lines of a pod. Without a reader its follower ends with the first one. -/
def pass (source : PodSource) (number : Nat) (lines : List LogLine) :
    PodSource × List LogLine × Bool :=
  if source.hasReader then (source, lines, true)
  else if lines.isEmpty then (source, [], true)
  else (source.finish number, [], false)

def onFailure (source : PodSource) (follower : PodFollower) (failure : Failure) :
    PodSource × List LogLine :=
  let line := LogLine.failed (some follower.pod) failure.message
  let (source, lines, isHeard) := source.pass follower.number [line]
  if !isHeard then (source, [])
  else
    match follower.backoff.next with
    | (backoff, .delay nanoseconds) =>
      let due := some (source.now + nanoseconds / 1000000)
      (source.setFollower { follower with backoff, due }, lines)
    | _ => (source.finish follower.number, lines)

def streamFailure (pod cause : String) : Failure :=
  .logSource ("Log stream for " ++ pod ++ " failed: " ++ cause)

def follow (source : PodSource) (cluster : PodCluster) (follower : PodFollower) :
    PodSource × PodCluster × List LogLine :=
  let (cluster, stream) := cluster.openLog follower.pod
  match stream with
  | .refused failure =>
    if failure.isNotFound then
      ({ source.finish follower.number with lastSync := none, mustResync := true }, cluster, [])
    else
      let (source, lines) := source.onFailure follower failure
      (source, cluster, lines)
  | .opened texts ending =>
    let follower := { follower with backoff := follower.backoff.reset }
    let (source, lines, isHeard) :=
      source.pass follower.number (texts.map (LogLine.ofPod follower.pod))
    if !isHeard then (source, cluster, [])
    else
      match ending with
      | .staysOpen => (source.setFollower { follower with due := none }, cluster, lines)
      | .closed =>
        let due := some (source.now + reopenDelay)
        (source.setFollower { follower with due }, cluster, lines)
      | .broken cause =>
        let (source, more) := source.onFailure follower (streamFailure follower.pod cause)
        (source, cluster, lines ++ more)

inductive Step where
  | list
  | follow (follower : PodFollower)

def nextList (source : PodSource) : Nat :=
  max (max source.now source.resumesAt) (if source.mustResync then 0 else source.nextTick)

def next (source : PodSource) : Nat × Step :=
  source.followers.foldl
    (fun best follower =>
      match follower.due with
      | some due => if due < best.1 then (due, .follow follower) else best
      | none => best)
    (source.nextList, .list)

def perform (source : PodSource) (cluster : PodCluster) :
    Step → PodSource × PodCluster × List LogLine
  | .list =>
    let woken :=
      if source.mustResync then { source with mustResync := false }
      else { source with nextTick := source.now + source.period }
    if woken.isSyncDue then
      let (source, cluster) := woken.sync cluster
      (source, cluster, [])
    else (woken, cluster, [])
  | .follow follower => source.follow cluster follower

def runBefore (upTo : Nat) : Nat → PodSource → PodCluster → List LogLine →
    PodSource × PodCluster × List LogLine
  | 0, source, cluster, told => (source, cluster, told)
  | fuel + 1, source, cluster, told =>
    let (time, step) := source.next
    if upTo ≤ time then (source, cluster, told)
    else
      let (source, cluster, lines) := { source with now := time }.perform cluster step
      runBefore upTo fuel source cluster (told ++ lines)

def wait (source : PodSource) (cluster : PodCluster) (milliseconds : Nat) :
    PodSource × PodCluster × List LogLine :=
  let upTo := source.now + milliseconds
  let lists := milliseconds / source.period + cluster.streamCount + 3
  let pods := (cluster.pods.getD []).length + source.followers.length + 1
  let openings := (milliseconds / reopenDelay + 2) * pods
  let (source, cluster, lines) :=
    runBefore upTo (lists * (pods + 1) + openings) source cluster []
  ({ source with now := upTo }, cluster, lines)

end PodSource

end IngressMeter
