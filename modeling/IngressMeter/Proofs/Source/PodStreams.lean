import IngressMeter.Proofs.Entries
import IngressMeter.Source.PodSource
import Mathlib.Data.List.Induction

/-!
Each pod has one follower. Lists of the pods and ends of followers come in any order, and between
the parts of what a list brings about followers may end too. In every state the followers that were
not told to stop are those that are registered, no two of them for one pod, and behind a list they
are there for the pods of that list and no others. What a source does over time is made of such
steps: when it lists the pods, the list and the ends of the followers that it told to stop.
-/

namespace IngressMeter

def PodStream.entry (stream : PodStream) : String × Nat := (stream.pod, stream.number)

namespace PodStreams

structure Sound (streams : PodStreams) : Prop where
  numbers : (streams.running.map (·.number)).Nodup
  fresh : ∀ stream ∈ streams.running, stream.number < streams.nextNumber
  registered : streams.registered =
    (streams.running.filter (!·.isCancelled)).map PodStream.entry
  pods : (streams.registered.map (·.1)).Nodup

theorem sound_empty : ({} : PodStreams).Sound where
  numbers := List.nodup_nil
  fresh := by simp
  registered := rfl
  pods := List.nodup_nil

def told (streams : PodStreams) (live : List String) (stream : PodStream) : PodStream :=
  if (streams.registered.filter fun entry => !live.contains entry.1).contains
      (stream.pod, stream.number) then
    { stream with isCancelled := true }
  else stream

theorem told_number (streams : PodStreams) (live : List String) (stream : PodStream) :
    (streams.told live stream).number = stream.number := by
  rw [told]
  split <;> rfl

theorem told_eq_self {streams : PodStreams} {live : List String} {stream : PodStream}
    (kept : (streams.told live stream).isCancelled = false) :
    streams.told live stream = stream := by
  rw [told] at kept ⊢
  split
  · rename_i dropped
    rw [if_pos dropped] at kept
    contradiction
  · rfl

namespace Sound

variable {streams : PodStreams} (sound : streams.Sound)

include sound

theorem followed_eq : streams.followed = streams.registered.map (·.1) := by
  rw [followed, sound.registered, List.map_map]
  rfl

theorem mem_registered {pod : String} {number : Nat} :
    (pod, number) ∈ streams.registered ↔
      ∃ stream ∈ streams.running, stream.pod = pod ∧ stream.number = number ∧
        stream.isCancelled = false := by
  simp only [sound.registered, List.mem_map, List.mem_filter, PodStream.entry, Prod.mk.injEq,
    Bool.not_eq_true']
  constructor
  · rintro ⟨stream, ⟨member, live⟩, isPod, isNumber⟩
    exact ⟨stream, member, isPod, isNumber, live⟩
  · rintro ⟨stream, member, isPod, isNumber, live⟩
    exact ⟨stream, ⟨member, live⟩, isPod, isNumber⟩

theorem eq_of_number {first second : PodStream} (isFirst : first ∈ streams.running)
    (isSecond : second ∈ streams.running) (same : first.number = second.number) :
    first = second :=
  List.inj_on_of_nodup_map sound.numbers isFirst isSecond same

theorem start (pod : String) : (streams.start pod).Sound := by
  rw [PodStreams.start]
  cases found : streams.registered.lookup pod with
  | some number => exact sound
  | none =>
      have unknown : pod ∉ streams.registered.map (·.1) := Entries.lookup_eq_none.mp found
      refine ⟨?_, ?_, ?_, ?_⟩
      · rw [List.map_append, List.map_singleton, ← List.concat_eq_append]
        refine List.Nodup.concat ?_ sound.numbers
        intro member
        obtain ⟨stream, isRunning, same⟩ := List.mem_map.mp member
        exact absurd same (Nat.ne_of_lt (sound.fresh stream isRunning))
      · intro stream member
        rcases List.mem_append.mp member with before | new
        · exact Nat.lt_succ_of_lt (sound.fresh stream before)
        · rw [List.mem_singleton.mp new]
          exact Nat.lt_succ_self _
      · rw [sound.registered]
        simp [PodStream.entry]
      · rw [List.map_append, List.map_singleton, ← List.concat_eq_append]
        exact List.Nodup.concat unknown sound.pods

omit sound in
theorem retain_running (live : List String) :
    (streams.retain live).running = streams.running.map (streams.told live) := rfl

theorem told_isCancelled (live : List String) {stream : PodStream}
    (member : stream ∈ streams.running) :
    (streams.told live stream).isCancelled =
      (stream.isCancelled || !live.contains stream.pod) := by
  have dropped : stream.isCancelled = false → (stream.pod, stream.number) ∈ streams.registered :=
    fun kept => sound.mem_registered.mpr ⟨stream, member, rfl, rfl, kept⟩
  rw [told]
  split
  · rename_i isDropped
    rw [List.contains_iff_mem, List.mem_filter] at isDropped
    have notLive : (!live.contains stream.pod) = true := isDropped.2
    rw [notLive, Bool.or_true]
  · rename_i notDropped
    rw [List.contains_iff_mem, List.mem_filter] at notDropped
    cases state : stream.isCancelled with
    | true => rfl
    | false => simpa [dropped state] using notDropped

theorem retain (live : List String) : (streams.retain live).Sound := by
  refine ⟨?_, ?_, ?_, ?_⟩
  · rw [retain_running, List.map_map]
    have same : (·.number) ∘ streams.told live = (·.number) := by
      funext stream
      exact streams.told_number live stream
    rw [same]
    exact sound.numbers
  · intro stream member
    rw [retain_running, List.mem_map] at member
    obtain ⟨before, wasRunning, rfl⟩ := member
    rw [told_number]
    exact sound.fresh before wasRunning
  · have kept : ∀ stream ∈ streams.running.filter ((!·.isCancelled) ∘ streams.told live),
        (PodStream.entry ∘ streams.told live) stream = stream.entry := by
      intro stream member
      have notTold := (List.mem_filter.mp member).2
      rw [Function.comp, Bool.not_eq_true'] at notTold
      rw [Function.comp, told_eq_self notTold]
    have remaining : ∀ stream ∈ streams.running,
        ((!·.isCancelled) ∘ streams.told live) stream =
          (live.contains stream.pod && !stream.isCancelled) := by
      intro stream member
      rw [Function.comp, sound.told_isCancelled live member, Bool.not_or, Bool.not_not,
        Bool.and_comm]
    calc (streams.retain live).registered
        = streams.registered.filter fun entry => live.contains entry.1 := rfl
      _ = (streams.running.filter fun stream =>
            live.contains stream.pod && !stream.isCancelled).map PodStream.entry := by
          rw [sound.registered, List.filter_map, List.filter_filter]
          rfl
      _ = (streams.running.filter ((!·.isCancelled) ∘ streams.told live)).map
            (PodStream.entry ∘ streams.told live) := by
          rw [List.map_congr_left kept, List.filter_congr remaining]
      _ = ((streams.retain live).running.filter (!·.isCancelled)).map PodStream.entry := by
          rw [retain_running, List.filter_map, List.map_map]
  · exact sound.pods.sublist (List.filter_sublist.map _)

theorem finish_eq (number : Nat) :
    streams.finish number =
      { streams with
        running := streams.running.filter fun stream => stream.number ≠ number
        registered := streams.registered.filter fun entry => entry.2 ≠ number } := by
  rw [PodStreams.finish]
  cases found : streams.running.find? (·.number = number) with
  | none =>
      have missing : ∀ stream ∈ streams.running, stream.number ≠ number := by
        simpa using List.find?_eq_none.mp found
      have running : streams.running.filter (fun stream => stream.number ≠ number) =
          streams.running := by
        simpa [List.filter_eq_self] using missing
      have registered : streams.registered.filter (fun entry => entry.2 ≠ number) =
          streams.registered := by
        rw [List.filter_eq_self]
        intro entry member
        obtain ⟨stream, isRunning, _, isNumber, _⟩ := sound.mem_registered.mp member
        simpa [← isNumber] using missing stream isRunning
      simp only [running, registered]
  | some ended =>
      have isEnded : ended.number = number := by simpa using List.find?_some found
      have same : ∀ entry ∈ streams.registered,
          decide (entry ≠ (ended.pod, number)) = decide (entry.2 ≠ number) := by
        intro entry member
        rw [decide_eq_decide]
        refine not_congr ⟨fun same => congrArg Prod.snd same, fun sameNumber => ?_⟩
        obtain ⟨stream, isRunning, isPod, isNumber, _⟩ := sound.mem_registered.mp member
        have isStream : stream = ended :=
          sound.eq_of_number isRunning (List.mem_of_find?_eq_some found)
            (isNumber.trans (sameNumber.trans isEnded.symm))
        exact Prod.ext (isPod.symm.trans (congrArg PodStream.pod isStream)) sameNumber
      simp only [List.filter_congr same]

theorem finish (number : Nat) : (streams.finish number).Sound := by
  rw [sound.finish_eq]
  refine ⟨sound.numbers.sublist (List.filter_sublist.map _), ?_, ?_,
    sound.pods.sublist (List.filter_sublist.map _)⟩
  · intro stream member
    exact sound.fresh stream (List.mem_of_mem_filter member)
  · rw [sound.registered, List.filter_map, List.filter_filter, List.filter_filter]
    simp only [Function.comp_def, PodStream.entry, Bool.and_comm]
    rfl

theorem ne_of_isCancelled {stream : PodStream} (member : stream ∈ streams.running)
    (isCancelled : stream.isCancelled = true) :
    ∀ entry ∈ streams.registered, entry.2 ≠ stream.number := by
  intro entry isRegistered same
  obtain ⟨live, isRunning, _, isNumber, notCancelled⟩ := sound.mem_registered.mp isRegistered
  have isStream : live = stream := sound.eq_of_number isRunning member (isNumber.trans same)
  rw [isStream, isCancelled] at notCancelled
  contradiction

/-- Followers without a registration end without any effect on those that have one. -/
theorem foldl_finish {numbers : List Nat}
    (unregistered : ∀ number ∈ numbers, ∀ entry ∈ streams.registered, entry.2 ≠ number) :
    (numbers.foldl PodStreams.finish streams).Sound ∧
      (numbers.foldl PodStreams.finish streams).registered = streams.registered := by
  induction numbers generalizing streams with
  | nil => exact ⟨sound, rfl⟩
  | cons number rest ih =>
      have kept : (streams.finish number).registered = streams.registered := by
        rw [sound.finish_eq]
        refine List.filter_eq_self.mpr fun entry isRegistered => ?_
        exact decide_eq_true (unregistered number List.mem_cons_self entry isRegistered)
      have later : ∀ other ∈ rest, ∀ entry ∈ (streams.finish number).registered,
          entry.2 ≠ other := by
        rw [kept]
        exact fun other member => unregistered other (List.mem_cons_of_mem _ member)
      obtain ⟨soundAfter, same⟩ := ih (sound.finish number) later
      exact ⟨soundAfter, same.trans kept⟩

theorem foldl_start (pods : List String) : (pods.foldl PodStreams.start streams).Sound := by
  induction pods generalizing streams with
  | nil => exact sound
  | cons pod rest ih => exact ih (sound.start pod)

theorem sync (live : List String) : (streams.sync live).Sound :=
  (sound.retain live).foldl_start live

theorem mem_followed_start (pod other : String) :
    other ∈ (streams.start pod).followed ↔ other ∈ streams.followed ∨ other = pod := by
  rw [(sound.start pod).followed_eq, sound.followed_eq, PodStreams.start]
  cases found : streams.registered.lookup pod with
  | none => simp
  | some number =>
      have known : pod ∈ streams.registered.map (·.1) :=
        List.mem_map.mpr ⟨_, Entries.mem_of_lookup found, rfl⟩
      refine (or_iff_left_of_imp ?_).symm
      rintro rfl
      exact known

theorem mem_followed_foldl_start (pods : List String) (other : String) :
    other ∈ (pods.foldl PodStreams.start streams).followed ↔
      other ∈ streams.followed ∨ other ∈ pods := by
  induction pods generalizing streams with
  | nil => simp
  | cons pod rest ih =>
      rw [List.foldl_cons, ih (sound.start pod), sound.mem_followed_start, List.mem_cons, or_assoc]

theorem mem_followed_retain (live : List String) (pod : String) :
    pod ∈ (streams.retain live).followed ↔ pod ∈ streams.followed ∧ pod ∈ live := by
  rw [(sound.retain live).followed_eq, sound.followed_eq]
  simp only [PodStreams.retain, List.mem_map, List.mem_filter, List.contains_iff_mem]
  constructor
  · rintro ⟨entry, ⟨member, isLive⟩, rfl⟩
    exact ⟨⟨entry, member, rfl⟩, isLive⟩
  · rintro ⟨⟨entry, member, rfl⟩, isLive⟩
    exact ⟨entry, ⟨member, isLive⟩, rfl⟩

theorem mem_followed_sync (live : List String) (pod : String) :
    pod ∈ (streams.sync live).followed ↔ pod ∈ live := by
  rw [PodStreams.sync, (sound.retain live).mem_followed_foldl_start, sound.mem_followed_retain]
  exact or_iff_right_of_imp And.right

end Sound

end PodStreams

inductive PodStreamsStep where
  | list (answer : Option (List Pod))
  | finish (number : Nat)
  /-- The parts of what a list brings about, between which followers may end as well. -/
  | retain (live : List String)
  | start (pod : String)

namespace PodStreamsStep

variable (container : String)

def apply (streams : PodStreams) : PodStreamsStep → PodStreams
  | list none => streams
  | list (some pods) => streams.sync (PodSource.liveNames container pods)
  | finish number => streams.finish number
  | retain live => streams.retain live
  | start pod => streams.start pod

def run (steps : List PodStreamsStep) : PodStreams := steps.foldl (apply container) {}

theorem run_sound (steps : List PodStreamsStep) : (run container steps).Sound := by
  induction steps using List.reverseRecOn with
  | nil => exact PodStreams.sound_empty
  | append_singleton steps step ih =>
      rw [run, List.foldl_concat]
      cases step with
      | list answer =>
          cases answer with
          | none => exact ih
          | some pods => exact ih.sync _
      | finish number => exact ih.finish number
      | retain live => exact ih.retain live
      | start pod => exact ih.start pod

end PodStreamsStep

namespace PodSource

def Leads (source next : PodSource) : Prop :=
  next.container = source.container ∧ ∃ steps : List PodStreamsStep,
    next.streams = steps.foldl (PodStreamsStep.apply source.container) source.streams

theorem Leads.of_same {source next : PodSource} (container : next.container = source.container)
    (streams : next.streams = source.streams) : source.Leads next :=
  ⟨container, [], streams⟩

theorem Leads.trans {source between next : PodSource} (first : source.Leads between)
    (second : between.Leads next) : source.Leads next := by
  obtain ⟨container, steps, streams⟩ := first
  obtain ⟨sameContainer, more, later⟩ := second
  refine ⟨sameContainer.trans container, steps ++ more, ?_⟩
  rw [later, streams, container, List.foldl_append]

variable (source : PodSource) (cluster : PodCluster)

theorem leads_refl : source.Leads source := .of_same rfl rfl

theorem leads_finish (number : Nat) : source.Leads (source.finish number) :=
  ⟨rfl, [.finish number], rfl⟩

theorem leads_pass (number : Nat) (lines : List LogLine) :
    source.Leads (source.pass number lines).1 := by
  rw [pass]
  split
  · exact source.leads_refl
  · split
    · exact source.leads_refl
    · exact source.leads_finish number

theorem leads_onFailure (follower : PodFollower) (failure : Failure) :
    source.Leads (source.onFailure follower failure).1 := by
  have passed := source.leads_pass follower.number
    [LogLine.failed (some follower.pod) failure.message]
  simp only [onFailure]
  split
  · exact passed
  · split
    · exact passed.trans (.of_same rfl rfl)
    · exact passed.trans (leads_finish _ _)

theorem leads_follow (follower : PodFollower) :
    source.Leads (source.follow cluster follower).1 := by
  simp only [follow]
  split
  · split
    · exact source.leads_finish follower.number
    · exact source.leads_onFailure follower _
  · rename_i texts ending _
    have passed := source.leads_pass follower.number (texts.map (LogLine.ofPod follower.pod))
    split
    · exact passed
    · split
      · exact passed.trans (.of_same rfl rfl)
      · exact passed.trans (.of_same rfl rfl)
      · exact passed.trans (leads_onFailure _ _ _)

theorem pauseLists_same : source.pauseLists.container = source.container ∧
    source.pauseLists.streams = source.streams ∧
    source.pauseLists.followers = source.followers ∧
    source.pauseLists.lastSync = source.lastSync := by
  rw [pauseLists]
  split <;> exact ⟨rfl, rfl, rfl, rfl⟩

def stopped (streams : PodStreams) : List Nat :=
  (streams.running.filter (·.isCancelled)).map (·.number)

theorem withStreams_streams (streams : PodStreams) :
    (source.withStreams streams).streams =
      (stopped streams).foldl PodStreams.finish streams := by
  rw [stopped, List.foldl_map]
  rfl

section WithStreams

variable {streams : PodStreams} (sound : streams.Sound)

include sound

theorem withStreams_sound : (source.withStreams streams).streams.Sound ∧
    (source.withStreams streams).streams.registered = streams.registered := by
  rw [withStreams_streams]
  refine sound.foldl_finish fun number isStopped => ?_
  obtain ⟨stream, member, rfl⟩ := List.mem_map.mp isStopped
  obtain ⟨isRunning, isCancelled⟩ := List.mem_filter.mp member
  exact sound.ne_of_isCancelled isRunning isCancelled

/-- The followers are those that are registered, whoever followed before. -/
theorem exists_follower_iff {pod : String} {number : Nat} :
    (∃ follower ∈ (source.withStreams streams).followers,
        follower.pod = pod ∧ follower.number = number) ↔
      (pod, number) ∈ (source.withStreams streams).streams.registered := by
  rw [(source.withStreams_sound sound).2]
  simp only [withStreams, List.mem_append, List.mem_filter, List.contains_iff_mem, List.mem_map,
    Bool.not_eq_true']
  constructor
  · rintro ⟨follower, ⟨_, isRegistered⟩ | ⟨entry, ⟨isRegistered, _⟩, rfl⟩, rfl, rfl⟩
    · exact isRegistered
    · exact isRegistered
  · intro isRegistered
    by_cases known : ∃ follower ∈ source.followers,
        (follower.pod, follower.number) ∈ streams.registered ∧ follower.number = number
    · -- A number is registered once, so it is for this pod that the follower is kept.
      obtain ⟨follower, member, isKept, rfl⟩ := known
      obtain ⟨stream, isRunning, isPod, isNumber, _⟩ := sound.mem_registered.mp isRegistered
      obtain ⟨other, isRunningToo, isPodToo, isNumberToo, _⟩ := sound.mem_registered.mp isKept
      have same : other = stream :=
        sound.eq_of_number isRunningToo isRunning (isNumberToo.trans isNumber.symm)
      exact ⟨follower, Or.inl ⟨member, isKept⟩, by rw [← isPodToo, same, isPod], rfl⟩
    · refine ⟨_, Or.inr ⟨(pod, number), ⟨isRegistered, ?_⟩, rfl⟩, rfl, rfl⟩
      simpa using known

end WithStreams

def listSteps (pods : List Pod) : List PodStreamsStep :=
  .list (some pods) ::
    (stopped (source.streams.sync (liveNames source.container pods))).map .finish

theorem sync_eq {pods : List Pod} (listed : cluster.pods = some pods) :
    (source.sync cluster).1 =
      { source with
        lastSync := some source.now
        listBackoff := source.listBackoff.reset }.withStreams
          (source.streams.sync (liveNames source.container pods)) := by
  simp only [sync, PodCluster.list, listed]

theorem sync_streams {pods : List Pod} (listed : cluster.pods = some pods) :
    (source.sync cluster).1.streams =
      (source.listSteps pods).foldl (PodStreamsStep.apply source.container) source.streams := by
  rw [source.sync_eq cluster listed, withStreams_streams, listSteps, List.foldl_cons,
    List.foldl_map]
  rfl

theorem sync_listed {pods : List Pod} (sound : source.streams.Sound)
    (listed : cluster.pods = some pods) :
    let after := (source.sync cluster).1
    after.lastSync = some source.now ∧
      (∀ name, name ∈ after.streams.followed ↔ name ∈ liveNames source.container pods) ∧
      ∀ pod number, (∃ follower ∈ after.followers,
          follower.pod = pod ∧ follower.number = number) ↔
        (pod, number) ∈ after.streams.registered := by
  have soundSync := sound.sync (liveNames source.container pods)
  intro after
  have synced : after = _ := source.sync_eq cluster listed
  rw [synced]
  refine ⟨rfl, ?_, fun pod number => exists_follower_iff _ soundSync⟩
  intro name
  obtain ⟨soundAfter, registered⟩ := withStreams_sound { source with
    lastSync := some source.now
    listBackoff := source.listBackoff.reset } soundSync
  rw [soundAfter.followed_eq, registered, ← soundSync.followed_eq, sound.mem_followed_sync]

theorem leads_sync : source.Leads (source.sync cluster).1 := by
  cases listed : cluster.pods with
  | none =>
      simp only [sync, PodCluster.list, listed]
      exact .of_same source.pauseLists_same.1 source.pauseLists_same.2.1
  | some pods =>
      refine ⟨?_, source.listSteps pods, source.sync_streams cluster listed⟩
      rw [source.sync_eq cluster listed]
      rfl

theorem leads_syncWhenDue :
    source.Leads (if source.isSyncDue then
      ((source.sync cluster).1, (source.sync cluster).2, ([] : List LogLine))
      else (source, cluster, [])).1 := by
  split
  · exact source.leads_sync cluster
  · exact source.leads_refl

theorem leads_perform (step : Step) : source.Leads (source.perform cluster step).1 := by
  cases step with
  | list =>
      have woken : source.Leads
          (if source.mustResync then { source with mustResync := false }
            else { source with nextTick := source.now + source.period }) := by
        split <;> exact .of_same rfl rfl
      exact woken.trans (leads_syncWhenDue _ cluster)
  | follow follower => exact source.leads_follow cluster follower

theorem leads_runBefore (upTo fuel : Nat) (told : List LogLine) :
    source.Leads (runBefore upTo fuel source cluster told).1 := by
  induction fuel generalizing source cluster told with
  | zero => exact source.leads_refl
  | succ fuel ih =>
      simp only [runBefore]
      split
      · exact source.leads_refl
      · have waited : source.Leads { source with now := source.next.1 } := .of_same rfl rfl
        exact waited.trans ((leads_perform _ cluster _).trans (ih _ _ _))

theorem leads_wait (milliseconds : Nat) :
    source.Leads (source.wait cluster milliseconds).1 := by
  simp only [wait]
  exact (source.leads_runBefore cluster _ _ _).trans (.of_same rfl rfl)

end PodSource

namespace PodStreamsStep

/-- Lists of the pods and ends of followers may come in any order: those that were not told to stop
are registered, no two for one pod, and behind a list that did not fail they are there for the pods
that have a log to read. When a source lists the pods, its followers are these; a list that failed
changes nothing. The end of a follower is no business of the others, and all that a source does over
time are such steps. -/
theorem run_follows_each_once (container : String) (steps : List PodStreamsStep) :
    let streams := run container steps
    streams.followed.Nodup ∧
      (∀ pod number, (pod, number) ∈ streams.registered ↔
        ∃ stream ∈ streams.running, stream.pod = pod ∧ stream.number = number ∧
          stream.isCancelled = false) ∧
      (∀ pods name, name ∈ (run container (steps ++ [.list (some pods)])).followed ↔
        ∃ pod ∈ pods, (pod.info container).isStreamable = true ∧ (pod.info container).name = name) ∧
      (∀ ended ∈ streams.running, ∀ other ∈ streams.running, other ≠ ended →
        let after := run container (steps ++ [.finish ended.number])
        ended ∉ after.running ∧ other ∈ after.running ∧
          (other.entry ∈ after.registered ↔ other.entry ∈ streams.registered)) ∧
      (∀ source cluster pods, source.container = container → source.streams = streams →
        cluster.pods = some pods →
        let after := (PodSource.sync source cluster).1
        after.streams = run container (steps ++ source.listSteps pods) ∧
          after.lastSync = some source.now ∧
          (∀ name, name ∈ after.streams.followed ↔ ∃ pod ∈ pods,
            (pod.info container).isStreamable = true ∧ (pod.info container).name = name) ∧
          ∀ pod number, (∃ follower ∈ after.followers,
              follower.pod = pod ∧ follower.number = number) ↔
            (pod, number) ∈ after.streams.registered) ∧
      (∀ source cluster, source.streams = streams → cluster.pods = none →
        let after := (PodSource.sync source cluster).1
        after.streams = streams ∧ after.followers = source.followers ∧
          after.lastSync = source.lastSync) ∧
      ∀ source cluster milliseconds, source.container = container → source.streams = streams →
        ∃ more, (PodSource.wait source cluster milliseconds).1.streams =
          run container (steps ++ more) := by
  intro streams
  have sound : streams.Sound := run_sound container steps
  have mem_live : ∀ pods name, name ∈ PodSource.liveNames container pods ↔ ∃ pod ∈ pods,
      (pod.info container).isStreamable = true ∧ (pod.info container).name = name := by
    simp [PodSource.liveNames, and_assoc]
  refine ⟨?_, fun pod number => sound.mem_registered, ?_, ?_, ?_, ?_, ?_⟩
  · rw [sound.followed_eq]
    exact sound.pods
  · intro pods name
    have listed : run container (steps ++ [.list (some pods)]) =
        streams.sync (PodSource.liveNames container pods) := List.foldl_concat _ _ _ _
    rw [listed, sound.mem_followed_sync, mem_live]
  · intro ended isEnded other isOther different after
    have finished : after = streams.finish ended.number := List.foldl_concat _ _ _ _
    have number : other.number ≠ ended.number :=
      fun same => different (sound.eq_of_number isOther isEnded same)
    rw [finished, sound.finish_eq]
    simp [isOther, number, PodStream.entry]
  · rintro source cluster pods rfl same listed after
    have soundSource : source.streams.Sound := same ▸ sound
    obtain ⟨lastSync, followed, followers⟩ := source.sync_listed cluster soundSource listed
    refine ⟨?_, lastSync, ?_, followers⟩
    · rw [run, List.foldl_append, source.sync_streams cluster listed, same]
      rfl
    · intro name
      rw [followed, mem_live]
  · intro source cluster same failed
    have paused : (PodSource.sync source cluster).1 = source.pauseLists := by
      simp only [PodSource.sync, PodCluster.list, failed]
    rw [paused, ← same]
    exact source.pauseLists_same.2
  · rintro source cluster milliseconds rfl same
    obtain ⟨_, more, led⟩ := source.leads_wait cluster milliseconds
    refine ⟨more, ?_⟩
    rw [led, same, run, List.foldl_append]
    rfl

def readyPod (name : String) : Pod where
  metadata := { name := some name }
  phase := some "Running"
  containers := [⟨"traefik", true⟩]

theorem run_follows_each_once_relisted :
    let source : PodSource := { container := "traefik", period := 10000 }
    let first := (PodSource.sync source { pods := some [readyPod "a", readyPod "b"] }).1
    let second := (PodSource.sync first { pods := some [readyPod "b", readyPod "c"] }).1
    first.streams.followed = ["a", "b"] ∧
      (∀ name, name ∈ second.streams.followed ↔
        ∃ pod ∈ [readyPod "b", readyPod "c"],
          (pod.info "traefik").isStreamable = true ∧ (pod.info "traefik").name = name) ∧
      second.streams.registered = [("b", 1), ("c", 2)] ∧
      ∃ follower ∈ second.followers, follower.pod = "c" ∧ follower.number = 2 := by
  intro source first second
  obtain ⟨_, _, _, _, listed, _⟩ := run_follows_each_once "traefik" []
  obtain ⟨streams, _⟩ := listed source { pods := some [readyPod "a", readyPod "b"] } _ rfl rfl rfl
  obtain ⟨_, _, _, _, relisted, _⟩ := run_follows_each_once "traefik"
    ([] ++ source.listSteps [readyPod "a", readyPod "b"])
  obtain ⟨_, _, followed, followers⟩ :=
    relisted first { pods := some [readyPod "b", readyPod "c"] } _ rfl streams rfl
  have registered : second.streams.registered = [("b", 1), ("c", 2)] := by decide +kernel
  refine ⟨by decide +kernel, followed, registered, (followers "c" 2).mpr ?_⟩
  exact registered ▸ List.mem_cons_of_mem _ List.mem_cons_self

end PodStreamsStep

end IngressMeter
