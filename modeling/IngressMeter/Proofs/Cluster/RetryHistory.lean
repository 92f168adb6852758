import IngressMeter.Proofs.Cluster.RetryQueue
import Mathlib.Data.List.Induction

/-!
Which retries can still be taken, whatever was called in whatever order the clock allows. Replacing
or cancelling a retry takes effect as long as it waits. When its time has come and it was not taken
yet, it is taken all the same, besides the one that replaced it.
-/

namespace IngressMeter

structure RetryClock where
  queue : RetryQueue := {}
  now : Nat := 0

inductive RetryStep where
  | schedule (object : String) (delay : Nat)
  | cancel (object : String)
  | pass (milliseconds : Nat)
  /-- The delay of a retry ends, which it does no earlier than it is due. -/
  | expire (id : Nat)
  | next
  deriving DecidableEq

namespace RetryStep

def scheduled? : RetryStep → Option String
  | schedule object _ => some object
  | cancel _ | pass _ | expire _ | next => none

def Drops (object : String) : RetryStep → Prop
  | schedule other _ | cancel other => other = object
  | pass _ | expire _ | next => False

def scheduled (steps : List RetryStep) : List String := steps.filterMap scheduled?

def Dropped (steps : List RetryStep) (id : Nat) : Prop :=
  ∃ before after object, before ++ after = steps ∧ (scheduled before)[id]? = some object ∧
    ∃ step ∈ after, step.Drops object

theorem scheduled_append (steps more : List RetryStep) :
    scheduled (steps ++ more) = scheduled steps ++ scheduled more :=
  List.filterMap_append

theorem scheduled_append_eq_some {steps : List RetryStep} {id : Nat} {object : String}
    (isScheduled : (scheduled steps)[id]? = some object) (more : List RetryStep) :
    (scheduled (steps ++ more))[id]? = some object := by
  obtain ⟨isIn, _⟩ := List.getElem?_eq_some_iff.mp isScheduled
  rw [scheduled_append, List.getElem?_append_left isIn]
  exact isScheduled

theorem Dropped.isScheduled {steps : List RetryStep} {id : Nat} (dropped : Dropped steps id) :
    id < (scheduled steps).length := by
  obtain ⟨before, after, object, rfl, isScheduled, _⟩ := dropped
  obtain ⟨isIn, _⟩ := List.getElem?_eq_some_iff.mp (scheduled_append_eq_some isScheduled after)
  exact isIn

theorem dropped_concat {steps : List RetryStep} {step : RetryStep} {id : Nat} :
    Dropped (steps ++ [step]) id ↔
      Dropped steps id ∨ ∃ object, (scheduled steps)[id]? = some object ∧ step.Drops object := by
  constructor
  · rintro ⟨before, after, object, split, isScheduled, dropping, isIn, drops⟩
    obtain rfl | ⟨earlier, last, rfl⟩ := after.eq_nil_or_concat'
    · exact absurd isIn List.not_mem_nil
    · rw [← List.append_assoc] at split
      obtain ⟨rfl, isLast⟩ := List.append_inj' split rfl
      obtain rfl : last = step := List.singleton_inj.mp isLast
      rcases List.mem_append.mp isIn with isEarlier | isLast
      · exact Or.inl ⟨before, earlier, object, rfl, isScheduled, dropping, isEarlier, drops⟩
      · rw [List.mem_singleton.mp isLast] at drops
        exact Or.inr ⟨object, scheduled_append_eq_some isScheduled earlier, drops⟩
  · rintro (⟨before, after, object, rfl, isScheduled, dropping, isIn, drops⟩ |
      ⟨object, isScheduled, drops⟩)
    · exact ⟨before, after ++ [step], object, (List.append_assoc ..).symm, isScheduled, dropping,
        List.mem_append_left _ isIn, drops⟩
    · exact ⟨steps, [step], object, rfl, isScheduled, step, List.mem_singleton_self step, drops⟩

end RetryStep

namespace RetryQueue

section Member

variable {queue : RetryQueue} {retry : Retry}

theorem mem_cancel (live : retry.state ≠ .aborted) (object : String) :
    retry ∈ (queue.cancel object).retries ↔
      retry ∈ queue.retries ∧
        ¬(queue.pending.lookup object = some retry.id ∧ retry.state = .waiting) := by
  rw [cancel]
  cases queue.pending.lookup object with
  | none => simp
  | some id =>
      constructor
      · intro isIn
        obtain ⟨old, member, rfl⟩ : ∃ old ∈ queue.retries, old.mark id .aborted = retry :=
          List.mem_map.mp isIn
        by_cases stopped : old.id = id && old.state = .waiting
        · exact absurd (by rw [Retry.mark, if_pos stopped]) live
        · rw [Retry.mark, if_neg stopped]
          refine ⟨member, fun isPending => stopped ?_⟩
          simp [Option.some.inj isPending.1, isPending.2]
      · rintro ⟨isIn, stays⟩
        refine List.mem_map.mpr ⟨retry, isIn, if_neg fun stopped => ?_⟩
        rw [Bool.and_eq_true, decide_eq_true_eq, decide_eq_true_eq] at stopped
        exact stays ⟨congrArg some stopped.1.symm, stopped.2⟩

theorem mem_schedule {object : String} {due : Nat} :
    retry ∈ (queue.schedule object due).retries ↔
      retry ∈ (queue.cancel object).retries ∨
        retry = ⟨(queue.cancel object).nextId, object, due, .waiting⟩ := by
  rw [schedule, List.mem_append, List.mem_singleton]

theorem mem_expire {id : Nat} : retry ∈ (queue.expire id).retries ↔
    ∃ old ∈ queue.retries, old.mark id .finished = retry := by
  rw [(queue.expire_perm id).mem_iff]
  exact List.mem_map

theorem mem_next : retry ∈ queue.next.1.retries ↔
    retry ∈ queue.retries ∧ retry.state ≠ .aborted ∧
      ∀ taken, queue.ready? = some taken → retry.id ≠ taken.id := by
  rw [next]
  cases queue.ready? with
  | none => simp
  | some taken => simp [forget, and_assoc, and_comm]

theorem next_snd {taken : Retry} (isReady : queue.ready? = some taken) :
    queue.next.2 = some taken.object := by
  rw [next, isReady]

theorem exists_ready (isIn : retry ∈ queue.retries) (finished : retry.state = .finished) :
    ∃ taken, queue.ready? = some taken := by
  rw [← Option.isSome_iff_exists, ready?, List.find?_isSome]
  exact ⟨retry, isIn, decide_eq_true finished⟩

theorem length_next_lt {taken : Retry} (isReady : queue.ready? = some taken) :
    queue.next.1.retries.length < queue.retries.length := by
  obtain ⟨isIn, finished⟩ := ready?_spec isReady
  have kept : taken ∈ queue.retries.filter (·.state ≠ .aborted) :=
    List.mem_filter.mpr ⟨isIn, by simp [finished]⟩
  rw [next, isReady]
  calc ((queue.retries.filter (·.state ≠ .aborted)).filter (·.id ≠ taken.id)).length
      < (queue.retries.filter (·.state ≠ .aborted)).length :=
        List.length_filter_lt_length_iff_exists.mpr ⟨taken, kept, by simp⟩
    _ ≤ queue.retries.length := List.length_filter_le _ _

end Member

section Pending

variable (queue : RetryQueue) {object other : String}

theorem cancel_nextId (object : String) : (queue.cancel object).nextId = queue.nextId := by
  rw [cancel]
  cases queue.pending.lookup object <;> rfl

theorem lookup_cancel (different : other ≠ object) :
    (queue.cancel object).pending.lookup other = queue.pending.lookup other := by
  rw [cancel]
  cases queue.pending.lookup object with
  | none => rfl
  | some id =>
      exact (Entries.lookup_filter_ne queue.pending object other).trans (if_neg different)

theorem lookup_schedule_self (object : String) (due : Nat) :
    (queue.schedule object due).pending.lookup object = some queue.nextId := by
  rw [schedule, List.lookup_cons_self, cancel_nextId]

theorem lookup_schedule (due : Nat) (different : other ≠ object) :
    (queue.schedule object due).pending.lookup other = queue.pending.lookup other := by
  rw [schedule, List.lookup_cons, beq_eq_false_iff_ne.mpr different]
  exact queue.lookup_cancel different

theorem lookup_next (notTaken : ∀ taken, queue.ready? = some taken → taken.object ≠ object) :
    queue.next.1.pending.lookup object = queue.pending.lookup object := by
  rw [next]
  cases isReady : queue.ready? with
  | none => rfl
  | some taken =>
      have different := Ne.symm (notTaken taken isReady)
      exact (Entries.lookup_filter_ne queue.pending taken.object object).trans (if_neg different)

end Pending

end RetryQueue

namespace RetryClock

open RetryStep

def apply (clock : RetryClock) : RetryStep → RetryClock
  | .schedule object delay =>
    { clock with queue := clock.queue.schedule object (clock.now + delay) }
  | .cancel object => { clock with queue := clock.queue.cancel object }
  | .pass milliseconds => { clock with now := clock.now + milliseconds }
  | .expire id =>
    if clock.queue.retries.any fun retry => retry.id = id && retry.due ≤ clock.now then
      { clock with queue := clock.queue.expire id }
    else clock
  | .next => { clock with queue := clock.queue.next.1 }

def run (steps : List RetryStep) : RetryClock := steps.foldl apply {}

theorem run_concat (steps : List RetryStep) (step : RetryStep) :
    run (steps ++ [step]) = (run steps).apply step := by
  rw [run, List.foldl_append]
  rfl

def Returns (clock : RetryClock) (id : Nat) : Prop :=
  ∃ retry, clock.queue.ready? = some retry ∧ retry.id = id ∧
    clock.queue.next.2 = some retry.object

/-- Whether the retry with a number is taken after some further steps. -/
def CanReturn (clock : RetryClock) (id : Nat) : Prop :=
  ∃ later : List RetryStep, (later.foldl apply clock).Returns id

def Keeps (clock : RetryClock) (id : Nat) : Prop :=
  ∃ retry ∈ clock.queue.retries, retry.id = id ∧ retry.state ≠ .aborted

/-- Whether a retry that is replaced or cancelled can no longer be aborted. -/
def Misses (clock : RetryClock) (step : RetryStep) : Prop :=
  ∃ retry ∈ clock.queue.retries, retry.state = .finished ∧ step.Drops retry.object

section Step

variable {clock : RetryClock} {step : RetryStep}

theorem nextId_apply (clock : RetryClock) (step : RetryStep) : (clock.apply step).queue.nextId =
    clock.queue.nextId + (step.scheduled?.toList).length := by
  cases step with
  | schedule object delay => exact congrArg (· + 1) (clock.queue.cancel_nextId object)
  | cancel object => exact clock.queue.cancel_nextId object
  | pass milliseconds => rfl
  | expire id =>
      rw [apply]
      split <;> rfl
  | next =>
      rw [apply, RetryQueue.next]
      cases clock.queue.ready? <;> rfl

/-- A retry that is kept behind a step is new, or was kept before and the step neither aborts nor
takes it. -/
theorem mem_apply {retry : Retry} (isIn : retry ∈ (clock.apply step).queue.retries)
    (live : retry.state ≠ .aborted) :
    (∃ object delay, step = .schedule object delay ∧
        retry = ⟨clock.queue.nextId, object, clock.now + delay, .waiting⟩) ∨
      ∃ old ∈ clock.queue.retries, old.id = retry.id ∧ old.object = retry.object ∧
        old.state ≠ .aborted ∧
        (∀ object, step.Drops object →
          ¬(clock.queue.pending.lookup object = some old.id ∧ old.state = .waiting)) ∧
        (step = .next → ∀ taken, clock.queue.ready? = some taken → old.id ≠ taken.id) := by
  cases step with
  | schedule object delay =>
      rcases RetryQueue.mem_schedule.mp isIn with kept | isNew
      · obtain ⟨old, stays⟩ := (RetryQueue.mem_cancel live object).mp kept
        refine Or.inr ⟨retry, old, rfl, rfl, live, ?_, RetryStep.noConfusion⟩
        rintro _ rfl
        exact stays
      · rw [clock.queue.cancel_nextId] at isNew
        exact Or.inl ⟨object, delay, rfl, isNew⟩
  | cancel object =>
      obtain ⟨old, stays⟩ := (RetryQueue.mem_cancel live object).mp isIn
      refine Or.inr ⟨retry, old, rfl, rfl, live, ?_, RetryStep.noConfusion⟩
      rintro _ rfl
      exact stays
  | pass milliseconds =>
      exact Or.inr ⟨retry, isIn, rfl, rfl, live, fun _ => False.elim, RetryStep.noConfusion⟩
  | expire id =>
      rw [apply] at isIn
      split at isIn
      · obtain ⟨old, member, rfl⟩ := RetryQueue.mem_expire.mp isIn
        exact Or.inr ⟨old, member, (old.mark_id ..).symm, (old.mark_object ..).symm,
          old.state_of_mark _ _ live, fun _ => False.elim, RetryStep.noConfusion⟩
      · exact Or.inr ⟨retry, isIn, rfl, rfl, live, fun _ => False.elim, RetryStep.noConfusion⟩
  | next =>
      obtain ⟨member, _, notTaken⟩ := RetryQueue.mem_next.mp isIn
      exact Or.inr ⟨retry, member, rfl, rfl, live, fun _ => False.elim, fun _ => notTaken⟩

theorem lookup_apply {object : String} (stays : ¬step.Drops object)
    (notTaken : step = .next → ∀ taken, clock.queue.ready? = some taken → taken.object ≠ object) :
    (clock.apply step).queue.pending.lookup object = clock.queue.pending.lookup object := by
  cases step with
  | schedule other delay => exact clock.queue.lookup_schedule _ (Ne.symm stays)
  | cancel other => exact clock.queue.lookup_cancel (Ne.symm stays)
  | pass milliseconds => rfl
  | expire id =>
      rw [apply]
      split <;> rfl
  | next => exact clock.queue.lookup_next (notTaken rfl)

theorem keeps_apply {retry : Retry} (isIn : retry ∈ clock.queue.retries)
    (live : retry.state ≠ .aborted)
    (notAborted : ∀ object, step.Drops object →
      ¬(clock.queue.pending.lookup object = some retry.id ∧ retry.state = .waiting))
    (notTaken : step = .next → ∀ taken, clock.queue.ready? = some taken → retry.id ≠ taken.id) :
    (clock.apply step).Keeps retry.id := by
  have kept (object : String) (drops : step.Drops object) :
      retry ∈ (clock.queue.cancel object).retries :=
    (RetryQueue.mem_cancel live object).mpr ⟨isIn, notAborted object drops⟩
  cases step with
  | schedule object delay =>
      exact ⟨retry, RetryQueue.mem_schedule.mpr (Or.inl (kept object rfl)), rfl, live⟩
  | cancel object => exact ⟨retry, kept object rfl, rfl, live⟩
  | pass milliseconds => exact ⟨retry, isIn, rfl, live⟩
  | expire id =>
      rw [apply]
      split
      · exact ⟨retry.mark id .finished, RetryQueue.mem_expire.mpr ⟨retry, isIn, rfl⟩,
          retry.mark_id .., retry.mark_finished_state id live⟩
      · exact ⟨retry, isIn, rfl, live⟩
  | next => exact ⟨retry, RetryQueue.mem_next.mpr ⟨isIn, live, notTaken rfl⟩, rfl, live⟩

theorem sound_apply (sound : clock.queue.Sound) (step : RetryStep) :
    (clock.apply step).queue.Sound := by
  cases step with
  | schedule object delay => exact sound.schedule object _
  | cancel object => exact sound.cancel object
  | pass milliseconds => exact sound
  | expire id =>
      rw [apply]
      split
      · exact sound.expire id
      · exact sound
  | next => exact sound.next_cases.1

end Step

section CanReturn

variable {clock : RetryClock} {id : Nat}

theorem CanReturn.of_apply {step : RetryStep} (canReturn : (clock.apply step).CanReturn id) :
    clock.CanReturn id := by
  obtain ⟨later, returns⟩ := canReturn
  exact ⟨step :: later, returns⟩

theorem Keeps.of_apply {step : RetryStep} (isOld : id < clock.queue.nextId)
    (keeps : (clock.apply step).Keeps id) : clock.Keeps id := by
  obtain ⟨retry, isIn, rfl, live⟩ := keeps
  rcases mem_apply isIn live with ⟨_, _, _, rfl⟩ | ⟨old, member, same, _, oldLive, _⟩
  · exact absurd isOld (Nat.lt_irrefl _)
  · exact ⟨old, member, same, oldLive⟩

theorem CanReturn.keeps (isOld : id < clock.queue.nextId) (canReturn : clock.CanReturn id) :
    clock.Keeps id := by
  obtain ⟨later, returns⟩ := canReturn
  induction later generalizing clock with
  | nil =>
      obtain ⟨retry, isReady, same, _⟩ := returns
      obtain ⟨isIn, finished⟩ := RetryQueue.ready?_spec isReady
      exact ⟨retry, isIn, same, by simp [finished]⟩
  | cons step later ih =>
      have stillOld : id < (clock.apply step).queue.nextId := by
        rw [nextId_apply]
        exact Nat.lt_add_right _ isOld
      exact (ih stillOld returns).of_apply isOld

theorem canReturn_of_finished {retry : Retry} (isIn : retry ∈ clock.queue.retries)
    (finished : retry.state = .finished) : clock.CanReturn retry.id := by
  generalize isLength : clock.queue.retries.length = length
  induction length using Nat.strongRecOn generalizing clock with
  | ind length ih =>
      obtain ⟨taken, isReady⟩ := RetryQueue.exists_ready isIn finished
      by_cases same : taken.id = retry.id
      · exact ⟨[], taken, isReady, same, RetryQueue.next_snd isReady⟩
      · have stays : retry ∈ (clock.apply .next).queue.retries := by
          refine RetryQueue.mem_next.mpr ⟨isIn, by simp [finished], fun first isFirst => ?_⟩
          rw [isReady, Option.some.injEq] at isFirst
          exact isFirst ▸ Ne.symm same
        have shorter := RetryQueue.length_next_lt isReady
        exact (ih _ (isLength ▸ shorter) stays rfl).of_apply

theorem Keeps.canReturn (keeps : clock.Keeps id) : clock.CanReturn id := by
  obtain ⟨retry, isIn, rfl, live⟩ := keeps
  cases isState : retry.state with
  | waiting =>
      let later := clock.apply (.pass retry.due)
      have isDue : (later.queue.retries.any fun other =>
          other.id = retry.id && other.due ≤ later.now) = true :=
        List.any_eq_true.mpr ⟨retry, isIn, by simp [later, apply]⟩
      have ended : { retry with state := .finished } ∈
          (later.apply (.expire retry.id)).queue.retries := by
        rw [apply, if_pos isDue]
        exact RetryQueue.mem_expire.mpr ⟨retry, isIn, by simp [Retry.mark, isState]⟩
      exact (canReturn_of_finished ended rfl).of_apply.of_apply
  | finished => exact canReturn_of_finished isIn isState
  | aborted => exact absurd isState live

end CanReturn

section History

variable {steps : List RetryStep} {clock : RetryClock} {step : RetryStep}

structure Numbers (steps : List RetryStep) (clock : RetryClock) : Prop where
  nextId_eq : clock.queue.nextId = (scheduled steps).length
  own : ∀ retry ∈ clock.queue.retries, retry.state ≠ .aborted →
    (scheduled steps)[retry.id]? = some retry.object

theorem Numbers.apply (numbers : Numbers steps clock) (step : RetryStep) :
    Numbers (steps ++ [step]) (clock.apply step) where
  nextId_eq := by
    rw [nextId_apply, numbers.nextId_eq, scheduled_append, List.length_append]
    cases step <;> rfl
  own := by
    intro retry isIn live
    rcases mem_apply isIn live with
      ⟨object, delay, rfl, rfl⟩ | ⟨old, member, sameId, sameObject, oldLive, _⟩
    · rw [numbers.nextId_eq, scheduled_append]
      exact List.getElem?_concat_length
    · rw [← sameId, ← sameObject]
      exact scheduled_append_eq_some (numbers.own old member oldLive) [step]

theorem run_numbers (steps : List RetryStep) : Numbers steps (run steps) := by
  induction steps using List.reverseRecOn with
  | nil => exact ⟨rfl, by simp [run]⟩
  | append_singleton steps step ih =>
      rw [run_concat]
      exact ih.apply step

theorem run_sound (steps : List RetryStep) : (run steps).queue.Sound := by
  induction steps using List.reverseRecOn with
  | nil => exact RetryQueue.sound_empty
  | append_singleton steps step ih =>
      rw [run_concat]
      exact sound_apply ih step

def Taken (steps : List RetryStep) (id : Nat) : Prop :=
  ∃ before, before ++ [.next] <+: steps ∧ (run before).Returns id

theorem taken_concat {id : Nat} : Taken (steps ++ [step]) id ↔
    Taken steps id ∨ step = .next ∧ (run steps).Returns id := by
  constructor
  · rintro ⟨before, isPrefix, returns⟩
    rcases List.prefix_concat_iff.mp isPrefix with whole | earlier
    · obtain ⟨rfl, isLast⟩ := List.append_inj' whole rfl
      exact Or.inr ⟨(List.singleton_inj.mp isLast).symm, returns⟩
    · exact Or.inl ⟨before, earlier, returns⟩
  · rintro (⟨before, earlier, returns⟩ | ⟨rfl, returns⟩)
    · exact ⟨before, earlier.trans (List.prefix_append steps [step]), returns⟩
    · exact ⟨steps, List.prefix_rfl, returns⟩

theorem Taken.gone {id : Nat} (taken : Taken steps id) :
    id < (run steps).queue.nextId ∧ ¬(run steps).Keeps id := by
  induction steps using List.reverseRecOn with
  | nil =>
      obtain ⟨before, isPrefix, _⟩ := taken
      simp at isPrefix
  | append_singleton steps step ih =>
      rw [run_concat, nextId_apply]
      rcases taken_concat.mp taken with earlier | ⟨rfl, retry, isReady, rfl, _⟩
      · obtain ⟨isOld, gone⟩ := ih earlier
        exact ⟨Nat.lt_add_right _ isOld, fun keeps => gone (keeps.of_apply isOld)⟩
      · have isOld := (run_sound steps).fresh retry (RetryQueue.ready?_spec isReady).1
        refine ⟨Nat.lt_add_right _ isOld, ?_⟩
        rintro ⟨other, isIn, same, _⟩
        exact (RetryQueue.mem_next.mp isIn).2.2 retry isReady same

/-- What was scheduled waits or has finished until it is dropped or taken. -/
theorem keeps_of_not_taken {id : Nat} (isScheduled : id < (scheduled steps).length)
    (notDropped : ¬Dropped steps id) (notTaken : ¬Taken steps id) : (run steps).Keeps id := by
  induction steps using List.reverseRecOn with
  | nil => exact absurd isScheduled (Nat.not_lt_zero id)
  | append_singleton steps step ih =>
      rw [dropped_concat, not_or] at notDropped
      rw [taken_concat, not_or] at notTaken
      rw [run_concat]
      have numbers := run_numbers steps
      by_cases isOld : id < (scheduled steps).length
      · obtain ⟨retry, isIn, rfl, live⟩ := ih isOld notDropped.1 notTaken.1
        refine keeps_apply isIn live ?_ ?_
        -- A step aborts the retry that is pending for its object, which is one of that object.
        · rintro object drops ⟨found, _⟩
          have own : retry.object = object :=
            (run_sound steps).own _ (Entries.mem_of_lookup found) retry isIn rfl
          exact notDropped.2 ⟨object, own ▸ numbers.own retry isIn live, drops⟩
        · intro isNext taken isReady same
          exact notTaken.2 ⟨isNext, taken, isReady, same.symm, RetryQueue.next_snd isReady⟩
      · rw [scheduled_append, List.length_append] at isScheduled
        cases step with
        | schedule object delay =>
            have isLast : id = (run steps).queue.nextId := by
              rw [numbers.nextId_eq]
              exact Nat.le_antisymm (Nat.lt_succ_iff.mp isScheduled) (Nat.not_lt.mp isOld)
            refine ⟨_, RetryQueue.mem_schedule.mpr (Or.inr rfl), ?_, RetryState.noConfusion⟩
            rw [RetryQueue.cancel_nextId, isLast]
        | cancel object => exact absurd isScheduled isOld
        | pass milliseconds => exact absurd isScheduled isOld
        | expire other => exact absurd isScheduled isOld
        | next => exact absurd isScheduled isOld

theorem canReturn_iff_not_taken {id : Nat} (isScheduled : id < (scheduled steps).length)
    (notDropped : ¬Dropped steps id) : (run steps).CanReturn id ↔ ¬Taken steps id := by
  constructor
  · intro canReturn taken
    obtain ⟨isOld, gone⟩ := taken.gone
    exact gone (canReturn.keeps isOld)
  · intro notTaken
    exact (keeps_of_not_taken isScheduled notDropped notTaken).canReturn

structure Tracked (steps : List RetryStep) (clock : RetryClock) (retry : Retry) : Prop where
  pending : clock.queue.pending.lookup retry.object = some retry.id
  current : ¬Dropped steps retry.id

def Tracks (steps : List RetryStep) (clock : RetryClock) : Prop :=
  ∀ retry ∈ clock.queue.retries, retry.state ≠ .aborted → Tracked steps clock retry

namespace Tracks

variable (tracks : Tracks steps clock)

include tracks

theorem unique {first second : Retry} (isFirst : first ∈ clock.queue.retries)
    (isSecond : second ∈ clock.queue.retries) (firstLive : first.state ≠ .aborted)
    (secondLive : second.state ≠ .aborted) (same : first.object = second.object) :
    first.id = second.id := by
  have isPending := (tracks first isFirst firstLive).pending
  rw [same, (tracks second isSecond secondLive).pending] at isPending
  exact (Option.some.inj isPending).symm

theorem not_drops (hits : ¬clock.Misses step) {retry : Retry} (isIn : retry ∈ clock.queue.retries)
    (live : retry.state ≠ .aborted)
    (stays : ∀ object, step.Drops object →
      ¬(clock.queue.pending.lookup object = some retry.id ∧ retry.state = .waiting)) :
    ¬step.Drops retry.object := by
  intro drops
  cases isState : retry.state with
  | waiting => exact stays retry.object drops ⟨(tracks retry isIn live).pending, isState⟩
  | finished => exact hits ⟨retry, isIn, isState, drops⟩
  | aborted => exact live isState

theorem apply (numbers : Numbers steps clock) (hits : ¬clock.Misses step) :
    Tracks (steps ++ [step]) (clock.apply step) := by
  intro retry isIn live
  rcases mem_apply isIn live with
    ⟨object, delay, rfl, rfl⟩ | ⟨old, member, sameId, sameObject, oldLive, stays, notTaken⟩
  · refine ⟨clock.queue.lookup_schedule_self object _, ?_⟩
    rw [dropped_concat, numbers.nextId_eq, List.getElem?_eq_none (Nat.le_refl _)]
    rintro (dropped | ⟨_, isNone, _⟩)
    · exact Nat.lt_irrefl _ dropped.isScheduled
    · cases isNone
  · have tracked := tracks old member oldLive
    have notDropped := tracks.not_drops hits member oldLive stays
    refine ⟨?_, ?_⟩
    · rw [← sameId, ← sameObject, ← tracked.pending]
      -- Taking a retry forgets what is pending for its object, so this must be one of another.
      refine lookup_apply notDropped fun isNext taken isReady same => ?_
      obtain ⟨isTaken, finished⟩ := RetryQueue.ready?_spec isReady
      have sameTaken := tracks.unique isTaken member (by simp [finished]) oldLive same
      exact notTaken isNext taken isReady sameTaken.symm
    · rw [← sameId, dropped_concat, numbers.own old member oldLive]
      rintro (dropped | ⟨object, isObject, drops⟩)
      · exact tracked.current dropped
      · exact notDropped (Option.some.inj isObject ▸ drops)

end Tracks

theorem run_tracks (hits : ∀ before step, before ++ [step] <+: steps → ¬(run before).Misses step) :
    Tracks steps (run steps) := by
  induction steps using List.reverseRecOn with
  | nil => exact fun retry isIn => absurd isIn List.not_mem_nil
  | append_singleton steps step ih =>
      rw [run_concat]
      refine (ih fun before earlier isBefore => ?_).apply (run_numbers steps)
        (hits steps step List.prefix_rfl)
      exact hits before earlier (isBefore.trans (List.prefix_append steps [step]))

/-- What the calls so far promise: a retry that was replaced or cancelled is not taken any more, and
at most one retry of each object can be. -/
structure Disciplined (steps : List RetryStep) : Prop where
  dropped : ∀ id, Dropped steps id → ¬(run steps).CanReturn id
  unique : ∀ object first second, (scheduled steps)[first]? = some object →
    (scheduled steps)[second]? = some object →
    (run steps).CanReturn first → (run steps).CanReturn second → first = second

theorem CanReturn.isKept {id : Nat} {object : String}
    (isScheduled : (scheduled steps)[id]? = some object) (canReturn : (run steps).CanReturn id) :
    ∃ retry ∈ (run steps).queue.retries, retry.state ≠ .aborted ∧ retry.id = id ∧
      retry.object = object := by
  have numbers := run_numbers steps
  obtain ⟨isIn, _⟩ := List.getElem?_eq_some_iff.mp isScheduled
  obtain ⟨retry, member, rfl, live⟩ := canReturn.keeps (numbers.nextId_eq ▸ isIn)
  have own := numbers.own retry member live
  rw [isScheduled, Option.some.injEq] at own
  exact ⟨retry, member, live, rfl, own.symm⟩

theorem Tracks.disciplined (tracks : Tracks steps (run steps)) : Disciplined steps where
  dropped := by
    intro id dropped canReturn
    have isScheduled := List.getElem?_eq_getElem dropped.isScheduled
    obtain ⟨retry, isIn, live, rfl, _⟩ := canReturn.isKept isScheduled
    exact (tracks retry isIn live).current dropped
  unique := by
    intro object first second isFirst isSecond canFirst canSecond
    obtain ⟨one, isOne, oneLive, rfl, oneObject⟩ := canFirst.isKept isFirst
    obtain ⟨other, isOther, otherLive, rfl, otherObject⟩ := canSecond.isKept isSecond
    exact tracks.unique isOne isOther oneLive otherLive (oneObject.trans otherObject.symm)

theorem Misses.dropped (misses : (run steps).Misses step) :
    ∃ id, Dropped (steps ++ [step]) id ∧ (run (steps ++ [step])).CanReturn id := by
  obtain ⟨retry, isIn, finished, drops⟩ := misses
  have live : retry.state ≠ .aborted := by simp [finished]
  have own := (run_numbers steps).own retry isIn live
  have keeps : ((run steps).apply step).Keeps retry.id := by
    refine keeps_apply isIn live (fun _ _ isPending => by simp [finished] at isPending) ?_
    rintro rfl
    exact drops.elim
  refine ⟨retry.id, dropped_concat.mpr (Or.inr ⟨retry.object, own, drops⟩), ?_⟩
  rw [run_concat]
  exact keeps.canReturn

/-- A retry that was not dropped can be taken until it was. What is promised of those that were
dropped holds throughout exactly if none is replaced or cancelled when it has finished and was not
taken yet. -/
theorem run_disciplined_iff (steps : List RetryStep) :
    (∀ id < (scheduled steps).length, ¬Dropped steps id →
        ((run steps).CanReturn id ↔ ¬Taken steps id)) ∧
      ((∀ before, before <+: steps → Disciplined before) ↔
        ∀ before step, before ++ [step] <+: steps → ¬(run before).Misses step) := by
  refine ⟨fun id => canReturn_iff_not_taken, ?_, ?_⟩
  · intro disciplined before step isPrefix misses
    obtain ⟨id, dropped, canReturn⟩ := misses.dropped
    exact (disciplined (before ++ [step]) isPrefix).dropped id dropped canReturn
  · intro hits before isPrefix
    have tracks : Tracks before (run before) := run_tracks fun earlier step isEarlier =>
      hits earlier step (isEarlier.trans isPrefix)
    exact tracks.disciplined

/-- The first retry finished before the second one replaced it; both are taken, one after the
other. -/
theorem replaced_retry_returns :
    let steps : List RetryStep :=
      [.schedule "shop/perf" 1000, .pass 1000, .expire 0, .schedule "shop/perf" 2000]
    scheduled steps = ["shop/perf", "shop/perf"] ∧ Dropped steps 0 ∧ (run steps).Returns 0 ∧
      (run (steps ++ [.next, .pass 2000, .expire 1])).Returns 1 := by
  refine ⟨rfl, ?_, ?_, ?_⟩
  · exact ⟨[.schedule "shop/perf" 1000], _, "shop/perf", rfl, rfl, .schedule "shop/perf" 2000,
      by simp, rfl⟩
  · exact ⟨⟨0, "shop/perf", 1000, .finished⟩, by decide, rfl, by decide⟩
  · exact ⟨⟨1, "shop/perf", 3000, .finished⟩, by decide, rfl, by decide⟩

end History

end RetryClock

end IngressMeter
