import IngressMeter.Cluster.RetryQueue
import IngressMeter.Proofs.Entries

/-!
What each change of the queue does to the retries that are still to come. Aborting acts on the
retries of one object only, since a number that is remembered for an object is that of a retry for
it.
-/

namespace IngressMeter

namespace Retry

def mark (id : Nat) (state : RetryState) (retry : Retry) : Retry :=
  if retry.id = id && retry.state = .waiting then { retry with state } else retry

variable (id : Nat) (state : RetryState) (retry : Retry)

@[simp] theorem mark_id : (retry.mark id state).id = retry.id := by
  rw [mark]
  split <;> rfl

@[simp] theorem mark_object : (retry.mark id state).object = retry.object := by
  rw [mark]
  split <;> rfl

theorem state_of_mark (notAborted : (retry.mark id state).state ≠ .aborted) :
    retry.state ≠ .aborted := by
  intro aborted
  exact notAborted (by simp [mark, aborted])

theorem mark_finished_state (notAborted : retry.state ≠ .aborted) :
    (retry.mark id .finished).state ≠ .aborted := by
  rw [mark]
  split
  · simp
  · exact notAborted

theorem mark_eq_self {id : Nat} {retry : Retry} (other : retry.id ≠ id) :
    retry.mark id state = retry := by
  simp [mark, other]

end Retry

namespace RetryQueue

def Plans (queue : RetryQueue) (object : String) : Prop :=
  ∃ retry ∈ queue.retries, retry.object = object ∧ retry.state ≠ .aborted

structure Sound (queue : RetryQueue) : Prop where
  distinct : (queue.retries.map (·.id)).Nodup
  fresh : ∀ retry ∈ queue.retries, retry.id < queue.nextId
  known : ∀ entry ∈ queue.pending, entry.2 < queue.nextId
  own : ∀ entry ∈ queue.pending, ∀ retry ∈ queue.retries, retry.id = entry.2 →
    retry.object = entry.1

theorem ready?_spec {queue : RetryQueue} {taken : Retry} (isReady : queue.ready? = some taken) :
    taken ∈ queue.retries ∧ taken.state = .finished :=
  ⟨List.mem_of_find?_eq_some isReady, by simpa using List.find?_some isReady⟩

theorem sound_empty : ({} : RetryQueue).Sound where
  distinct := List.nodup_nil
  fresh := by simp
  known := by simp
  own := by simp

section Mark

variable (queue : RetryQueue) (id : Nat)

def mark (state : RetryState) : RetryQueue :=
  { queue with retries := queue.retries.map (Retry.mark id state) }

theorem abort_eq : queue.abort id = queue.mark id .aborted := rfl

theorem expire_perm : (queue.expire id).retries.Perm (queue.mark id .finished).retries := by
  let ends : Retry → Bool := fun retry => retry.id = id && retry.state = .waiting
  have ending : (queue.retries.filter ends).map ({ · with state := .finished }) =
      (queue.retries.filter ends).map (Retry.mark id .finished) := by
    refine List.map_congr_left fun retry isIn => ?_
    have isEnding : ends retry = true := (List.mem_filter.mp isIn).2
    exact (if_pos isEnding).symm
  have others : queue.retries.filter (!ends ·) =
      (queue.retries.filter (!ends ·)).map (Retry.mark id .finished) := by
    refine ((List.map_congr_left fun retry isIn => ?_).trans (List.map_id _)).symm
    have isOther : ends retry = false := (Bool.not_eq_true' _).mp (List.mem_filter.mp isIn).2
    exact if_neg (Bool.not_eq_true _ |>.mpr isOther)
  have expired : (queue.expire id).retries = queue.retries.filter (!ends ·) ++
      (queue.retries.filter ends).map ({ · with state := .finished }) := by
    rw [expire, List.partition_eq_filter_filter]
    rfl
  rw [expired, others, ending, ← List.map_append]
  exact (List.perm_append_comm.trans (List.filter_append_perm ends queue.retries)).map _

theorem plans_mark (state : RetryState) (object : String) :
    (queue.mark id state).Plans object ↔
      ∃ retry ∈ queue.retries, retry.object = object ∧ (retry.mark id state).state ≠ .aborted := by
  simp [Plans, mark]

theorem plans_expire (object : String) : (queue.expire id).Plans object ↔ queue.Plans object := by
  have same : (queue.expire id).Plans object ↔ (queue.mark id .finished).Plans object := by
    simp only [Plans, (queue.expire_perm id).mem_iff]
  rw [same, plans_mark]
  constructor
  · rintro ⟨retry, member, same, live⟩
    exact ⟨retry, member, same, retry.state_of_mark id _ live⟩
  · rintro ⟨retry, member, same, live⟩
    exact ⟨retry, member, same, retry.mark_finished_state id live⟩

theorem plans_abort {object other : String} (different : other ≠ object)
    (own : ∀ retry ∈ queue.retries, retry.id = id → retry.object = object) :
    (queue.abort id).Plans other ↔ queue.Plans other := by
  rw [abort_eq, plans_mark]
  constructor
  · rintro ⟨retry, member, same, live⟩
    exact ⟨retry, member, same, retry.state_of_mark id _ live⟩
  · rintro ⟨retry, member, same, live⟩
    have notThis : retry.id ≠ id := by
      intro this
      exact different (same.symm.trans (own retry member this))
    exact ⟨retry, member, same, by rwa [Retry.mark_eq_self _ notThis]⟩

end Mark

namespace Sound

variable {queue : RetryQueue} (sound : queue.Sound)

include sound

theorem mark (id : Nat) (state : RetryState) : (queue.mark id state).Sound where
  distinct := by
    simpa [RetryQueue.mark, Function.comp_def] using sound.distinct
  fresh := by simpa [RetryQueue.mark] using sound.fresh
  known := sound.known
  own := by simpa [RetryQueue.mark] using sound.own

theorem expire (id : Nat) : (queue.expire id).Sound := by
  have marked := sound.mark id .finished
  have perm := queue.expire_perm id
  refine ⟨(perm.map (·.id)).nodup_iff.mpr marked.distinct, ?_, marked.known, ?_⟩
  · exact fun retry member => marked.fresh retry (perm.mem_iff.mp member)
  · exact fun entry isIn retry member => marked.own entry isIn retry (perm.mem_iff.mp member)

theorem forget (object : String) : (queue.forget object).Sound where
  distinct := sound.distinct
  fresh := sound.fresh
  known := fun entry member => sound.known entry (List.mem_of_mem_filter member)
  own := fun entry member => sound.own entry (List.mem_of_mem_filter member)

theorem cancel (object : String) : (queue.cancel object).Sound := by
  rw [RetryQueue.cancel]
  split
  · rename_i id _
    exact (sound.mark id .aborted).forget object
  · exact sound

theorem plans_cancel {object other : String} (different : other ≠ object) :
    (queue.cancel object).Plans other ↔ queue.Plans other := by
  rw [RetryQueue.cancel]
  split
  · rename_i id found
    exact queue.plans_abort id different (sound.own (object, id) (Entries.mem_of_lookup found))
  · rfl

theorem schedule (object : String) (due : Nat) : (queue.schedule object due).Sound := by
  have before := sound.cancel object
  have isNew : ∀ retry ∈ (queue.cancel object).retries, retry.id ≠ (queue.cancel object).nextId :=
    fun retry member => Nat.ne_of_lt (before.fresh retry member)
  refine ⟨?_, ?_, ?_, ?_⟩
  · simp only [RetryQueue.schedule, List.map_append, List.map_singleton]
    refine List.Nodup.append before.distinct (List.nodup_singleton _) ?_
    rw [List.disjoint_singleton, List.mem_map]
    rintro ⟨retry, member, same⟩
    exact isNew retry member same
  · intro retry member
    rcases List.mem_append.mp member with earlier | last
    · exact Nat.lt_succ_of_lt (before.fresh retry earlier)
    · rw [List.mem_singleton.mp last]
      exact Nat.lt_succ_self _
  · intro entry member
    rcases List.mem_cons.mp member with rfl | earlier
    · exact Nat.lt_succ_self _
    · exact Nat.lt_succ_of_lt (before.known entry earlier)
  · intro entry member retry isRetry same
    rcases List.mem_cons.mp member with rfl | earlier
    · rcases List.mem_append.mp isRetry with old | last
      · exact absurd same (isNew retry old)
      · rw [List.mem_singleton.mp last]
    · rcases List.mem_append.mp isRetry with old | last
      · exact before.own entry earlier retry old same
      · rw [List.mem_singleton.mp last] at same
        exact absurd same (Nat.ne_of_gt (before.known entry earlier))

theorem plans_schedule (object other : String) (due : Nat) :
    (queue.schedule object due).Plans other ↔ other = object ∨ queue.Plans other := by
  by_cases same : other = object
  · refine iff_of_true ?_ (Or.inl same)
    refine ⟨⟨(queue.cancel object).nextId, object, due, .waiting⟩, ?_, same.symm, by simp⟩
    simp [RetryQueue.schedule]
  · rw [or_iff_right same, ← sound.plans_cancel same]
    simp [Plans, RetryQueue.schedule, or_and_right, exists_or, Ne.symm same]

theorem fewer {retries : List Retry} (sublist : retries.Sublist queue.retries) :
    ({ queue with retries } : RetryQueue).Sound where
  distinct := sound.distinct.sublist (sublist.map _)
  fresh := fun retry member => sound.fresh retry (sublist.mem member)
  known := sound.known
  own := fun entry isIn retry member => sound.own entry isIn retry (sublist.mem member)

/-- Taking a retry, if there is one to take, leaves those of the other objects. -/
theorem next_cases :
    queue.next.1.Sound ∧
      ((queue.next.2 = none ∧ ∀ other, queue.next.1.Plans other ↔ queue.Plans other) ∨
        ∃ object, queue.next.2 = some object ∧ queue.Plans object ∧
          ∀ other, other ≠ object → (queue.next.1.Plans other ↔ queue.Plans other)) := by
  have kept : (queue.retries.filter (·.state ≠ .aborted)).Sublist queue.retries :=
    List.filter_sublist
  rw [RetryQueue.next]
  cases found : queue.ready? with
  | none =>
      refine ⟨sound.fewer kept, Or.inl ⟨rfl, fun other => exists_congr fun retry => ?_⟩⟩
      rw [List.mem_filter, decide_eq_true_eq]
      tauto
  | some taken =>
      obtain ⟨isIn, isDone⟩ := ready?_spec found
      have others : ∀ retry ∈ queue.retries, retry.object ≠ taken.object → retry.id ≠ taken.id := by
        intro retry member different same
        exact different (congrArg Retry.object
          (List.inj_on_of_nodup_map sound.distinct member isIn same))
      refine ⟨(sound.fewer (List.filter_sublist.trans kept)).forget taken.object,
        Or.inr ⟨taken.object, rfl, ⟨taken, isIn, rfl, by simp [isDone]⟩, ?_⟩⟩
      intro other different
      refine exists_congr fun retry => ?_
      simp only [RetryQueue.forget, List.mem_filter, decide_eq_true_eq]
      constructor
      · rintro ⟨⟨⟨member, _⟩, _⟩, same, live⟩
        exact ⟨member, same, live⟩
      · rintro ⟨member, same, live⟩
        exact ⟨⟨⟨member, live⟩, others retry member (same ▸ different)⟩, same, live⟩

end Sound

end RetryQueue

end IngressMeter
