import IngressMeter.Proofs.Cluster.RetryQueue
import IngressMeter.Proofs.Controller.Steps

/-!
Which lookups are tried again. An object whose lookup failed is remembered with its backoff, and a
retry for it is planned. A retry is taken from the queue before its object is read anew, so when
that fails the object is still remembered and nothing is planned for it any more.
-/

namespace IngressMeter

namespace Backoff

theorem next_standard {backoff : Backoff} (standard : backoff.policy = .standard) :
    (backoff.attempt < 10 ∧
        ∃ delay, backoff.next = ({ backoff with attempt := backoff.attempt + 1 }, .delay delay)) ∨
      10 ≤ backoff.attempt ∧ backoff.next = (backoff, .exhausted) := by
  have inRange : ∀ attempt < 10, (ofSeconds? (power BackoffPolicy.standard.factor attempt *
      toSeconds BackoffPolicy.standard.base)).isSome = true := by decide +kernel
  obtain ⟨policy, attempt⟩ := backoff
  obtain rfl : policy = .standard := standard
  rcases Nat.lt_or_ge attempt 10 with left | used
  · obtain ⟨product, found⟩ := Option.isSome_iff_exists.mp (inRange attempt left)
    refine Or.inl ⟨left, min product BackoffPolicy.standard.cap, ?_⟩
    have notUsed : ¬BackoffPolicy.standard.maxTries ≤ attempt := Nat.not_le.mpr left
    simp only [next, notUsed, if_false, found]
  · exact Or.inr ⟨used, if_pos used⟩

end Backoff

structure RetryBook where
  backoffs : List (String × Backoff) := []
  retries : RetryQueue := {}

inductive RetryChange where
  | keep
  | plan (object : String) (now : Nat)
  | finish (object : String)
  | forget (object : String)

namespace RetryBook

def Awaits (book : RetryBook) (object : String) : Prop := object ∈ book.backoffs.map (·.1)

def HasTriesLeft (book : RetryBook) (object : String) : Prop :=
  ((book.backoffs.lookup object).getD {}).attempt < 10

def forget (book : RetryBook) (object : String) : RetryBook :=
  { book with backoffs := book.backoffs.filter (·.1 ≠ object) }

def finish (book : RetryBook) (object : String) : RetryBook :=
  { book.forget object with retries := book.retries.cancel object }

def plan (book : RetryBook) (object : String) (now : Nat) : RetryBook :=
  match ((book.backoffs.lookup object).getD {}).next with
  | (backoff, .delay nanoseconds) =>
    { backoffs := (object, backoff) :: (book.forget object).backoffs
      retries := book.retries.schedule object (now + nanoseconds / 1000000) }
  | _ => book.forget object

structure Sound (book : RetryBook) : Prop where
  retries : book.retries.Sound
  standard : ∀ entry ∈ book.backoffs, entry.2.policy = .standard

theorem sound_empty : ({} : RetryBook).Sound := ⟨RetryQueue.sound_empty, by simp⟩

end RetryBook

namespace RetryChange

def applyTo (book : RetryBook) : RetryChange → RetryBook
  | keep => book
  | plan object now => book.plan object now
  | finish object => book.finish object
  | forget object => book.forget object

def about? : RetryChange → Option String
  | keep => none
  | plan object _ => some object
  | finish object => some object
  | forget object => some object

def IsPlan (object : String) : RetryChange → Prop
  | plan planned _ => planned = object
  | _ => False

end RetryChange

namespace RetryBook

variable {book : RetryBook}

theorem awaits_forget {object other : String} :
    (book.forget object).Awaits other ↔ other ≠ object ∧ book.Awaits other := by
  simp only [Awaits, forget, List.mem_map, List.mem_filter, decide_eq_true_eq]
  constructor
  · rintro ⟨entry, ⟨member, different⟩, rfl⟩
    exact ⟨different, entry, member, rfl⟩
  · rintro ⟨different, entry, member, rfl⟩
    exact ⟨entry, ⟨member, different⟩, rfl⟩

namespace Sound

variable (sound : book.Sound)

include sound

theorem forget (object : String) : (book.forget object).Sound :=
  ⟨sound.retries, fun entry member => sound.standard entry (List.mem_of_mem_filter member)⟩

/-- A failed lookup is planned again as long as there are tries left, and given up then. -/
theorem plan_cases (object : String) (now : Nat) :
    (book.HasTriesLeft object ∧ ∃ (backoff : Backoff) (due : Nat), backoff.policy = .standard ∧
        book.plan object now = { backoffs := (object, backoff) :: (book.forget object).backoffs
                                 retries := book.retries.schedule object due }) ∨
      ¬book.HasTriesLeft object ∧ book.plan object now = book.forget object := by
  generalize known : (book.backoffs.lookup object).getD {} = backoff
  have standard : backoff.policy = .standard := by
    rw [← known]
    cases found : book.backoffs.lookup object with
    | none => rfl
    | some backoff => exact sound.standard _ (Entries.mem_of_lookup found)
  rw [plan, HasTriesLeft, known]
  rcases Backoff.next_standard standard with ⟨left, delay, next⟩ | ⟨used, next⟩
  · rw [next]
    exact Or.inl ⟨left, { backoff with attempt := backoff.attempt + 1 }, now + delay / 1000000,
      standard, rfl⟩
  · rw [next]
    exact Or.inr ⟨Nat.not_lt.mpr used, rfl⟩

theorem applyTo (change : RetryChange) : (change.applyTo book).Sound := by
  cases change with
  | keep => exact sound
  | plan object now =>
      rcases sound.plan_cases object now with ⟨_, backoff, due, standard, planned⟩ | ⟨_, givenUp⟩
      · rw [RetryChange.applyTo, planned]
        refine ⟨sound.retries.schedule object due, ?_⟩
        rintro entry (_ | ⟨_, member⟩)
        · exact standard
        · exact (sound.forget object).standard entry member
      · rw [RetryChange.applyTo, givenUp]
        exact sound.forget object
  | finish object => exact ⟨sound.retries.cancel object, (sound.forget object).standard⟩
  | forget object => exact sound.forget object

theorem applyTo_other {change : RetryChange} {other : String} (about : change.about? ≠ some other) :
    ((change.applyTo book).Awaits other ↔ book.Awaits other) ∧
      ((change.applyTo book).retries.Plans other ↔ book.retries.Plans other) := by
  have elsewhere : ∀ object, change.about? = some object → other ≠ object := by
    rintro object here rfl
    exact about here
  cases change with
  | keep => exact ⟨Iff.rfl, Iff.rfl⟩
  | plan object now =>
      have different := elsewhere object rfl
      rcases sound.plan_cases object now with ⟨_, backoff, due, _, planned⟩ | ⟨_, givenUp⟩
      · rw [RetryChange.applyTo, planned, sound.retries.plans_schedule, or_iff_right different]
        refine ⟨?_, Iff.rfl⟩
        rw [Awaits, List.map_cons, List.mem_cons, or_iff_right different]
        exact awaits_forget.trans (and_iff_right different)
      · rw [RetryChange.applyTo, givenUp, awaits_forget, and_iff_right different]
        exact ⟨Iff.rfl, Iff.rfl⟩
  | finish object =>
      have different := elsewhere object rfl
      exact ⟨awaits_forget.trans (and_iff_right different), sound.retries.plans_cancel different⟩
  | forget object =>
      exact ⟨awaits_forget.trans (and_iff_right (elsewhere object rfl)), Iff.rfl⟩

theorem applyTo_here {change : RetryChange} {object : String} (about : change.about? = some object) :
    ((change.applyTo book).Awaits object ↔ change.IsPlan object ∧ book.HasTriesLeft object) ∧
      ((change.applyTo book).Awaits object → (change.applyTo book).retries.Plans object) := by
  have forgotten : ¬(book.forget object).Awaits object := fun awaits => (awaits_forget.mp awaits).1 rfl
  cases change with
  | keep => simp [RetryChange.about?] at about
  | plan planned now =>
      obtain rfl : planned = object := Option.some.inj about
      rcases sound.plan_cases planned now with ⟨left, backoff, due, _, isPlanned⟩ | ⟨used, givenUp⟩
      · rw [RetryChange.applyTo, isPlanned, sound.retries.plans_schedule]
        exact ⟨iff_of_true (by simp [Awaits]) ⟨rfl, left⟩, fun _ => Or.inl rfl⟩
      · rw [RetryChange.applyTo, givenUp]
        exact ⟨iff_of_false forgotten fun planned => used planned.2, fun awaits => absurd awaits forgotten⟩
  | finish finished =>
      obtain rfl : finished = object := Option.some.inj about
      exact ⟨iff_of_false forgotten fun planned => planned.1, fun awaits => absurd awaits forgotten⟩
  | forget gone =>
      obtain rfl : gone = object := Option.some.inj about
      exact ⟨iff_of_false forgotten fun planned => planned.1, fun awaits => absurd awaits forgotten⟩

end Sound

end RetryBook

namespace Controller

variable (controller : Controller) (answers : ApiAnswers) (now : Nat)

def book : RetryBook := ⟨controller.backoffs, controller.retries⟩

/-- Whether a retry is still to come for every object that is remembered for one. -/
def KeepsRetries : Prop :=
  ∀ object, controller.book.Awaits object → controller.retries.Plans object

theorem book_planRetry (object : String) :
    (controller.planRetry object now).book = controller.book.plan object now := by
  simp only [planRetry, RetryBook.plan, book]
  generalize ((controller.backoffs.lookup object).getD {}).next = tried
  obtain ⟨backoff, delay⟩ := tried
  cases delay <;> rfl

def attemptChange (object : UrlPerformance) : RetryChange :=
  if object.hasIdentity then
    match (lookUp answers object).2 with
    | .failed _ => .plan object.objectRef now
    | _ => .finish object.objectRef
  else .keep

theorem book_settle (object : UrlPerformance)
    (result : Except ReconcileError PerformanceStatus) :
    (controller.settle object result now).book =
      match result with
      | .ok _ => controller.book.finish object.objectRef
      | .error .missingMetadata => controller.book
      | .error (.targetLookup _ _ _ _) => controller.book.plan object.objectRef now := by
  cases result with
  | ok status => rfl
  | error error =>
      cases error with
      | missingMetadata => rfl
      | targetLookup kind namespaceName name failure => exact controller.book_planRetry now _

theorem book_apply (object : UrlPerformance) :
    (controller.apply answers object now).1.book =
      (attemptChange answers now object).applyTo controller.book := by
  have settled : (controller.apply answers object now).1.book =
      match (reconciler.reconcile controller.service object (lookUp answers object).2
        (momentOf now)).2 with
      | .ok _ => controller.book.finish object.objectRef
      | .error .missingMetadata => controller.book
      | .error (.targetLookup _ _ _ _) => controller.book.plan object.objectRef now := by
    simp only [apply]
    split <;> exact book_settle _ now object _
  rw [settled, attemptChange]
  cases identity : object.hasIdentity with
  | false => simp [Reconciler.reconcile, identity, RetryChange.applyTo]
  | true =>
      cases enabled : object.spec.enabled with
      | false =>
          have noLookup : (lookUp answers object).2 = .missing := by
            simp [lookUp, Reconciler.needsLookup, enabled]
          simp [Reconciler.reconcile, identity, enabled, noLookup, RetryChange.applyTo]
      | true =>
          cases (lookUp answers object).2 <;>
            simp [Reconciler.reconcile, identity, enabled, RetryChange.applyTo]

def hearChange : WatchEvent → RetryChange
  | .listed object | .changed object => attemptChange answers now object
  | .deleted object => .finish object.objectRef
  | .listBegins | .listEnds | .failed => .keep

theorem book_onEvent (event : WatchEvent) :
    (controller.onEvent answers event now).1.book =
      (hearChange answers now event).applyTo controller.book := by
  cases event with
  | listed object => exact book_apply _ answers now object
  | changed object => exact book_apply _ answers now object
  | deleted object => rfl
  | listBegins => rfl
  | listEnds => rfl
  | failed => rfl

def fetched (object : String) : Except Failure (Option UrlPerformance) :=
  let (namespaceName, name) := splitReference object
  (send answers (Client.fetchObject namespaceName name)).2

def FetchFails (object : String) : Prop :=
  match fetched answers object with
  | .ok (some found) => ¬(found.hasIdentity = true ∧ found.objectRef = object)
  | .ok none => False
  | .error _ => True

def retryChange (object : String) : RetryChange :=
  match fetched answers object with
  | .ok (some found) => attemptChange answers now found
  | .ok none => .forget object
  | .error _ => .keep

theorem book_onRetry (object : String) :
    (controller.onRetry answers object now).1.book =
      (retryChange answers now object).applyTo controller.book := by
  simp only [onRetry, retryChange, fetched]
  generalize (send answers (Client.fetchObject (splitReference object).1
    (splitReference object).2)).2 = result
  rcases result with failure | _ | found
  · rfl
  · rfl
  · exact controller.book_apply answers now found

theorem about?_attemptChange (object : UrlPerformance) :
    (attemptChange answers now object).about? =
      if object.hasIdentity then some object.objectRef else none := by
  rw [attemptChange]
  split
  · split <;> rfl
  · rfl

theorem about?_retryChange (object : String) :
    (retryChange answers now object).about? = some object ↔ ¬FetchFails answers object := by
  rw [retryChange, FetchFails]
  split
  · rename_i found _
    rw [about?_attemptChange, not_not]
    cases found.hasIdentity <;> simp
  · simp [RetryChange.about?]
  · simp [RetryChange.about?]

end Controller

namespace ControllerStep

def change (controller : Controller) : ControllerStep → RetryChange
  | .hear answers event now => Controller.hearChange answers now event
  | .expire _ => .keep
  | .retry answers now =>
    match controller.retries.next.2 with
    | some object => Controller.retryChange answers now object
    | none => .keep

def queueBefore (controller : Controller) : ControllerStep → RetryQueue
  | .hear _ _ _ => controller.retries
  | .expire id => controller.retries.expire id
  | .retry _ _ => controller.retries.next.1

variable (controller : Controller) (step : ControllerStep)

def bookBefore : RetryBook := { controller.book with retries := step.queueBefore controller }

theorem book_apply :
    (step.apply controller).book = (step.change controller).applyTo (step.bookBefore controller) := by
  cases step with
  | hear answers event now => exact controller.book_onEvent answers now event
  | expire id => rfl
  | retry answers now =>
      simp only [apply, Controller.takeRetry, change]
      cases controller.retries.next.2 with
      | none => rfl
      | some object => exact Controller.book_onRetry _ answers now object

/-- Whether a step takes the last retry of an object and fails to read the object. -/
def LosesRetry (object : String) : Prop :=
  ∃ answers now, step = .retry answers now ∧ controller.retries.next.2 = some object ∧
    Controller.FetchFails answers object ∧ ¬controller.retries.next.1.Plans object

variable {controller}

theorem about?_of_losesRetry {object : String} (loses : step.LosesRetry controller object) :
    (step.change controller).about? ≠ some object := by
  obtain ⟨answers, now, rfl, taken, fails, _⟩ := loses
  rw [change, taken]
  exact fun about => (Controller.about?_retryChange answers now object).mp about fails

theorem plans_queueBefore (sound : controller.retries.Sound) {object : String}
    (about : (step.change controller).about? ≠ some object) :
    (step.queueBefore controller).Plans object ↔
      controller.retries.Plans object ∧ ¬step.LosesRetry controller object := by
  cases step with
  | hear answers event now => simp [queueBefore, LosesRetry]
  | expire id => simp [queueBefore, LosesRetry, RetryQueue.plans_expire]
  | retry answers now =>
      obtain ⟨_, ⟨none, same⟩ | ⟨taken, isTaken, planned, others⟩⟩ := sound.next_cases
      · simp [queueBefore, LosesRetry, none, same]
      · by_cases here : object = taken
        · subst here
          rw [change, isTaken] at about
          have fails : Controller.FetchFails answers object := by
            by_contra answered
            exact about ((Controller.about?_retryChange answers now object).mpr answered)
          simp [queueBefore, LosesRetry, isTaken, planned, fails]
        · simp [queueBefore, LosesRetry, isTaken, others object here, Ne.symm here]

theorem bookBefore_sound (sound : controller.book.Sound) : (step.bookBefore controller).Sound := by
  refine ⟨?_, sound.standard⟩
  cases step with
  | hear answers event now => exact sound.retries
  | expire id => exact sound.retries.expire id
  | retry answers now => exact sound.retries.next_cases.1

/-- An object awaits another attempt behind a step if the step failed to look up its target and
tries are left, or if it awaited one before and the step was not about it. -/
theorem awaits_apply_iff (sound : controller.book.Sound) (object : String) :
    (step.apply controller).book.Awaits object ↔
      (step.change controller).IsPlan object ∧ controller.book.HasTriesLeft object ∨
        (step.change controller).about? ≠ some object ∧ controller.book.Awaits object := by
  have before := step.bookBefore_sound sound
  rw [book_apply]
  by_cases about : (step.change controller).about? = some object
  · simp only [about, ne_eq, not_true_eq_false, false_and, or_false]
    exact (before.applyTo_here about).1
  · have notPlanned : ¬(step.change controller).IsPlan object := by
      intro planned
      cases isChange : step.change controller with
      | plan other now =>
          rw [isChange] at planned about
          exact about (congrArg some planned)
      | keep | finish other | forget other =>
          rw [isChange] at planned
          exact planned
    simp only [about, notPlanned, false_and, false_or, ne_eq, not_false_eq_true, true_and]
    exact (before.applyTo_other about).1

theorem keepsRetries_apply_iff (sound : controller.book.Sound) (keeps : controller.KeepsRetries) :
    (step.apply controller).KeepsRetries ↔
      ∀ object, controller.book.Awaits object → ¬step.LosesRetry controller object := by
  have before := step.bookBefore_sound sound
  have here : ∀ object, (step.change controller).about? = some object →
      (step.apply controller).book.Awaits object → (step.apply controller).book.retries.Plans object := by
    rw [book_apply]
    exact fun object about => (before.applyTo_here about).2
  have other : ∀ object, (step.change controller).about? ≠ some object →
      ((step.apply controller).book.Awaits object ↔ controller.book.Awaits object) ∧
        ((step.apply controller).book.retries.Plans object ↔
          controller.retries.Plans object ∧ ¬step.LosesRetry controller object) := by
    rw [book_apply]
    intro object about
    rw [← step.plans_queueBefore sound.retries about]
    exact before.applyTo_other about
  constructor
  · intro after object awaits loses
    obtain ⟨sameAwaits, samePlans⟩ := other object (step.about?_of_losesRetry loses)
    exact (samePlans.mp (after object (sameAwaits.mpr awaits))).2 loses
  · intro harmless object awaits
    by_cases about : (step.change controller).about? = some object
    · exact here object about awaits
    · obtain ⟨sameAwaits, samePlans⟩ := other object about
      have awaited := sameAwaits.mp awaits
      exact samePlans.mpr ⟨keeps object awaited, harmless object awaited⟩

variable (isLeader : Bool)

theorem run_book_sound (steps : List ControllerStep) : (run isLeader steps).book.Sound := by
  induction steps using List.reverseRecOn with
  | nil => exact RetryBook.sound_empty
  | append_singleton steps step ih =>
      rw [run_concat, book_apply]
      exact (step.bookBefore_sound ih).applyTo _

/-- Through a run, every object that is remembered for another attempt has a retry to come exactly
as long as no step takes the last retry of such an object and fails to read it. An object comes to
be remembered when the lookup of its target fails, until its tries are used up, it is attempted with
another result, or it is gone. -/
theorem run_keepsRetries_iff (steps : List ControllerStep) :
    ((∀ earlier, earlier <+: steps → (run isLeader earlier).KeepsRetries) ↔
      ∀ earlier step, earlier ++ [step] <+: steps → ∀ object,
        (run isLeader earlier).book.Awaits object →
          ¬step.LosesRetry (run isLeader earlier) object) ∧
      ∀ step object,
        let before := run isLeader steps
        let after := run isLeader (steps ++ [step])
        after.book.Awaits object ↔
          (step.change before).IsPlan object ∧ before.book.HasTriesLeft object ∨
            (step.change before).about? ≠ some object ∧ before.book.Awaits object := by
  refine ⟨⟨?_, ?_⟩, ?_⟩
  · intro keeps earlier step started
    have after := keeps _ started
    rw [run_concat] at after
    exact (step.keepsRetries_apply_iff (run_book_sound isLeader earlier)
      (keeps earlier ((List.prefix_append _ _).trans started))).mp after
  · intro harmless earlier started
    induction earlier using List.reverseRecOn with
    | nil =>
        intro object awaits
        exact absurd awaits List.not_mem_nil
    | append_singleton earlier step ih =>
        rw [run_concat]
        exact (step.keepsRetries_apply_iff (run_book_sound isLeader earlier)
          (ih ((List.prefix_append _ _).trans started))).mpr (harmless earlier step started)
  · intro step object before after
    simp only [after, run_concat]
    exact step.awaits_apply_iff (run_book_sound isLeader steps) object

def allFail : ApiAnswers := fun _ => .answer 500 "\x7b\x7d"

/-- When an object cannot be read at the time of its retry, the retry is lost. -/
theorem unread_object_is_not_retried :
    let controller := run true
      [.hear allFail (.changed (.perf "web" true)) 0, .expire 0, .retry allFail 1000]
    controller.book.Awaits "shop/perf" ∧ ¬controller.retries.Plans "shop/perf" := by
  have remembered : ((run true [.hear allFail (.changed (.perf "web" true)) 0, .expire 0,
      .retry allFail 1000]).backoffs.map (·.1)) = ["shop/perf"] := by decide +kernel
  have empty : (run true [.hear allFail (.changed (.perf "web" true)) 0, .expire 0,
      .retry allFail 1000]).retries.retries = [] := by decide +kernel
  refine ⟨?_, ?_⟩
  · simp [RetryBook.Awaits, Controller.book, remembered]
  · simp [RetryQueue.Plans, empty]

end ControllerStep

end IngressMeter
