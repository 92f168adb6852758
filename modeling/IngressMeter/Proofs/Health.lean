import IngressMeter.Routes
import Mathlib.Data.List.DropRight
import Mathlib.Data.List.Induction

/-!
What the health of the service says after any operations, at any time. An error stands until the
service is made ready, no longer; and whatever a component says of itself without an error counts as
much as being ready.
-/

namespace IngressMeter

inductive HealthStep where
  | ready
  | component (name status : String) (error : Option String)
  | processed (now : Nat)
  deriving DecidableEq

namespace HealthStep

def error? : HealthStep → Option String
  | component _ _ error => error
  | ready | processed _ => none

def processed? : HealthStep → Option Nat
  | processed now => some now
  | ready | component .. => none

def lastError? (steps : List HealthStep) : Option String := (steps.filterMap error?).getLast?

def lastProcessed (start : Nat) (steps : List HealthStep) : Nat :=
  (steps.filterMap processed?).getLast?.getD start

/-- Whether there was an error since the service was last made ready. -/
def ErrorStands (steps : List HealthStep) : Prop :=
  ∃ step ∈ steps.rtakeWhile (· ≠ ready), step.error?.isSome = true

/-- Whether nothing was told but that lines were processed. -/
def Silent (steps : List HealthStep) : Prop := ∀ step ∈ steps, step.processed?.isSome = true

theorem lastError?_concat (steps : List HealthStep) (step : HealthStep) :
    lastError? (steps ++ [step]) = step.error?.or (lastError? steps) := by
  rw [lastError?, List.filterMap_append, List.getLast?_append]
  cases step with
  | ready => rfl
  | component name status error => cases error <;> rfl
  | processed now => rfl

theorem lastError?_eq_none_iff {steps : List HealthStep} :
    lastError? steps = none ↔ ∀ step ∈ steps, step.error? = none := by
  rw [lastError?, List.getLast?_eq_none_iff, List.filterMap_eq_nil_iff]

theorem lastProcessed_concat (start : Nat) (steps : List HealthStep) (step : HealthStep) :
    lastProcessed start (steps ++ [step]) = step.processed?.getD (lastProcessed start steps) := by
  rw [lastProcessed, List.filterMap_append, List.getLast?_append]
  cases step with
  | ready => rfl
  | component name status error => rfl
  | processed now => rfl

theorem errorStands_ready (steps : List HealthStep) : ¬ErrorStands (steps ++ [ready]) := by
  rw [ErrorStands, List.rtakeWhile_concat_neg _ _ _ (by simp)]
  simp

theorem errorStands_concat (steps : List HealthStep) {step : HealthStep} (other : step ≠ ready) :
    ErrorStands (steps ++ [step]) ↔ ErrorStands steps ∨ step.error?.isSome = true := by
  rw [ErrorStands, List.rtakeWhile_concat_pos _ _ _ (by simpa using other)]
  simp only [List.mem_append, List.mem_singleton, or_and_right, exists_or, exists_eq_left]
  rfl

theorem not_errorStands_of_fine {steps : List HealthStep}
    (fine : ∀ step ∈ steps, step.error? = none) : ¬ErrorStands steps := by
  rintro ⟨step, isIn, failed⟩
  have isStep : step ∈ steps := (List.rtakeWhile_suffix _ _).subset isIn
  rw [fine step isStep] at failed
  contradiction

theorem ErrorStands.exists_lastError {steps : List HealthStep} (stands : ErrorStands steps) :
    ∃ text, lastError? steps = some text := by
  rw [← Option.ne_none_iff_exists', ne_eq, lastError?_eq_none_iff]
  exact fun fine => not_errorStands_of_fine fine stands

/-- An error stands as long as the service is made ready before it only. -/
theorem errorStands_of_lastError {steps : List HealthStep}
    (readyBefore : ∀ before after, steps = before ++ ready :: after →
      ∀ step ∈ before, step.error? = none) {text : String} (failed : lastError? steps = some text) :
    ErrorStands steps := by
  induction steps using List.reverseRecOn with
  | nil => contradiction
  | append_singleton steps step ih =>
      rw [lastError?_concat] at failed
      by_cases isReady : step = ready
      · rw [isReady] at readyBefore failed
        have fine := lastError?_eq_none_iff.mpr (readyBefore steps [] rfl)
        rw [fine] at failed
        contradiction
      · rw [errorStands_concat steps isReady]
        cases error : step.error? with
        | some text => exact Or.inr rfl
        | none =>
            rw [error, Option.none_or] at failed
            refine Or.inl (ih (fun before after split => ?_) failed)
            exact readyBefore before (after ++ [step]) (by simp [split])

theorem errorStands_iff_of_unready {steps : List HealthStep} (unready : ready ∉ steps) :
    ErrorStands steps ↔ ∃ step ∈ steps, step.error?.isSome = true := by
  have whole : steps.rtakeWhile (· ≠ ready) = steps := by
    rw [List.rtakeWhile_eq_self_iff]
    rintro step isIn
    exact decide_eq_true fun isReady => unready (isReady ▸ isIn)
  rw [ErrorStands, whole]

theorem silent_concat (steps : List HealthStep) (step : HealthStep) :
    Silent (steps ++ [step]) ↔ Silent steps ∧ step.processed?.isSome = true := by
  rw [Silent, List.forall_mem_append, List.forall_mem_singleton]
  rfl

theorem silent_or_errorStands {steps : List HealthStep} (unready : ready ∉ steps)
    (failedBefore : ∀ before name status later,
      steps = before ++ component name status none :: later →
        ∃ step ∈ before, step.error?.isSome = true) : Silent steps ∨ ErrorStands steps := by
  rw [errorStands_iff_of_unready unready]
  by_cases failed : ∃ step ∈ steps, step.error?.isSome = true
  · exact Or.inr failed
  · refine Or.inl fun step isIn => ?_
    cases step with
    | ready => exact absurd isIn unready
    | processed now => rfl
    | component name status error =>
        cases error with
        | some text => exact absurd ⟨_, isIn, rfl⟩ failed
        | none =>
            obtain ⟨before, later, split⟩ := List.append_of_mem isIn
            obtain ⟨step, isBefore, error⟩ := failedBefore before name status later split
            exact absurd ⟨step, split ▸ List.mem_append_left _ isBefore, error⟩ failed

end HealthStep

def Service.healthCode (service : Service) (now : Nat) : Nat :=
  (Routes.respond service now "GET" "/health").2.status

theorem Service.healthCode_eq (service : Service) (now : Nat) : service.healthCode now =
    if (service.health.report now).status = .healthy then 200 else 503 := by
  have isHealth : Routes.pathOf "/health" = "/health" := by decide
  simp only [healthCode, Routes.respond, isHealth, Routes.healthPage, Routes.forMethod,
    HealthReport.isHealthy]
  simp

namespace Health

open HealthStep

def begun (staleAfter start : Nat) : Health :=
  { started := start, lastProcessed := start, staleAfter }

def apply (health : Health) : HealthStep → Health
  | .ready => health.setReady
  | .component name status error => health.updateComponent name status error
  | .processed now => health.markProcessed now

def run (health : Health) (steps : List HealthStep) : Health := steps.foldl apply health

structure Tells (start staleAfter : Nat) (steps : List HealthStep) (health : Health) : Prop where
  error : health.error = lastError? steps
  standing : health.status = .error ↔ ErrorStands steps
  starting : health.status = .starting ↔ Silent steps
  undegraded : health.status ≠ .degraded
  lastProcessed : health.lastProcessed = HealthStep.lastProcessed start steps
  staleAfter : health.staleAfter = staleAfter

namespace Tells

variable {start staleAfter : Nat}

theorem begun : Tells start staleAfter [] (begun staleAfter start) where
  error := rfl
  standing := by simp [ErrorStands, Health.begun]
  starting := by simp [Silent, Health.begun]
  undegraded := HealthStatus.noConfusion
  lastProcessed := rfl
  staleAfter := rfl

variable {steps : List HealthStep} {health : Health} (tells : Tells start staleAfter steps health)

include tells

theorem setReady : Tells start staleAfter (steps ++ [.ready]) health.setReady where
  error := tells.error.trans (lastError?_concat steps .ready).symm
  standing := by simp [Health.setReady, errorStands_ready]
  starting := by simp [Health.setReady, silent_concat, processed?]
  undegraded := HealthStatus.noConfusion
  lastProcessed := tells.lastProcessed.trans (lastProcessed_concat start steps .ready).symm
  staleAfter := tells.staleAfter

theorem markProcessed (now : Nat) :
    Tells start staleAfter (steps ++ [.processed now]) (health.markProcessed now) where
  error := tells.error.trans (lastError?_concat steps (.processed now)).symm
  standing := by
    rw [errorStands_concat steps (by simp)]
    simpa [Health.markProcessed, HealthStep.error?] using tells.standing
  starting := by simpa [Health.markProcessed, silent_concat, processed?] using tells.starting
  undegraded := tells.undegraded
  lastProcessed := (lastProcessed_concat start steps (.processed now)).symm
  staleAfter := tells.staleAfter

theorem updateComponent (name status : String) (error : Option String) :
    Tells start staleAfter (steps ++ [.component name status error])
      (health.updateComponent name status error) := by
  have lastProcessed : health.lastProcessed =
      HealthStep.lastProcessed start (steps ++ [.component name status error]) :=
    tells.lastProcessed.trans (lastProcessed_concat start steps (.component name status error)).symm
  have other : HealthStep.component name status error ≠ .ready := HealthStep.noConfusion
  have standing := errorStands_concat steps other
  have starting : ¬Silent (steps ++ [.component name status error]) := by
    simp [silent_concat, processed?]
  cases error with
  | some text =>
      refine ⟨?_, ?_, ?_, HealthStatus.noConfusion, lastProcessed, tells.staleAfter⟩
      · rw [lastError?_concat]
        rfl
      · simp [Health.updateComponent, standing, HealthStep.error?]
      · simp [Health.updateComponent, starting]
  | none =>
      have lastError : health.error = lastError? (steps ++ [.component name status none]) := by
        rw [lastError?_concat]
        exact tells.error
      simp only [HealthStep.error?, Option.isSome_none, Bool.false_eq_true, or_false] at standing
      rw [Health.updateComponent]
      by_cases failed : health.status = .error
      · rw [if_pos failed]
        refine ⟨lastError, ?_, ?_, tells.undegraded, lastProcessed, tells.staleAfter⟩
        · rw [standing]
          exact tells.standing
        · simp [failed, starting]
      · rw [if_neg failed]
        refine ⟨lastError, ?_, ?_, HealthStatus.noConfusion, lastProcessed, tells.staleAfter⟩
        · rw [standing, ← tells.standing]
          simp [failed]
        · simp [starting]

theorem apply (step : HealthStep) :
    Tells start staleAfter (steps ++ [step]) (health.apply step) := by
  cases step with
  | ready => exact tells.setReady
  | component name status error => exact tells.updateComponent name status error
  | processed now => exact tells.markProcessed now

end Tells

theorem run_tells (start staleAfter : Nat) (steps : List HealthStep) :
    Tells start staleAfter steps ((begun staleAfter start).run steps) := by
  induction steps using List.reverseRecOn with
  | nil => exact Tells.begun
  | append_singleton steps step ih =>
      rw [run, List.foldl_concat]
      exact ih.apply step

section Report

variable {health : Health} (now : Nat)

theorem status_report_of_healthy (healthy : health.status = .healthy) : (health.report now).status =
    if health.staleAfter < now - health.lastProcessed then .degraded else .healthy := by
  by_cases stale : health.staleAfter < now - health.lastProcessed
  · rw [report, isStale, if_pos (decide_eq_true stale), if_pos healthy, if_pos stale]
  · rw [report, isStale, if_neg (by simpa using stale), if_neg stale]
    exact healthy

theorem report_of_unhealthy (unhealthy : health.status ≠ .healthy) :
    (health.report now).status = health.status ∧ (health.report now).error = health.error := by
  rw [report]
  cases health.isStale now with
  | true =>
      rw [if_pos rfl, if_neg unhealthy]
      exact ⟨rfl, rfl⟩
  | false => exact ⟨rfl, rfl⟩

theorem status_report_eq_error_iff :
    (health.report now).status = .error ↔ health.status = .error := by
  by_cases healthy : health.status = .healthy
  · rw [status_report_of_healthy now healthy, healthy]
    split <;> simp
  · rw [(report_of_unhealthy now healthy).1]

end Report

def Fails (health : Health) (text : String) : Prop :=
  ∀ now (service : Service), service.health = health →
    (health.report now).status = .error ∧ (health.report now).error = some text ∧
      service.healthCode now = 503

def IsUnavailable (health : Health) : Prop :=
  ∀ now (service : Service), service.health = health →
    (health.report now).status ≠ .healthy ∧ service.healthCode now = 503

theorem fails_of_error {health : Health} {text : String} (failed : health.status = .error)
    (error : health.error = some text) : health.Fails text := by
  rintro now service rfl
  have unhealthy : service.health.status ≠ .healthy := by simp [failed]
  obtain ⟨status, message⟩ := report_of_unhealthy now unhealthy
  rw [failed] at status
  refine ⟨status, message.trans error, ?_⟩
  rw [Service.healthCode_eq, status]
  rfl

theorem isUnavailable_iff {health : Health} : health.IsUnavailable ↔ health.status ≠ .healthy := by
  constructor
  · intro unavailable healthy
    have status := status_report_of_healthy health.lastProcessed healthy
    rw [Nat.sub_self, if_neg (Nat.not_lt_zero _)] at status
    exact (unavailable health.lastProcessed { health } rfl).1 status
  · rintro unhealthy now service rfl
    have other : (service.health.report now).status ≠ .healthy := by
      rwa [(report_of_unhealthy now unhealthy).1]
    exact ⟨other, by rw [Service.healthCode_eq, if_neg other]⟩

theorem Tells.status_eq_healthy {start staleAfter : Nat} {steps : List HealthStep} {health : Health}
    (tells : Tells start staleAfter steps health) (fine : ¬ErrorStands steps)
    (spoken : ¬Silent steps) : health.status = .healthy := by
  rw [← tells.standing] at fine
  rw [← tells.starting] at spoken
  cases status : health.status with
  | healthy => rfl
  | starting => exact absurd status spoken
  | degraded => exact absurd status tells.undegraded
  | error => exact absurd status fine

/-- The service says that it failed, with the text of the last error, exactly as long as there was
an error since it was last made ready. So errors stand for good exactly in the runs in which no
error comes before the service is made ready. -/
theorem run_errors_stand_iff (start staleAfter : Nat) (steps : List HealthStep) :
    let after := fun steps => (begun staleAfter start).run steps
    (∀ now, ((after steps).report now).status = .error ↔ ErrorStands steps) ∧
    (ErrorStands steps ↔ ∃ text, lastError? steps = some text ∧ (after steps).Fails text) ∧
    ((∀ before text, before <+: steps → lastError? before = some text →
        (after before).Fails text) ↔
      ∀ before later, steps = before ++ .ready :: later → ∀ step ∈ before, step.error? = none) := by
  intro after
  have tells (steps : List HealthStep) : Tells start staleAfter steps (after steps) :=
    run_tells start staleAfter steps
  have says_error_iff (steps : List HealthStep) (now : Nat) :
      ((after steps).report now).status = .error ↔ ErrorStands steps :=
    (status_report_eq_error_iff now).trans (tells steps).standing
  have fails {steps : List HealthStep} (stands : ErrorStands steps) :
      ∃ text, lastError? steps = some text ∧ (after steps).Fails text := by
    obtain ⟨text, last⟩ := stands.exists_lastError
    exact ⟨text, last,
      fails_of_error ((tells steps).standing.mpr stands) ((tells steps).error.trans last)⟩
  refine ⟨says_error_iff steps, ⟨fails, ?_⟩, ?_, ?_⟩
  · rintro ⟨_, _, stuck⟩
    exact (says_error_iff steps 0).mp (stuck 0 { health := after steps } rfl).1
  · intro stick before later split
    rw [← lastError?_eq_none_iff]
    by_contra failed
    obtain ⟨text, last⟩ := Option.ne_none_iff_exists'.mp failed
    have madeReady : before ++ [.ready] <+: steps := ⟨later, by simp [split]⟩
    have lastToo := (lastError?_concat before .ready).trans last
    obtain ⟨saysError, _⟩ :=
      stick _ text madeReady lastToo 0 { health := after (before ++ [.ready]) } rfl
    exact errorStands_ready before ((says_error_iff _ 0).mp saysError)
  · rintro fine before text ⟨rest, split⟩ last
    have stands : ErrorStands before := by
      refine errorStands_of_lastError (fun earlier later splitToo => ?_) last
      exact fine earlier (later ++ rest) (by simp [← split, splitToo])
    obtain ⟨text', last', stuck⟩ := fails stands
    rw [last, Option.some.injEq] at last'
    rwa [last']

/-- Being made ready wipes out the error that came before. -/
theorem readied_error_forgotten :
    let steps := [.component "log_source" "failed" (some "connection refused"), .ready]
    let health := (begun 300 0).run steps
    lastError? steps = some "connection refused" ∧ (health.report 0).status = .healthy ∧
      ({ health } : Service).healthCode 0 = 200 := by
  decide +kernel

/-- Without being made ready, the service is unavailable all the time exactly if no component tells
of itself without an error while there was none. Once it is made ready and there was no error, it is
healthy as long as lines are processed, and degraded otherwise. -/
theorem run_unavailable_iff (start staleAfter : Nat) (steps : List HealthStep) :
    let after := fun steps => (begun staleAfter start).run steps
    (.ready ∉ steps →
      ((∀ before, before <+: steps → (after before).IsUnavailable) ↔
        ∀ before name status later, steps = before ++ .component name status none :: later →
          ∃ step ∈ before, step.error?.isSome = true)) ∧
    (.ready ∈ steps → (∀ step ∈ steps, step.error? = none) → ∀ now,
      ((after steps).report now).status =
        if staleAfter < now - HealthStep.lastProcessed start steps then .degraded
        else .healthy) := by
  intro after
  have tells (steps : List HealthStep) : Tells start staleAfter steps (after steps) :=
    run_tells start staleAfter steps
  refine ⟨fun unready => ⟨?_, ?_⟩, fun isReady fine now => ?_⟩
  · intro unavailable before name status later split
    have isPrefix : before ++ [.component name status none] <+: steps := ⟨later, by simp [split]⟩
    have unhealthy := isUnavailable_iff.mp (unavailable _ isPrefix)
    by_contra noError
    simp only [not_exists, not_and, Option.not_isSome_iff_eq_none] at noError
    have spoken : ¬Silent (before ++ [.component name status none]) := by
      simp [silent_concat, processed?]
    refine unhealthy ((tells _).status_eq_healthy (not_errorStands_of_fine ?_) spoken)
    rw [List.forall_mem_append, List.forall_mem_singleton]
    exact ⟨noError, rfl⟩
  · rintro failedBefore before ⟨rest, split⟩
    have unreadyToo : .ready ∉ before := fun isIn => unready (split ▸ List.mem_append_left _ isIn)
    rw [isUnavailable_iff]
    have either : Silent before ∨ ErrorStands before := by
      refine silent_or_errorStands unreadyToo fun earlier name status later splitToo => ?_
      exact failedBefore earlier name status (later ++ rest) (by simp [← split, splitToo])
    rcases either with silent | stands
    · simp [(tells before).starting.mpr silent]
    · simp [(tells before).standing.mpr stands]
  · have spoken : ¬Silent steps := fun silent => absurd (silent _ isReady) (by decide)
    have healthy := (tells steps).status_eq_healthy (not_errorStands_of_fine fine) spoken
    rw [status_report_of_healthy now healthy, (tells steps).staleAfter, (tells steps).lastProcessed]

theorem run_unavailable_iff_failedFirst :
    let failing := [.component "log_source" "failed" (some "timeout"), .processed 5,
      .component "reconciler" "running" none]
    let stale := [.component "reconciler" "starting" none, .processed 20, .ready]
    (∀ before, before <+: failing → ((begun 300 0).run before).IsUnavailable) ∧
      (((begun 300 0).run stale).report 320).status = .healthy ∧
      (((begun 300 0).run stale).report 321).status = .degraded := by
  intro failing stale
  obtain ⟨unavailable_iff, _⟩ := run_unavailable_iff 0 300 failing
  obtain ⟨_, status⟩ := run_unavailable_iff 0 300 stale
  refine ⟨(unavailable_iff (by decide)).mpr ?_, ?_, ?_⟩
  · intro before name status later split
    cases before with
    | nil => simp [failing] at split
    | cons first before =>
        obtain rfl := (List.cons.inj split).1
        exact ⟨_, List.mem_cons_self, rfl⟩
  · exact (status (by decide) (by decide) 320).trans (by decide)
  · exact (status (by decide) (by decide) 321).trans (by decide)

/-- A component that says it is starting makes the service healthy. -/
theorem unready_component_healthy :
    let steps := [.component "reconciler" "starting" none]
    let health := (begun 300 0).run steps
    HealthStep.ready ∉ steps ∧ (health.report 0).status = .healthy ∧
      ({ health } : Service).healthCode 0 = 200 := by
  decide +kernel

end Health

end IngressMeter
