import IngressMeter.Controller
import IngressMeter.Proofs.Reconcile.Steps

/-!
The controller as a machine that hears of events and takes retries. Whatever it does to the store is
the work of one event of its reconciler.
-/

namespace IngressMeter

inductive ControllerStep where
  | hear (answers : ApiAnswers) (event : WatchEvent) (now : Nat)
  | expire (id : Nat)
  | retry (answers : ApiAnswers) (now : Nat)

namespace ControllerStep

def apply (controller : Controller) : ControllerStep → Controller
  | .hear answers event now => (controller.onEvent answers event now).1
  | .expire id => { controller with retries := controller.retries.expire id }
  | .retry answers now => (controller.takeRetry answers now).1

def run (isLeader : Bool) (steps : List ControllerStep) : Controller :=
  steps.foldl apply ({ isLeader } : Controller).start

theorem run_concat (isLeader : Bool) (steps : List ControllerStep) (step : ControllerStep) :
    run isLeader (steps ++ [step]) = step.apply (run isLeader steps) :=
  List.foldl_concat _ _ _ _

end ControllerStep

namespace Controller

variable (controller : Controller) (answers : ApiAnswers) (object : UrlPerformance) (now : Nat)

theorem planRetry_service (object : String) :
    (controller.planRetry object now).service = controller.service := by
  simp only [planRetry]
  split <;> rfl

theorem settle_service (result : Except ReconcileError PerformanceStatus) :
    (controller.settle object result now).service = controller.service := by
  cases result with
  | ok status => rfl
  | error error =>
      cases error with
      | missingMetadata => rfl
      | targetLookup kind namespaceName name failure => exact controller.planRetry_service now _

def attempt : ReconcilerEvent :=
  .reconcile object (lookUp answers object).2 (momentOf now)

theorem apply_store :
    (controller.apply answers object now).1.service.store =
      (attempt answers object now).change.applyTo controller.service.store := by
  rw [← reconciler.step_store controller.service (attempt answers object now)]
  simp only [apply, attempt, Reconciler.step]
  split <;> simp only [settle_service]

def eventFor : WatchEvent → Option ReconcilerEvent
  | .listed object | .changed object => some (attempt answers object now)
  | .listEnds => some (.prune controller.seen)
  | .deleted object => some (.cleanup object)
  | .listBegins | .failed => none

theorem onEvent_store (event : WatchEvent) :
    (controller.onEvent answers event now).1.service.store =
      match controller.eventFor answers now event with
      | some asked => asked.change.applyTo controller.service.store
      | none => controller.service.store := by
  cases event with
  | listBegins => rfl
  | listed object => exact apply_store _ answers object now
  | listEnds => rfl
  | changed object => exact apply_store _ answers object now
  | deleted object => exact reconciler.step_store controller.service (.cleanup object)
  | failed => rfl

theorem takeRetry_store :
    (controller.takeRetry answers now).1.service.store = controller.service.store ∨
      ∃ object, (controller.takeRetry answers now).1.service.store =
        (attempt answers object now).change.applyTo controller.service.store := by
  simp only [takeRetry]
  split
  · simp only [onRetry]
    split
    · rename_i found _
      exact Or.inr ⟨found, apply_store _ answers found now⟩
    · exact Or.inl rfl
    · exact Or.inl rfl
  · exact Or.inl rfl

end Controller

namespace ControllerStep

theorem apply_store_cases (controller : Controller) (step : ControllerStep) :
    (step.apply controller).service.store = controller.service.store ∨
      ∃ asked : ReconcilerEvent, (step.apply controller).service.store =
        asked.change.applyTo controller.service.store := by
  cases step with
  | hear answers event now =>
      have store := controller.onEvent_store answers now event
      cases asked : controller.eventFor answers now event with
      | none =>
          rw [asked] at store
          exact Or.inl store
      | some wanted =>
          rw [asked] at store
          exact Or.inr ⟨wanted, store⟩
  | expire id => exact Or.inl rfl
  | retry answers now =>
      rcases controller.takeRetry_store answers now with same | ⟨object, store⟩
      · exact Or.inl same
      · exact Or.inr ⟨_, store⟩

/-- A store that a controller comes to is one that its reconciler comes to. -/
theorem run_store (isLeader : Bool) (steps : List ControllerStep) :
    ∃ events, (run isLeader steps).service.store = (Reconciler.run {} events).store := by
  induction steps using List.reverseRecOn with
  | nil => exact ⟨[], rfl⟩
  | append_singleton steps step ih =>
      obtain ⟨events, before⟩ := ih
      rw [run_concat]
      rcases step.apply_store_cases (run isLeader steps) with same | ⟨asked, store⟩
      · exact ⟨events, same.trans before⟩
      · refine ⟨events ++ [asked], ?_⟩
        rw [store, before, Reconciler.run_concat, Reconciler.step_store]

end ControllerStep

end IngressMeter
