import IngressMeter.Proofs.Reconcile.Steps
import IngressMeter.Proofs.Resource.Condition

/-!
Reconciling an object that carries the status it was given changes neither the status nor the store,
whatever was measured in between.
-/

namespace IngressMeter

namespace PerformanceStatus

def States (status : PerformanceStatus) (type : ConditionType) (value : ConditionStatus)
    (reason message : String) : Prop :=
  Condition.States status.conditions type value reason message

variable {status : PerformanceStatus}

theorem States.setCondition_eq_self {type : ConditionType} {value : ConditionStatus}
    {reason message : String} (stated : status.States type value reason message)
    (now : Timestamp) : status.setCondition type value reason message now = status := by
  rw [setCondition, Condition.States.set_eq_self now stated]

theorem withPhase_eq_self {phase : Phase} (same : status.phase = phase) :
    { status with phase } = status := by
  subst phase
  rfl

end PerformanceStatus

namespace Reconciler

open PerformanceStatus

/-! A status that already tells what came of an attempt is not changed by another such attempt. -/

section Unchanged

variable {status : PerformanceStatus} {message : String} (now : Timestamp)

theorem disabledStatus_eq_self (phase : status.phase = .disabled)
    (ready : status.States .ready .false "Disabled" "Monitoring is disabled") :
    disabledStatus status now = status := by
  rw [disabledStatus, ready.setCondition_eq_self, withPhase_eq_self phase]

theorem missingStatus_eq_self (phase : status.phase = .error)
    (target : status.States .targetExists .false "NotFound" message)
    (ready : status.States .ready .false "TargetNotFound" message) :
    missingStatus status message now = status := by
  simp only [missingStatus]
  rw [target.setCondition_eq_self, ready.setCondition_eq_self, withPhase_eq_self phase]

theorem invalidStatus_eq_self (phase : status.phase = .error)
    (generated : status.States .configGenerated .false "InvalidRegex" message)
    (ready : status.States .ready .false "InvalidRegex" message) :
    invalidStatus status message now = status := by
  simp only [invalidStatus]
  rw [generated.setCondition_eq_self, ready.setCondition_eq_self, withPhase_eq_self phase]

theorem activeStatus_eq_self (phase : status.phase = .active)
    (generated : status.States .configGenerated .true "Generated" "Runtime configuration generated")
    (ready : status.States .ready .true "Ready" "Monitoring is active") :
    activeStatus status now = status := by
  simp only [activeStatus]
  rw [generated.setCondition_eq_self, ready.setCondition_eq_self, withPhase_eq_self phase]

theorem observeGeneration_eq_self (reconciler : Reconciler) (service : Service)
    {object : UrlPerformance} (observed : status.observedGeneration = object.metadata.generation) :
    reconciler.observeGeneration service object status = status := by
  simp [observeGeneration, ← observed]

end Unchanged

section Answered

variable (reconciler : Reconciler) (service : Service) (object : UrlPerformance) (now : Timestamp)

theorem reconcile_disabled (lookup : TargetLookup) (identity : object.hasIdentity = true)
    (disabled : object.spec.enabled = false) :
    reconciler.reconcile service object lookup now =
      ((reconciler.withdraw service object).1,
        .ok (disabledStatus (object.status.getD {}) now)) := by
  simp [reconcile, identity, disabled]

theorem reconcile_missing (identity : object.hasIdentity = true)
    (enabled : object.spec.enabled = true) :
    reconciler.reconcile service object .missing now =
      (service,
        .ok (missingStatus (object.status.getD {}) (object.targetText ++ " not found") now)) := by
  simp [reconcile, identity, enabled]

theorem reconcile_found (identity : object.hasIdentity = true)
    (enabled : object.spec.enabled = true) :
    reconciler.reconcile service object .found now =
      ((reconciler.activate service object (object.status.getD {}) now).1,
        .ok (reconciler.activate service object (object.status.getD {}) now).2) := by
  simp [reconcile, identity, enabled]

end Answered

section Again

variable (reconciler : Reconciler) (service between : Service) (object : UrlPerformance)
  (status : PerformanceStatus) (now later : Timestamp)

theorem withdraw_again (same : between.store = (reconciler.withdraw service object).1.store) :
    (reconciler.withdraw between object).1.store = between.store := by
  have before := congrArg Service.store (reconciler.withdraw_eq service object)
  have after := congrArg Service.store (reconciler.withdraw_eq between object)
  simp only [apply, StoreChange.applyTo] at before after
  rw [after, same, before, RulesStore.removeOwned_again]

theorem disabledStatus_again :
    disabledStatus (disabledStatus status now) later = disabledStatus status now :=
  disabledStatus_eq_self later rfl (Condition.states_set ..)

theorem missingStatus_again (message : String) :
    missingStatus (missingStatus status message now) message later =
      missingStatus status message now :=
  missingStatus_eq_self later rfl ((Condition.states_set ..).set_other _ (by decide))
    (Condition.states_set ..)

theorem activate_again
    (same : between.store = (reconciler.activate service object status now).1.store) :
    let noted := (reconciler.activate service object status now).2
    let carrying := { object with status := some noted }
    (reconciler.activate between carrying noted later).1.store = between.store ∧
      (reconciler.activate between carrying noted later).2 = noted := by
  intro noted carrying
  have rulesLater : carrying.toRules later = (object.toRules now).map fun rules =>
      { rules with lastUpdated := later.seconds } := object.toRules_later now later
  -- The first of the conditions was set before two others, which are of other types.
  have found : noted.States .targetExists .true "Found" (object.targetText ++ " exists") := by
    simp only [noted, activate]
    cases object.toRules now with
    | error pattern =>
        exact ((Condition.states_set ..).set_other _ (by decide)).set_other _ (by decide)
    | ok rules =>
        exact ((Condition.states_set ..).set_other _ (by decide)).set_other _ (by decide)
  have unchanged : foundStatus noted (carrying.targetText ++ " exists") later = noted :=
    found.setCondition_eq_self later
  simp only [activate, unchanged, rulesLater]
  cases made : object.toRules now with
  | error pattern =>
      have isNoted : noted = invalidStatus (foundStatus status (object.targetText ++ " exists") now)
          (Failure.invalidRegex pattern).message now := by
        simp only [noted, activate, made]
      refine ⟨rfl, ?_⟩
      rw [isNoted]
      exact invalidStatus_eq_self later rfl ((Condition.states_set ..).set_other _ (by decide))
        (Condition.states_set ..)
  | ok rules =>
      have isNoted : noted = reconciler.observeGeneration
          { service with store := (service.store.upsert rules).1 } object
          (activeStatus (foundStatus status (object.targetText ++ " exists") now) now) := by
        simp only [noted, activate, made]
        rfl
      have active : activeStatus noted later = noted := by
        rw [isNoted]
        exact activeStatus_eq_self later rfl ((Condition.states_set ..).set_other _ (by decide))
          (Condition.states_set ..)
      have observed : noted.observedGeneration = carrying.metadata.generation := by
        rw [isNoted]
        rfl
      simp only [activate, made] at same
      refine ⟨?_, ?_⟩
      · have alike : ({ rules with lastUpdated := later.seconds } : TargetRules).contents =
            rules.contents := rfl
        simp only [Except.map]
        rw [same, service.store.upsert_again alike]
      · simp only [Except.map, active]
        exact observeGeneration_eq_self reconciler _ observed

end Again

/-- An answered attempt gives a status. Once the object carries it, another attempt with the same
answer gives the same status and leaves the store as the first one did. -/
theorem reconcile_again (reconciler : Reconciler) (service : Service) (object : UrlPerformance)
    (lookup : TargetLookup) (now later : Timestamp) (identity : object.hasIdentity = true)
    (answered : ∀ failure, lookup ≠ .failed failure) :
    let first := reconciler.reconcile service object lookup now
    ∃ status, first.2 = .ok status ∧
      ∀ between : Service, between.store = first.1.store →
        let again :=
          reconciler.reconcile between { object with status := some status } lookup later
        again.2 = .ok status ∧ again.1.store = first.1.store := by
  intro first
  cases enabled : object.spec.enabled with
  | false =>
      have isFirst := reconciler.reconcile_disabled service object now lookup identity enabled
      simp only [first, isFirst]
      refine ⟨_, rfl, ?_⟩
      intro between same
      rw [reconciler.reconcile_disabled between { object with status := some _ } later lookup
        identity enabled]
      have store := reconciler.withdraw_again service between object same
      exact ⟨congrArg Except.ok (disabledStatus_again _ now later), store.trans same⟩
  | true =>
      cases asked : lookup with
      | failed failure => exact absurd asked (answered failure)
      | missing =>
          have isFirst := reconciler.reconcile_missing service object now identity enabled
          simp only [first, asked, isFirst]
          refine ⟨_, rfl, ?_⟩
          intro between same
          rw [reconciler.reconcile_missing between { object with status := some _ } later identity
            enabled]
          exact ⟨congrArg Except.ok (missingStatus_again _ now later _), same⟩
      | found =>
          have isFirst := reconciler.reconcile_found service object now identity enabled
          simp only [first, asked, isFirst]
          refine ⟨_, rfl, ?_⟩
          intro between same
          rw [reconciler.reconcile_found between { object with status := some _ } later identity
            enabled]
          obtain ⟨store, noted⟩ := reconciler.activate_again service between object _ now later same
          exact ⟨congrArg Except.ok noted, store.trans same⟩

def staleStatus : PerformanceStatus where
  phase := .active
  conditions := [
    ⟨.ready, .true, none, "Ready", ""⟩,
    ⟨.targetExists, .false, some (.ofSeconds 3), "NotFound", "gone"⟩,
    ⟨.targetExists, .true, some (.ofSeconds 5), "Found", "there"⟩]
  monitoredPaths := some 7
  observedGeneration := some 1

theorem reconcile_again_staleStatus :
    let object := { UrlPerformance.perf "web" true with status := some staleStatus }
    let first := reconcile {} {} object .found (.ofSeconds 10)
    object.hasIdentity = true ∧ (∀ failure, TargetLookup.found ≠ .failed failure) ∧
      ∃ status, first.2 = .ok status ∧
        ∀ between : Service, between.store = first.1.store →
          let again := reconcile {} between { object with status := some status } .found
            (.ofSeconds 20)
          again.2 = .ok status ∧ again.1.store = first.1.store :=
  ⟨rfl, fun _ same => TargetLookup.noConfusion same,
    reconcile_again {} {} { UrlPerformance.perf "web" true with status := some staleStatus } .found
      (.ofSeconds 10) (.ofSeconds 20) rfl fun _ same => TargetLookup.noConfusion same⟩

end Reconciler

end IngressMeter
