import IngressMeter.Proofs.Reconcile.Idempotence

/-!
How an attempt ends. There are six ways. Those that fail leave all as it was, and in the others the
status tells what is in force, whatever an earlier status said.
-/

namespace IngressMeter

theorem Pattern.compileAll_ok_iff {sources : List String} :
    (∃ patterns, compileAll sources = .ok patterns) ↔
      ∀ source ∈ sources, (compile? source).isSome = true := by
  induction sources with
  | nil => simp [compileAll]
  | cons source rest ih =>
      rw [compileAll, List.forall_mem_cons, ← ih]
      cases compile? source with
      | none => simp
      | some pattern => cases compileAll rest <;> simp [Except.map]

namespace UrlPerformance

theorem compilePatterns_eq (specs : List PatternSpec) :
    compilePatterns specs = (Pattern.compileAll (specs.map (·.pattern))).map fun patterns =>
      patterns.zipWith (fun pattern spec => ⟨pattern, spec.replacement⟩) specs := by
  induction specs with
  | nil => rfl
  | cons spec rest ih =>
      rw [compilePatterns, List.map_cons, Pattern.compileAll, ih]
      cases Pattern.compile? spec.pattern with
      | none => rfl
      | some pattern => cases Pattern.compileAll (rest.map (·.pattern)) <;> rfl

def patternTexts (object : UrlPerformance) : List String :=
  object.spec.urlPatterns.map (·.pattern) ++ object.spec.whitelist ++ object.spec.ignored

variable (object : UrlPerformance) (now : Timestamp)

theorem toRules_ok_iff :
    (∃ rules, object.toRules now = .ok rules) ↔
      ∀ text ∈ object.patternTexts, (Pattern.compile? text).isSome = true := by
  simp only [patternTexts, List.forall_mem_append, ← Pattern.compileAll_ok_iff, and_assoc]
  rw [toRules, compilePatterns_eq]
  cases Pattern.compileAll (object.spec.urlPatterns.map (·.pattern)) with
  | error pattern => simp [bind, Except.bind, Except.map]
  | ok patterns =>
      cases Pattern.compileAll object.spec.whitelist with
      | error pattern => simp [bind, Except.bind, Except.map]
      | ok whitelist =>
          cases Pattern.compileAll object.spec.ignored <;>
            simp [bind, Except.bind, Except.map, pure, Except.pure]

end UrlPerformance

namespace RulesStore

variable {store : RulesStore} {rules : TargetRules}

theorem key_of_mem_upsert {entry : String × TargetRules}
    (member : entry ∈ (store.upsert rules).1.entries) (owned : entry.2.owner = rules.owner) :
    entry.1 = rules.key := by
  rw [← store.dropMoved_upsert rules] at member
  simpa [owned] using (List.mem_filter.mp member).2

theorem Compiled.get?_upsert_timeless (compiled : store.Compiled) (isCompiled : rules.IsCompiled)
    {stored : TargetRules} (found : (store.upsert rules).1.get? rules.key = some stored) :
    stored.timeless = rules.timeless := by
  obtain ⟨kept, isKept, same, source⟩ := store.get?_upsert_contents rules
  obtain rfl : kept = stored := Option.some.inj (isKept.symm.trans found)
  rcases source with rfl | before
  · rfl
  · have keeps : (store.dropMoved rules).get? rules.key = store.get? rules.key :=
      Entries.lookup_filter_of_keeps (by simp) store.entries
    rw [keeps] at before
    exact (compiled rules.key kept before).timeless_eq isCompiled same

end RulesStore

theorem PerformanceStatus.States.found {status : PerformanceStatus} {type : ConditionType}
    {value : ConditionStatus} {reason message : String}
    (stated : status.States type value reason message) :
    ∃ condition, Condition.find? status.conditions type = some condition ∧
      condition.status = value := by
  obtain ⟨condition, found, same, _⟩ := stated
  exact ⟨condition, found, same⟩

namespace Reconciler

open PerformanceStatus

inductive Ends (reconciler : Reconciler) (service : Service) (object : UrlPerformance)
    (now : Timestamp) : TargetLookup → Service × Except ReconcileError PerformanceStatus → Prop
  | unidentified {lookup : TargetLookup} (anonymous : object.hasIdentity = false) :
      Ends reconciler service object now lookup (service, .error .missingMetadata)
  | disabled {lookup : TargetLookup} (identity : object.hasIdentity = true)
      (disabled : object.spec.enabled = false) :
      Ends reconciler service object now lookup
        ((reconciler.withdraw service object).1,
          .ok (disabledStatus (object.status.getD {}) now))
  | unanswered {failure : Failure} (identity : object.hasIdentity = true)
      (enabled : object.spec.enabled = true) :
      Ends reconciler service object now (.failed failure)
        (service, .error (.targetLookup object.spec.target.kind object.targetNamespace
          object.spec.target.name failure))
  | missing (identity : object.hasIdentity = true) (enabled : object.spec.enabled = true) :
      Ends reconciler service object now .missing
        (service,
          .ok (missingStatus (object.status.getD {}) (object.targetText ++ " not found") now))
  | invalid {pattern : String} (identity : object.hasIdentity = true)
      (enabled : object.spec.enabled = true) (refused : object.toRules now = .error pattern) :
      Ends reconciler service object now .found
        (service, .ok (invalidStatus
          (foundStatus (object.status.getD {}) (object.targetText ++ " exists") now)
          (Failure.invalidRegex pattern).message now))
  | active {rules : TargetRules} (identity : object.hasIdentity = true)
      (enabled : object.spec.enabled = true) (made : object.toRules now = .ok rules) :
      Ends reconciler service object now .found
        ({ service with store := (service.store.upsert rules).1 },
          .ok (reconciler.observeGeneration { service with store := (service.store.upsert rules).1 }
            object (activeStatus
              (foundStatus (object.status.getD {}) (object.targetText ++ " exists") now) now)))

theorem reconcile_ends (reconciler : Reconciler) (service : Service) (object : UrlPerformance)
    (lookup : TargetLookup) (now : Timestamp) :
    reconciler.Ends service object now lookup (reconciler.reconcile service object lookup now) := by
  cases identity : object.hasIdentity with
  | false =>
      simp only [reconcile, identity]
      exact .unidentified identity
  | true =>
      cases enabled : object.spec.enabled with
      | false =>
          rw [reconciler.reconcile_disabled service object now lookup identity enabled]
          exact .disabled identity enabled
      | true =>
          cases lookup with
          | failed failure =>
              simp only [reconcile, identity, enabled]
              exact .unanswered identity enabled
          | missing =>
              rw [reconciler.reconcile_missing service object now identity enabled]
              exact .missing identity enabled
          | found =>
              rw [reconciler.reconcile_found service object now identity enabled]
              simp only [activate]
              cases made : object.toRules now with
              | error pattern => exact .invalid identity enabled made
              | ok rules => exact .active identity enabled made

/-- Whether the rules of an object are in force and its status says so. -/
structure Commits (object : UrlPerformance) (now : Timestamp) (before after : RulesStore)
    (status : PerformanceStatus) : Prop where
  stored : ∃ rules stored, object.toRules now = .ok rules ∧
    after.get? object.targetKey = some stored ∧ stored.contents = rules.contents ∧
    (before.Compiled → stored.timeless = rules.timeless)
  only : ∀ entry ∈ after.entries, entry.2.owner = object.objectRef → entry.1 = object.targetKey
  conditions : ∀ type, ∃ condition, Condition.find? status.conditions type = some condition ∧
    condition.status = .true
  observed : status.observedGeneration = object.metadata.generation

section Active

variable (reconciler : Reconciler) (service : Service) {object : UrlPerformance}
  (status : PerformanceStatus) {now : Timestamp}

theorem activeStatus_conditions (message : String) (type : ConditionType) :
    let active := activeStatus (foundStatus status message now) now
    ∃ condition, Condition.find? active.conditions type = some condition ∧
      condition.status = .true := by
  intro active
  have targetExists : active.States .targetExists .true "Found" message :=
    ((Condition.states_set ..).set_other _ (by decide)).set_other _ (by decide)
  have generated : active.States .configGenerated .true "Generated"
      "Runtime configuration generated" := (Condition.states_set ..).set_other _ (by decide)
  have ready : active.States .ready .true "Ready" "Monitoring is active" :=
    Condition.states_set ..
  cases type with
  | targetExists => exact targetExists.found
  | configGenerated => exact generated.found
  | ready => exact ready.found

theorem commits_of_toRules {rules : TargetRules} (made : object.toRules now = .ok rules)
    (message : String) :
    let after : Service := { service with store := (service.store.upsert rules).1 }
    Commits object now service.store after.store (reconciler.observeGeneration after object
      (activeStatus (foundStatus status message now) now)) := by
  intro after
  obtain ⟨key, owner, _⟩ := UrlPerformance.toRules_ok made
  obtain ⟨stored, found, same, _⟩ := service.store.get?_upsert_contents rules
  refine ⟨⟨rules, stored, made, ?_, same, ?_⟩, ?_, ?_, rfl⟩
  · rw [← key]
    exact found
  · intro compiled
    exact compiled.get?_upsert_timeless (UrlPerformance.isCompiled_of_toRules made) found
  · intro entry member owned
    rw [← key]
    exact RulesStore.key_of_mem_upsert member (owned.trans owner.symm)
  · exact activeStatus_conditions status message

end Active

section Outcome

variable {reconciler : Reconciler} {service : Service} {object : UrlPerformance}
  {lookup : TargetLookup} {now : Timestamp}
  {result : Service × Except ReconcileError PerformanceStatus}
  (ends : reconciler.Ends service object now lookup result)

include ends

theorem Ends.eq_of_failed (failed : ∀ status, result.2 = .ok status → status.phase = .error) :
    result.1 = service := by
  cases ends with
  | disabled => cases failed _ rfl
  | active => cases failed _ rfl
  | unidentified | unanswered | missing | invalid => rfl

theorem Ends.active_iff :
    (∃ status, result.2 = .ok status ∧ status.phase = .active) ↔
      object.hasIdentity = true ∧ object.spec.enabled = true ∧ lookup = .found ∧
        ∀ text ∈ object.patternTexts, (Pattern.compile? text).isSome = true := by
  rw [← object.toRules_ok_iff now]
  cases ends with
  | unidentified anonymous => simp [anonymous]
  | disabled identity disabled => simp [disabled, disabledStatus]
  | unanswered => simp
  | missing => simp [missingStatus]
  | invalid identity enabled refused => simp [refused, invalidStatus]
  | active identity enabled made =>
      simp [identity, enabled, made, observeGeneration, activeStatus]

theorem Ends.disabled_iff :
    (∃ status, result.2 = .ok status ∧ status.phase = .disabled) ↔
      object.hasIdentity = true ∧ object.spec.enabled = false := by
  cases ends with
  | unidentified anonymous => simp [anonymous]
  | disabled identity disabled => simp [identity, disabled, disabledStatus]
  | unanswered identity enabled => simp [enabled]
  | missing identity enabled => simp [enabled, missingStatus]
  | invalid identity enabled => simp [enabled, invalidStatus]
  | active identity enabled => simp [enabled, observeGeneration, activeStatus]

theorem Ends.commits {status : PerformanceStatus} (returned : result.2 = .ok status)
    (isActive : status.phase = .active) :
    Commits object now service.store result.1.store status := by
  cases ends with
  | active identity enabled made =>
      cases returned
      exact commits_of_toRules reconciler service _ made _
  | unidentified | unanswered => cases returned
  | disabled | missing | invalid =>
      cases returned
      cases isActive

theorem Ends.ready_iff {status : PerformanceStatus} (returned : result.2 = .ok status) :
    ∃ ready, Condition.find? status.conditions .ready = some ready ∧
      (ready.status = .true ↔ status.phase = .active) := by
  -- Each way sets whether the object is ready last, so no later change hides it.
  have told : ∀ {value reason message}, status.States .ready value reason message →
      (value = .true ↔ status.phase = .active) →
      ∃ ready, Condition.find? status.conditions .ready = some ready ∧
        (ready.status = .true ↔ status.phase = .active) := by
    intro value reason message stated agrees
    obtain ⟨ready, found, rfl⟩ := stated.found
    exact ⟨ready, found, agrees⟩
  cases ends with
  | unidentified | unanswered => cases returned
  | disabled =>
      cases returned
      exact told (Condition.states_set ..) (by simp [disabledStatus])
  | missing =>
      cases returned
      exact told (Condition.states_set ..) (by simp [missingStatus])
  | invalid =>
      cases returned
      exact told (Condition.states_set ..) (by simp [invalidStatus])
  | active =>
      cases returned
      exact told (Condition.states_set ..) (by simp [observeGeneration, activeStatus])

end Outcome

/-- Whatever the store, the engine and an earlier status were, an attempt that fails or ends in an
error leaves all as it was. It ends active exactly if the object can be named, is enabled, has a
target that exists and patterns that can all be compiled, and then its rules are in force and the
status says so. It ends disabled exactly if the object can be named and is not enabled. Every status
says that it is ready exactly if it is active. -/
theorem reconcile_outcome (reconciler : Reconciler) (service : Service) (object : UrlPerformance)
    (lookup : TargetLookup) (now : Timestamp) :
    let result := reconciler.reconcile service object lookup now
    ((∀ status, result.2 = .ok status → status.phase = .error) → result.1 = service) ∧
      ((∃ status, result.2 = .ok status ∧ status.phase = .active) ↔
        object.hasIdentity = true ∧ object.spec.enabled = true ∧ lookup = .found ∧
          ∀ text ∈ object.patternTexts, (Pattern.compile? text).isSome = true) ∧
      (∀ status, result.2 = .ok status → status.phase = .active →
        Commits object now service.store result.1.store status) ∧
      ((∃ status, result.2 = .ok status ∧ status.phase = .disabled) ↔
        object.hasIdentity = true ∧ object.spec.enabled = false) ∧
      ∀ status, result.2 = .ok status →
        ∃ ready, Condition.find? status.conditions .ready = some ready ∧
          (ready.status = .true ↔ status.phase = .active) := by
  intro result
  have ends := reconciler.reconcile_ends service object lookup now
  exact ⟨ends.eq_of_failed, ends.active_iff, fun _ => ends.commits, ends.disabled_iff,
    fun _ => ends.ready_iff⟩

end Reconciler

end IngressMeter
