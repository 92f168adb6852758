import IngressMeter.Metrics.Schedule
import IngressMeter.Proofs.Metrics.Measures
import IngressMeter.Proofs.Reconcile.Steps
import IngressMeter.Proofs.Service.Line

/-!
Lines are counted for targets in the store, and what leaves the store is forgotten, unless it leaves
because an object comes to name another target. That is the only way for a target to be measured
that is not in the store.
-/

namespace IngressMeter

inductive OperatorStep where
  | line (now : Nat) (line : LogLine)
  | event (event : ReconcilerEvent)
  | task (task : PeriodicTask)
  | scrape

def OperatorStep.apply (format : LogFormat) (service : Service) : OperatorStep → Service
  | .line now read => (Processor.processLine ⟨format, .operator⟩ now service read).1
  | .event asked => Reconciler.step {} service asked
  | .task due => { service with engine := due.run service.engine }
  | .scrape => { service with engine := service.engine.scrape.1 }

def OperatorStep.run (format : LogFormat) (steps : List OperatorStep) : Service :=
  steps.foldl (OperatorStep.apply format) {}

theorem OperatorStep.run_concat (format : LogFormat) (steps : List OperatorStep)
    (step : OperatorStep) : run format (steps ++ [step]) = step.apply format (run format steps) :=
  List.foldl_concat _ _ _ _

namespace Processor

theorem resolveStored_ok {store : RulesStore} {routerName : String} {rules : TargetRules}
    (resolved : resolveStored store routerName = .ok rules) :
    ∃ key, store.get? key = some rules := by
  simp only [resolveStored] at resolved
  cases found : (RouterIdentity.decode routerName).key?.bind store.get? with
  | none => simp [found] at resolved
  | some stored =>
      obtain ⟨key, _, present⟩ := Option.bind_eq_some_iff.mp found
      simp only [found] at resolved
      split at resolved
      · contradiction
      · split at resolved
        · contradiction
        · cases resolved
          exact ⟨key, present⟩

variable {processor : Processor} {rules : TargetRules} {engine : Engine}

theorem count_keyed (sound : engine.Keyed) (isKeyed : rules.IsKeyed) (record : AccessRecord) :
    (processor.count rules record engine).Keyed := by
  have observed := sound.observe (targetOf rules record) record (rules.normalizePath record.path)
    rules.topCount isKeyed
  rw [count]
  cases processor.format with
  | common => exact observed
  | json => exact observed.of_step (.observeOverhead record) rfl

theorem mem_remembered_count (record : AccessRecord) (key : String) :
    key ∈ (processor.count rules record engine).remembered ↔
      key ∈ engine.remembered ∨ key = rules.key := by
  have observed : key ∈ (engine.observe (targetOf rules record) record
      (rules.normalizePath record.path) rules.topCount).remembered ↔
      key ∈ engine.remembered ∨ key = rules.key := by
    rw [Engine.remembered_observe]
    exact engine.mem_remembered_rememberRouter (targetOf rules record) rules.topCount key
  rw [count]
  cases processor.format with
  | common => exact observed
  | json => exact observed

end Processor

structure Service.Keyed (service : Service) : Prop where
  store : service.store.Sound
  engine : service.engine.Keyed

def Service.Covered (service : Service) : Prop :=
  ∀ key, service.engine.Measures key → key ∈ service.store.keys

namespace Service.Keyed

variable {service : Service} (sound : service.Keyed)

include sound

theorem line (format : LogFormat) (now : Nat) (line : LogLine) :
    (OperatorStep.apply format service (.line now line)).Keyed := by
  constructor
  · rw [OperatorStep.apply, Processor.processLine_store]
    exact sound.store
  · simp only [OperatorStep.apply]
    rcases Processor.processLine_cases ⟨format, .operator⟩ now service line with
      ⟨reason, done⟩ | ⟨record, rules, admits, done⟩
    · rw [done]
      exact sound.engine.of_step (.countLine reason.label) rfl
    · obtain ⟨_, found⟩ := Processor.resolveStored_ok admits.resolved
      have isKeyed := sound.store.keyed _ rules found
      rw [done]
      exact (Processor.count_keyed sound.engine isKeyed record).of_step
        (.countLine Outcome.recorded.label) rfl

theorem mem_remembered_line (format : LogFormat) (now : Nat) (line : LogLine) {key : String}
    (known : key ∈ (OperatorStep.apply format service (.line now line)).engine.remembered) :
    key ∈ service.engine.remembered ∨ key ∈ service.store.keys := by
  simp only [OperatorStep.apply] at known
  rcases Processor.processLine_cases ⟨format, .operator⟩ now service line with
    ⟨reason, done⟩ | ⟨record, rules, admits, done⟩
  · rw [done] at known
    exact Or.inl known
  · rw [done] at known
    rcases (Processor.mem_remembered_count record key).mp known with before | counted
    · exact Or.inl before
    · obtain ⟨_, found⟩ := Processor.resolveStored_ok admits.resolved
      rw [← sound.store.own _ rules found, ← counted] at found
      exact Or.inr (RulesStore.mem_keys_iff.mpr ⟨rules, found⟩)

end Service.Keyed

namespace Reconciler

theorem forgetAll_keyed {engine : Engine} (sound : engine.Keyed) (keys : List String) :
    (forgetAll {} keys engine).Keyed := by
  induction keys generalizing engine with
  | nil => exact sound
  | cons key keys ih => exact ih (sound.forgetRouter key)

theorem mem_remembered_forgetAll (keys : List String) (engine : Engine) (key : String) :
    key ∈ (forgetAll {} keys engine).remembered ↔ key ∈ engine.remembered ∧ key ∉ keys := by
  induction keys generalizing engine with
  | nil => simp [forgetAll]
  | cons forgotten keys ih =>
      have others : key ∈ (forgetAll {} keys (engine.forgetRouter forgotten)).remembered ↔
          (key ∈ engine.remembered ∧ key ≠ forgotten) ∧ key ∉ keys := by
        rw [ih, Engine.remembered_forgetRouter, List.mem_filter, decide_eq_true_eq]
      rw [List.mem_cons, not_or, ← and_assoc]
      exact others

end Reconciler

namespace Service.Keyed

variable {service : Service} (sound : service.Keyed)

include sound

theorem event (asked : ReconcilerEvent) : (Reconciler.step {} service asked).Keyed := by
  constructor
  · rw [Reconciler.step_store]
    exact asked.applyTo_sound sound.store
  · rw [Reconciler.step_eq]
    exact Reconciler.forgetAll_keyed sound.engine _

theorem measures_event (asked : ReconcilerEvent) (key : String) :
    (Reconciler.step {} service asked).engine.Measures key ↔
      service.engine.Measures key ∧ key ∉ asked.change.forgotten service.store := by
  rw [(sound.event asked).engine.measures_iff, sound.engine.measures_iff, Reconciler.step_eq]
  exact Reconciler.mem_remembered_forgetAll _ _ _

theorem apply (format : LogFormat) (step : OperatorStep) : (step.apply format service).Keyed := by
  cases step with
  | line now read => exact sound.line format now read
  | event asked => exact sound.event asked
  | task due =>
      refine ⟨sound.store, ?_⟩
      cases due with
      | refreshTop => exact sound.engine.of_step .refreshTop rfl
      | resetEndpointSeries => exact sound.engine.of_step .resetEndpointSeries rfl
  | scrape => exact ⟨sound.store, sound.engine.of_step .scrape rfl⟩

/-- Of the keys that an event takes out of the store, those that it moves from stay measured. -/
theorem measures_event_left (asked : ReconcilerEvent) {key : String}
    (stored : key ∈ service.store.keys)
    (left : key ∉ (Reconciler.step {} service asked).store.keys) :
    (Reconciler.step {} service asked).engine.Measures key ↔
      service.engine.Measures key ∧ asked.change.MovesFrom service.store key := by
  rw [Reconciler.step_store, StoreChange.mem_keys_applyTo sound.store] at left
  rw [sound.measures_event]
  apply and_congr_right
  intro _
  constructor
  · intro notForgotten
    by_contra stays
    exact left (Or.inl ⟨stored, notForgotten, stays⟩)
  · intro moves
    rw [moves.forgotten_eq_nil]
    exact List.not_mem_nil

theorem covered_event_iff (covered : service.Covered) (asked : ReconcilerEvent) :
    (Reconciler.step {} service asked).Covered ↔
      ∀ key, asked.change.MovesFrom service.store key → ¬service.engine.Measures key := by
  simp only [Service.Covered, sound.measures_event, Reconciler.step_store,
    StoreChange.mem_keys_applyTo sound.store]
  constructor
  · intro after key moves measured
    rcases after key ⟨measured, by simp [moves.forgotten_eq_nil]⟩ with
      ⟨_, _, stays⟩ | ⟨rules, puts, here⟩
    · exact stays moves
    · obtain ⟨others, _, same, _, _, elsewhere⟩ := moves
      cases puts.symm.trans same
      exact elsewhere here
  · intro harmless key ⟨measured, notForgotten⟩
    exact Or.inl ⟨covered key measured, notForgotten, fun moves => harmless key moves measured⟩

theorem covered_apply_iff (covered : service.Covered) (format : LogFormat) (step : OperatorStep) :
    (step.apply format service).Covered ↔ ∀ asked, step = .event asked →
      ∀ key, asked.change.MovesFrom service.store key → ¬service.engine.Measures key := by
  have after := sound.apply format step
  -- Whatever is no event brings no key that is not in the store.
  have ofRemembered : (∀ asked, step ≠ .event asked) →
      (step.apply format service).store = service.store →
      (∀ key ∈ (step.apply format service).engine.remembered,
        key ∈ service.engine.remembered ∨ key ∈ service.store.keys) →
      ((step.apply format service).Covered ↔ ∀ asked, step = .event asked →
        ∀ key, asked.change.MovesFrom service.store key → ¬service.engine.Measures key) := by
    intro noEvent store grows
    refine iff_of_true ?_ fun asked same => absurd same (noEvent asked)
    intro key measured
    rw [after.engine.measures_iff] at measured
    rw [store]
    rcases grows key measured with before | stored
    · exact covered key ((sound.engine.measures_iff key).mpr before)
    · exact stored
  cases step with
  | line now read =>
      refine ofRemembered (by simp) (Processor.processLine_store _ now service read) ?_
      intro key known
      exact sound.mem_remembered_line format now read known
  | event asked =>
      simp only [OperatorStep.event.injEq, forall_eq']
      exact sound.covered_event_iff covered asked
  | task due =>
      refine ofRemembered (by simp) rfl ?_
      intro key known
      cases due with
      | refreshTop => exact Or.inl known
      | resetEndpointSeries => exact Or.inl known
  | scrape => exact ofRemembered (by simp) rfl fun key known => Or.inl known

end Service.Keyed

namespace OperatorStep

variable (format : LogFormat)

theorem run_keyed (steps : List OperatorStep) : (run format steps).Keyed := by
  induction steps using List.reverseRecOn with
  | nil => exact ⟨RulesStore.sound_empty, Engine.Keyed.new⟩
  | append_singleton steps step ih =>
      rw [run_concat]
      exact ih.apply format step

theorem covered_new : (run format []).Covered := by
  intro key measured
  rw [(run_keyed format []).engine.measures_iff] at measured
  simp [run, Engine.remembered] at measured

/-- Through a run, only targets in the store are measured exactly as long as no object that is
measured comes to name another target. A key that leaves the store otherwise is not measured any
more. -/
theorem run_covered_iff (steps : List OperatorStep) :
    ((∀ earlier, earlier <+: steps → ∀ key, (run format earlier).engine.Measures key →
        key ∈ (run format earlier).store.keys) ↔
      ∀ earlier asked, earlier ++ [.event asked] <+: steps →
        ∀ key, asked.change.MovesFrom (run format earlier).store key →
          ¬(run format earlier).engine.Measures key) ∧
      ∀ asked key,
        let before := run format steps
        let after := run format (steps ++ [.event asked])
        key ∈ before.store.keys → key ∉ after.store.keys →
          (after.engine.Measures key ↔
            before.engine.Measures key ∧ asked.change.MovesFrom before.store key) := by
  refine ⟨⟨?_, ?_⟩, ?_⟩
  · intro covered earlier asked started
    have before := covered earlier ((List.prefix_append _ _).trans started)
    have after := covered _ started
    rw [run_concat] at after
    have sound := run_keyed format earlier
    exact (sound.covered_apply_iff before format (.event asked)).mp after asked rfl
  · intro harmless earlier started
    induction earlier using List.reverseRecOn with
    | nil => exact covered_new format
    | append_singleton earlier step ih =>
        have sound := run_keyed format earlier
        have before := ih ((List.prefix_append _ _).trans started)
        rw [run_concat]
        refine (sound.covered_apply_iff before format step).mpr ?_
        rintro asked rfl
        exact harmless earlier asked started
  · intro asked key before after stored left
    simp only [after, run_concat] at left ⊢
    exact (run_keyed format steps).measures_event_left asked stored left

def requestLine : LogLine where
  text := "10.0.0.1 - - [10/Oct/2024:13:55:36 +0000] \"GET /a HTTP/1.1\" 200 5 \"-\" \"-\" 1 " ++
    "\"shop-web-0123456789ab@kubernetescrd\" \"http://b\" 20ms"

/-- The rows of a target stay when the object that asked for them comes to name another one. -/
theorem retargeted_stays_measured :
    let service := run .common
      [.event (.reconcile (.perf "web" true) .found (.ofSeconds 0)),
        .line 1 requestLine,
        .event (.reconcile (.perf "api" true) .found (.ofSeconds 2))]
    service.engine.Measures "shop-web" ∧ "shop-web" ∉ service.store.keys :=
  ⟨Or.inl ⟨"/a", by decide +kernel⟩, by decide +kernel⟩

end OperatorStep

end IngressMeter
