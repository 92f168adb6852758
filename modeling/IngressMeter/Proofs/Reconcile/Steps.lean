import IngressMeter.Proofs.Rules.Contents
import IngressMeter.Proofs.Target
import IngressMeter.Reconcile

/-!
The events of the reconciler as steps of one machine. Whatever an event is, it comes to one of four
changes of the store, and the engine is told to forget what the change removes.
-/

namespace IngressMeter

inductive ReconcilerEvent where
  | reconcile (object : UrlPerformance) (lookup : TargetLookup) (now : Timestamp)
  | cleanup (object : UrlPerformance)
  | prune (owners : List String)

inductive StoreChange where
  | keep
  | withdraw (key owner : String)
  | put (rules : TargetRules)
  | retain (owners : List String)

namespace StoreChange

def applyTo (store : RulesStore) : StoreChange → RulesStore
  | keep => store
  | withdraw key owner => (store.removeOwned key owner).1
  | put rules => (store.upsert rules).1
  | retain owners => (store.retainOwners owners).1

def forgotten (store : RulesStore) : StoreChange → List String
  | keep => []
  | withdraw key owner => if (store.removeOwned key owner).2.isSome then [key] else []
  | put _ => []
  | retain owners => (store.retainOwners owners).2

/-- Whether rules are stored whose owner had others under `key`, a key other than theirs. -/
def MovesFrom (store : RulesStore) (key : String) (change : StoreChange) : Prop :=
  ∃ rules stored, change = .put rules ∧ store.get? key = some stored ∧
    stored.owner = rules.owner ∧ key ≠ rules.key

theorem MovesFrom.forgotten_eq_nil {store : RulesStore} {key : String} {change : StoreChange}
    (moves : change.MovesFrom store key) : change.forgotten store = [] := by
  obtain ⟨rules, stored, rfl, _, _, _⟩ := moves
  rfl

/-- A change takes away the keys that the engine is told to forget and those it moves from. -/
theorem mem_keys_applyTo {store : RulesStore} (sound : store.Sound) (change : StoreChange)
    (key : String) :
    key ∈ (change.applyTo store).keys ↔
      (key ∈ store.keys ∧ key ∉ change.forgotten store ∧ ¬change.MovesFrom store key) ∨
        ∃ rules, change = .put rules ∧ key = rules.key := by
  cases change with
  | keep => simp [applyTo, forgotten, MovesFrom]
  | withdraw withdrawn owner =>
      have told : key ∈ (StoreChange.withdraw withdrawn owner).forgotten store ↔
          key = withdrawn ∧ (store.removeOwned withdrawn owner).2.isSome = true := by
        rw [forgotten]
        split
        · rename_i removed
          simp [removed]
        · rename_i kept
          simp [kept]
      rw [applyTo, RulesStore.mem_keys_removeOwned, told]
      simp [MovesFrom]
  | retain owners =>
      rw [applyTo, RulesStore.mem_keys_retainOwners sound.distinct, forgotten]
      simp [MovesFrom]
  | put rules =>
      rw [applyTo, RulesStore.mem_keys_upsert _ _ sound.distinct, forgotten, RulesStore.mem_keys_iff]
      by_cases here : key = rules.key
      · simp [here]
      · simp only [here, false_or, StoreChange.put.injEq, List.not_mem_nil, not_false_eq_true,
          true_and, exists_eq_left', or_false]
        constructor
        · rintro ⟨stored, found, foreign⟩
          refine ⟨⟨stored, found⟩, ?_⟩
          rintro ⟨_, other, same, again, owned, _⟩
          cases same
          rw [found, Option.some.injEq] at again
          exact foreign (again ▸ owned)
        · rintro ⟨⟨stored, found⟩, stays⟩
          refine ⟨stored, found, ?_⟩
          intro owned
          exact stays ⟨rules, stored, rfl, found, owned, here⟩

end StoreChange

def ReconcilerEvent.change : ReconcilerEvent → StoreChange
  | .reconcile object lookup now =>
    if !object.hasIdentity then .keep
    else if !object.spec.enabled then .withdraw object.targetKey object.objectRef
    else
      match lookup, object.toRules now with
      | .found, .ok rules => .put rules
      | _, _ => .keep
  | .cleanup object => .withdraw object.targetKey object.objectRef
  | .prune owners => .retain owners

namespace Reconciler

variable (reconciler : Reconciler)

def step (service : Service) : ReconcilerEvent → Service
  | .reconcile object lookup now => (reconciler.reconcile service object lookup now).1
  | .cleanup object => (reconciler.cleanup service object).1
  | .prune owners => (reconciler.prune service owners).1

def run (events : List ReconcilerEvent) : Service := events.foldl reconciler.step {}

theorem run_concat (events : List ReconcilerEvent) (event : ReconcilerEvent) :
    reconciler.run (events ++ [event]) = reconciler.step (reconciler.run events) event :=
  List.foldl_concat _ _ _ _

def forgetAll (keys : List String) (engine : Engine) : Engine :=
  keys.foldl (fun engine key => reconciler.forget key engine) engine

def apply (service : Service) (change : StoreChange) : Service :=
  { service with
    store := change.applyTo service.store
    engine := reconciler.forgetAll (change.forgotten service.store) service.engine }

theorem withdraw_eq (service : Service) (object : UrlPerformance) :
    (reconciler.withdraw service object).1 =
      reconciler.apply service (.withdraw object.targetKey object.objectRef) := by
  simp only [withdraw, apply, StoreChange.applyTo, StoreChange.forgotten]
  split
  · rfl
  · rfl

theorem step_eq (service : Service) (event : ReconcilerEvent) :
    reconciler.step service event = reconciler.apply service event.change := by
  cases event with
  | reconcile object lookup now =>
      simp only [step, reconcile, ReconcilerEvent.change]
      cases object.hasIdentity with
      | false => rfl
      | true =>
          cases object.spec.enabled with
          | false => exact reconciler.withdraw_eq service object
          | true =>
              cases lookup with
              | failed failure => rfl
              | missing => rfl
              | found =>
                  simp only [activate]
                  cases object.toRules now <;> rfl
  | cleanup object => exact reconciler.withdraw_eq service object
  | prune owners => rfl

@[simp] theorem step_store (service : Service) (event : ReconcilerEvent) :
    (reconciler.step service event).store = event.change.applyTo service.store := by
  rw [step_eq, apply]

end Reconciler

namespace UrlPerformance

theorem toRules_ok {object : UrlPerformance} {now : Timestamp} {rules : TargetRules}
    (made : object.toRules now = .ok rules) :
    rules.key = object.targetKey ∧ rules.owner = object.objectRef ∧ rules.IsKeyed := by
  obtain ⟨urlPatterns, whitelist, ignored, _, _, _, rfl⟩ := toRules_eq_ok made
  exact ⟨rfl, rfl, (targetKey_trimString _ _).symm⟩

def perf (name : String) (enabled : Bool) : UrlPerformance where
  metadata := { name := some "perf", namespaceName := some "shop" }
  spec := { target := { kind := .ingressRoute, name }, enabled }

end UrlPerformance

namespace ReconcilerEvent

theorem change_eq_put {event : ReconcilerEvent} {rules : TargetRules}
    (puts : event.change = .put rules) :
    ∃ object now, event = .reconcile object .found now ∧ object.hasIdentity = true ∧
      object.spec.enabled = true ∧ object.toRules now = .ok rules := by
  cases event with
  | reconcile object lookup now =>
      unfold change at puts
      cases identity : object.hasIdentity with
      | false => simp [identity] at puts
      | true =>
          cases enabled : object.spec.enabled with
          | false => simp [identity, enabled] at puts
          | true =>
              simp only [identity, enabled, Bool.not_true, Bool.false_eq_true, if_false] at puts
              split at puts
              · rename_i made
                cases puts
                exact ⟨object, now, rfl, identity, enabled, made⟩
              · contradiction
  | cleanup object => contradiction
  | prune owners => contradiction

theorem applyTo_sound {store : RulesStore} (sound : store.Sound) (event : ReconcilerEvent) :
    (event.change.applyTo store).Sound := by
  cases asked : event.change with
  | keep => exact sound
  | withdraw key owner => exact sound.removeOwned key owner
  | put rules =>
      obtain ⟨object, now, _, _, _, made⟩ := change_eq_put asked
      exact sound.upsert (UrlPerformance.toRules_ok made).2.2
  | retain owners => exact sound.retainOwners owners

theorem applyTo_compiled {store : RulesStore} (sound : store.Sound) (compiled : store.Compiled)
    (event : ReconcilerEvent) : (event.change.applyTo store).Compiled := by
  cases asked : event.change with
  | keep => exact compiled
  | withdraw key owner =>
      exact compiled.of_fewer fun other rules found =>
        ((store.get?_removeOwned key other owner rules).mp found).1
  | put rules =>
      obtain ⟨object, now, _, _, _, made⟩ := change_eq_put asked
      exact compiled.upsert sound.distinct (UrlPerformance.isCompiled_of_toRules made)
  | retain owners =>
      exact compiled.of_fewer fun key rules found =>
        ((RulesStore.get?_retainOwners sound.distinct owners key rules).mp found).1

end ReconcilerEvent

theorem Reconciler.run_store_sound (reconciler : Reconciler) (events : List ReconcilerEvent) :
    (reconciler.run events).store.Sound := by
  induction events using List.reverseRecOn with
  | nil => exact RulesStore.sound_empty
  | append_singleton events event ih =>
      rw [Reconciler.run_concat, Reconciler.step_store]
      exact event.applyTo_sound ih

theorem Reconciler.run_store_compiled (reconciler : Reconciler) (events : List ReconcilerEvent) :
    (reconciler.run events).store.Compiled := by
  induction events using List.reverseRecOn with
  | nil => simp [Reconciler.run, RulesStore.Compiled, RulesStore.get?]
  | append_singleton events event ih =>
      rw [Reconciler.run_concat, Reconciler.step_store]
      exact event.applyTo_compiled (reconciler.run_store_sound events) ih

end IngressMeter
