import IngressMeter.Proofs.Reconcile.Steps

/-!
An object that is disabled or deleted has its rules withdrawn from under the key of the target that
it names then. If the last version that was stored named another target its rules are left behind.
-/

namespace IngressMeter

namespace RulesStore

def ownedBy (store : RulesStore) (owner : String) : List TargetRules :=
  store.toList.filter fun rules => rules.owner = owner

theorem Sound.mem_ownedBy {store : RulesStore} (sound : store.Sound) {owner : String}
    {rules : TargetRules} :
    rules ∈ store.ownedBy owner ↔ store.get? rules.key = some rules ∧ rules.owner = owner := by
  simp only [ownedBy, toList, List.mem_filter, List.mem_map, decide_eq_true_eq]
  apply and_congr_left
  intro _
  constructor
  · rintro ⟨entry, member, rfl⟩
    have found : store.get? entry.1 = some entry.2 := Entries.lookup_of_mem sound.distinct member
    rw [sound.own entry.1 entry.2 found]
    exact found
  · intro found
    exact ⟨(rules.key, rules), Entries.mem_of_lookup found, rfl⟩

theorem Sound.ownedBy_removeOwned_eq_nil {store : RulesStore} (sound : store.Sound)
    (key owner : String) :
    (store.removeOwned key owner).1.ownedBy owner = [] ↔
      ∀ rules ∈ store.ownedBy owner, rules.key = key := by
  have left : ∀ rules, rules ∈ (store.removeOwned key owner).1.ownedBy owner ↔
      rules ∈ store.ownedBy owner ∧ rules.key ≠ key := by
    intro rules
    rw [(sound.removeOwned key owner).mem_ownedBy, sound.mem_ownedBy, get?_removeOwned]
    tauto
  rw [List.eq_nil_iff_forall_not_mem]
  simp only [left, not_and, not_not]

end RulesStore

namespace ReconcilerEvent

def lastKey? (owner : String) (events : List ReconcilerEvent) : Option String :=
  events.foldl
    (fun last event =>
      match event.change with
      | .put rules => if rules.owner = owner then some rules.key else last
      | _ => last)
    none

theorem lastKey?_concat (owner : String) (events : List ReconcilerEvent) (event : ReconcilerEvent) :
    lastKey? owner (events ++ [event]) =
      match event.change with
      | .put rules => if rules.owner = owner then some rules.key else lastKey? owner events
      | _ => lastKey? owner events := by
  rw [lastKey?, List.foldl_concat]
  rfl

end ReconcilerEvent

namespace Reconciler

variable (reconciler : Reconciler)

/-- An owner has rules under one key at most, the one under which its rules were last stored. -/
theorem run_lastKey? (events : List ReconcilerEvent) {key : String} {rules : TargetRules}
    (found : (reconciler.run events).store.get? key = some rules) :
    ReconcilerEvent.lastKey? rules.owner events = some key := by
  induction events using List.reverseRecOn with
  | nil => simp [run, RulesStore.get?] at found
  | append_singleton events event ih =>
      have sound := reconciler.run_store_sound events
      rw [run_concat, step_store] at found
      rw [ReconcilerEvent.lastKey?_concat]
      cases asked : event.change with
      | keep =>
          rw [asked] at found
          exact ih found
      | withdraw withdrawn owner =>
          rw [asked, StoreChange.applyTo, RulesStore.get?_removeOwned] at found
          exact ih found.1
      | retain owners =>
          rw [asked, StoreChange.applyTo, RulesStore.get?_retainOwners sound.distinct] at found
          exact ih found.1
      | put stored =>
          rw [asked, StoreChange.applyTo] at found
          dsimp only
          by_cases here : key = stored.key
          · obtain ⟨kept, same, lookup⟩ :=
              (reconciler.run events).store.get?_upsert_here stored
            rw [here] at found
            obtain rfl : kept = rules := Option.some.inj (lookup.symm.trans found)
            rw [if_pos same.owner.symm, here]
          · rw [RulesStore.get?_upsert_elsewhere _ _ sound.distinct here] at found
            rw [if_neg (Ne.symm found.2)]
            exact ih found.1

/-- Disabling or deleting an object leaves nothing of it in the store exactly if what it has there
is under the key of the target that it names now. What it has there is under the key that was last
stored. -/
theorem run_withdraw_leaves_nothing_iff (events : List ReconcilerEvent) (object : UrlPerformance)
    (lookup : TargetLookup) (now : Timestamp) :
    let before := reconciler.run events
    let disabled := (reconciler.reconcile before object lookup now).1
    let deleted := (reconciler.cleanup before object).1
    let owner := object.objectRef
    (object.hasIdentity = true → object.spec.enabled = false →
      (disabled.store.ownedBy owner = [] ↔
        ∀ rules ∈ before.store.ownedBy owner, rules.key = object.targetKey)) ∧
      (deleted.store.ownedBy owner = [] ↔
        ∀ rules ∈ before.store.ownedBy owner, rules.key = object.targetKey) ∧
      ∀ rules ∈ before.store.ownedBy owner,
        ReconcilerEvent.lastKey? owner events = some rules.key := by
  intro before disabled deleted owner
  have sound : before.store.Sound := reconciler.run_store_sound events
  have withdrawn := sound.ownedBy_removeOwned_eq_nil object.targetKey owner
  refine ⟨?_, ?_, ?_⟩
  · intro identity off
    have asked : (ReconcilerEvent.reconcile object lookup now).change =
        .withdraw object.targetKey owner := by
      simp [ReconcilerEvent.change, identity, off, owner]
    have store := reconciler.step_store before (.reconcile object lookup now)
    rw [asked] at store
    rw [show disabled.store = (before.store.removeOwned object.targetKey owner).1 from store]
    exact withdrawn
  · have store := reconciler.step_store before (.cleanup object)
    rw [show deleted.store = (before.store.removeOwned object.targetKey owner).1 from store]
    exact withdrawn
  · intro rules member
    obtain ⟨found, mine⟩ := sound.mem_ownedBy.mp member
    rw [← mine]
    exact reconciler.run_lastKey? events found

/-- Rules stored for one target stay when the object is disabled, or deleted, with another one. -/
theorem retargeted_then_withdrawn_keeps_rules :
    let service := run {} [.reconcile (.perf "web" true) .found (.ofSeconds 0)]
    let disabled := (reconcile {} service (.perf "api" false) .found (.ofSeconds 1)).1
    let deleted := (cleanup {} service (.perf "api" true)).1
    (UrlPerformance.perf "api" false).objectRef = "shop/perf" ∧
      (UrlPerformance.perf "api" true).objectRef = "shop/perf" ∧
      (disabled.store.ownedBy "shop/perf").map (·.key) = ["shop-web"] ∧
      (deleted.store.ownedBy "shop/perf").map (·.key) = ["shop-web"] := by
  decide +kernel

end Reconciler

end IngressMeter
