import IngressMeter.Proofs.Reconcile.Idempotence
import IngressMeter.Proofs.RouterName
import IngressMeter.Proofs.Rules.Relist
import Mathlib.Data.List.Nodup

/-!
Objects that are reconciled one after the other are all reported active, and each of them is measured
by its own rules as long as no two of them name the same key. The key does not tell the kind of a
target, nor where its namespace ends.
-/

namespace IngressMeter

structure Activation where
  object : UrlPerformance
  now : Timestamp
  rules : TargetRules
  identity : object.hasIdentity = true
  enabled : object.spec.enabled = true
  made : object.toRules now = .ok rules

namespace Activation

def of (name : String) (target : TargetReference) : Activation where
  object := { metadata := { name := some name, namespaceName := some "shop" }, spec := { target } }
  now := .ofSeconds 0
  rules := UrlPerformance.rulesWith
    { metadata := { name := some name, namespaceName := some "shop" }, spec := { target } } [] [] []
    (.ofSeconds 0)
  identity := rfl
  enabled := rfl
  made := rfl

def event (activation : Activation) : ReconcilerEvent :=
  .reconcile activation.object .found activation.now

theorem change_event (activation : Activation) : activation.event.change = .put activation.rules := by
  simp [event, ReconcilerEvent.change, activation.identity, activation.enabled, activation.made]

theorem key_rules (activation : Activation) :
    activation.rules.key = activation.object.targetKey :=
  (UrlPerformance.toRules_ok activation.made).1

theorem owner_rules (activation : Activation) :
    activation.rules.owner = activation.object.objectRef :=
  (UrlPerformance.toRules_ok activation.made).2.1

theorem kind_rules (activation : Activation) :
    activation.rules.kind = activation.object.spec.target.kind.toTargetKind := by
  obtain ⟨_, _, _, _, _, _, isMade⟩ := UrlPerformance.toRules_eq_ok activation.made
  rw [isMade]
  rfl

theorem enabled_rules (activation : Activation) : activation.rules.enabled = true := by
  obtain ⟨_, _, _, _, _, _, isMade⟩ := UrlPerformance.toRules_eq_ok activation.made
  rw [isMade]
  exact activation.enabled

end Activation

def PerformanceStatus.IsActive (status : PerformanceStatus) : Prop :=
  status.phase = .active ∧ status.States .ready .true "Ready" "Monitoring is active"

namespace UrlPerformance

def HasRulesIn (object : UrlPerformance) (store : RulesStore) : Prop :=
  ∃ stored, store.get? object.targetKey = some stored ∧ stored.owner = object.objectRef

def IsRoutedBy (object : UrlPerformance) (routerName : String) : Prop :=
  (RouterIdentity.decode routerName).kind = object.spec.target.kind.toTargetKind ∧
    (RouterIdentity.decode routerName).key? = some object.targetKey

end UrlPerformance

/-- Whether routers are made from the target of an object. -/
def RouterSource.IsTargetOf (source : RouterSource) (object : UrlPerformance) : Prop :=
  source.kind = object.spec.target.kind ∧
    source.namespaceName = trimString object.targetNamespace ∧
    source.targetName = trimString object.spec.target.name

instance (source : RouterSource) (object : UrlPerformance) :
    Decidable (source.IsTargetOf object) :=
  inferInstanceAs (Decidable (_ ∧ _ ∧ _))

theorem RouterSource.WellFormed.isRoutedBy {source : RouterSource} (wellFormed : source.WellFormed)
    {object : UrlPerformance} (isTarget : source.IsTargetOf object) :
    object.IsRoutedBy source.routerName := by
  obtain ⟨kind, namespaceName, targetName⟩ := isTarget
  obtain ⟨_, _, _, _, _, decoded⟩ := RouterSource.decode_eq wellFormed
  constructor
  · rw [decoded, kind]
  · rw [(RouterSource.decode_key? wellFormed).2, namespaceName, targetName, targetKey_trimString]
    rfl

theorem Activation.resolve_of_contents (activation : Activation) {store : RulesStore}
    {stored : TargetRules} (found : store.get? activation.object.targetKey = some stored)
    (same : stored.contents = activation.rules.contents) {routerName : String}
    (routed : activation.object.IsRoutedBy routerName) (format : LogFormat) :
    Processor.resolve ⟨format, .operator⟩ store routerName = .ok stored := by
  have kind : stored.kind = activation.rules.kind := congrArg (·.2.2.2.1) same
  have enabled : stored.enabled = activation.rules.enabled :=
    congrArg (·.2.2.2.2.2.2.2.2.2.2) same
  rw [activation.kind_rules, ← routed.1] at kind
  rw [activation.enabled_rules] at enabled
  simp [Processor.resolve, Processor.resolveStored, routed.2, found, kind, enabled]

namespace Reconciler

variable (reconciler : Reconciler)

theorem isActive_reconcile (service : Service) (activation : Activation) :
    ∃ status, (reconciler.reconcile service activation.object .found activation.now).2 = .ok status ∧
      status.IsActive := by
  have answered := reconciler.reconcile_found service activation.object activation.now
    activation.identity activation.enabled
  simp only [activate, activation.made] at answered
  rw [answered]
  exact ⟨_, rfl, rfl, Condition.states_set ..⟩

section Run

variable (events : List ReconcilerEvent) {activations : List Activation}

theorem run_activations_store (activations : List Activation) :
    (reconciler.run (events ++ activations.map Activation.event)).store =
      (reconciler.run events).store.upsertAll (activations.map (·.rules)) := by
  induction activations using List.reverseRecOn with
  | nil => rw [List.map_nil, List.append_nil, List.map_nil, RulesStore.upsertAll, List.foldl_nil]
  | append_singleton activations activation ih =>
      rw [List.map_append, List.map_singleton, ← List.append_assoc, run_concat, step_store,
        activation.change_event, StoreChange.applyTo, ih, List.map_append, List.map_singleton,
        RulesStore.upsertAll_concat]

variable (owners : (activations.map (·.object.objectRef)).Nodup)

include owners

theorem filled_run_activations (keys : (activations.map (·.object.targetKey)).Nodup) :
    (reconciler.run (events ++ activations.map Activation.event)).store.Filled
      (activations.map (·.rules)) := by
  have sameOwners : (activations.map (·.rules)).map (·.owner) =
      activations.map (·.object.objectRef) := by
    simp only [List.map_map, Function.comp_def, Activation.owner_rules]
  have sameKeys : (activations.map (·.rules)).map (·.key) =
      activations.map (·.object.targetKey) := by
    simp only [List.map_map, Function.comp_def, Activation.key_rules]
  rw [run_activations_store]
  refine RulesStore.filled_upsertAll (reconciler.run_store_sound events)
    (reconciler.run_store_compiled events) ?_ ?_ (sameOwners ▸ owners) (sameKeys ▸ keys)
  · intro rules member
    obtain ⟨activation, _, rfl⟩ := List.mem_map.mp member
    exact (UrlPerformance.toRules_ok activation.made).2.2
  · intro rules member
    obtain ⟨activation, _, rfl⟩ := List.mem_map.mp member
    exact UrlPerformance.isCompiled_of_toRules activation.made

theorem get?_run_activations (keys : (activations.map (·.object.targetKey)).Nodup)
    {activation : Activation} (member : activation ∈ activations) :
    ∃ stored, (reconciler.run (events ++ activations.map Activation.event)).store.get?
        activation.object.targetKey = some stored ∧
      stored.timeless = activation.rules.timeless ∧ stored.contents = activation.rules.contents := by
  have filled := reconciler.filled_run_activations events owners keys
  obtain ⟨stored, found, same⟩ := filled.has.stored activation.rules (List.mem_map_of_mem member)
  rw [activation.key_rules] at found
  exact ⟨stored, found, (filled.compiled _ stored found).timeless_eq
    (UrlPerformance.isCompiled_of_toRules activation.made) same, same⟩

theorem keys_nodup_of_hasRules {store : RulesStore}
    (kept : ∀ activation ∈ activations, activation.object.HasRulesIn store) :
    (activations.map (·.object.targetKey)).Nodup := by
  refine List.Nodup.map_on ?_ (List.Nodup.of_map _ owners)
  intro first isFirst second isSecond sameKey
  obtain ⟨stored, found, owner⟩ := kept first isFirst
  obtain ⟨others, foundToo, otherOwner⟩ := kept second isSecond
  rw [← sameKey, found, Option.some.injEq] at foundToo
  subst others
  exact List.inj_on_of_nodup_map owners isFirst isSecond (owner.symm.trans otherOwner)

end Run

/-- Whatever happened before, the objects are all reported active, and each has its rules in the
store afterwards exactly if no two of them name the same key. Then every router of a target leads to
the rules of its object. -/
theorem run_keeps_all_iff (events : List ReconcilerEvent) {activations : List Activation}
    (owners : (activations.map (·.object.objectRef)).Nodup) :
    let store := (reconciler.run (events ++ activations.map Activation.event)).store
    (∀ before activation after, activations = before ++ activation :: after →
        ∃ status, (reconciler.reconcile (reconciler.run (events ++ before.map Activation.event))
            activation.object .found activation.now).2 = .ok status ∧ status.IsActive) ∧
      ((∀ activation ∈ activations, activation.object.HasRulesIn store) ↔
        (activations.map (·.object.targetKey)).Nodup) ∧
      ((activations.map (·.object.targetKey)).Nodup → ∀ activation ∈ activations,
        ∃ stored, store.get? activation.object.targetKey = some stored ∧
          stored.timeless = activation.rules.timeless ∧
          ∀ (format : LogFormat) (routerName : String),
            activation.object.IsRoutedBy routerName ∨
                (∃ source : RouterSource, source.WellFormed ∧
                  source.IsTargetOf activation.object ∧ source.routerName = routerName) →
              Processor.resolve ⟨format, .operator⟩ store routerName = .ok stored) := by
  intro store
  refine ⟨?_, ⟨?_, ?_⟩, ?_⟩
  · intro before activation after _
    exact reconciler.isActive_reconcile _ activation
  · exact keys_nodup_of_hasRules owners
  · intro keys activation member
    obtain ⟨stored, found, _, same⟩ := reconciler.get?_run_activations events owners keys member
    refine ⟨stored, found, ?_⟩
    rw [← activation.owner_rules]
    exact congrArg (·.2.2.2.2.1) same
  · intro keys activation member
    obtain ⟨stored, found, timeless, same⟩ :=
      reconciler.get?_run_activations events owners keys member
    refine ⟨stored, found, timeless, ?_⟩
    intro format routerName routed
    have isRouted : activation.object.IsRoutedBy routerName := by
      rcases routed with routed | ⟨source, wellFormed, isTarget, rfl⟩
      · exact routed
      · exact wellFormed.isRoutedBy isTarget
    exact activation.resolve_of_contents found same isRouted format

theorem run_keeps_all_iff_swapped :
    let history := [(Activation.of "a" { name := "api" }).event]
    let activations := [Activation.of "a" { kind := .ingressRoute, name := "web" },
      Activation.of "b" { kind := .ingressRoute, name := "api" }]
    let store := (run {} (history ++ activations.map Activation.event)).store
    (activations.map (·.object.objectRef)).Nodup ∧
      (activations.map (·.object.targetKey)).Nodup ∧
      (∀ activation ∈ activations, activation.object.HasRulesIn store) ∧
      ∃ stored, Processor.resolve ⟨.json, .operator⟩ store "shop-api-0123456789ab@kubernetescrd" =
        .ok stored ∧ stored.owner = "shop/b" := by
  intro history activations store
  have owners : (activations.map (·.object.objectRef)).Nodup := by decide +kernel
  have keys : (activations.map (·.object.targetKey)).Nodup := by decide +kernel
  obtain ⟨_, kept, resolves⟩ := run_keeps_all_iff {} history owners
  refine ⟨owners, keys, kept.mpr keys, ?_⟩
  obtain ⟨stored, _, same, leads⟩ :=
    resolves keys (Activation.of "b" { kind := .ingressRoute, name := "api" }) (by simp [activations])
  refine ⟨stored, leads .json _ (Or.inl ⟨by decide +kernel, by decide +kernel⟩), ?_⟩
  exact (congrArg (fun rules : TargetRules => rules.owner) same :).trans (by decide +kernel)

/-- A target of another kind, or one whose name begins where the namespace of the other ends, has the
same key: its object takes the rules away, and the routers of the first target lead to none, or to
those of the other object. -/
theorem sharedKey_loses_rules :
    let activations := [Activation.of "a" { kind := .ingressRoute, name := "web" },
      Activation.of "b" { kind := .ingress, name := "web" },
      Activation.of "c" { name := "a-b", namespaceName := some "shop" },
      Activation.of "d" { name := "b", namespaceName := some "shop-a" }]
    let store := (run {} (activations.map Activation.event)).store
    let route : RouterSource :=
      { kind := .ingressRoute, namespaceName := "shop", targetName := "web", hash := "0123456789ab" }
    let router : RouterSource :=
      { kind := .ingress, entryPoint := "web", namespaceName := "shop", targetName := "a-b"
        hash := "0123456789ab" }
    (activations.map (·.object.objectRef)).Nodup ∧
      (activations.map fun activation => (activation.object.spec.target.kind,
        activation.object.targetNamespace, activation.object.spec.target.name)).Nodup ∧
      activations.map (·.object.targetKey) = ["shop-web", "shop-web", "shop-a-b", "shop-a-b"] ∧
      (store.get? "shop-web").map (·.owner) = some "shop/b" ∧
      (store.get? "shop-a-b").map (·.owner) = some "shop/d" ∧
      route.IsTargetOf (Activation.of "a" { kind := .ingressRoute, name := "web" }).object ∧
      (Processor.resolve ⟨.common, .operator⟩ store route.routerName).map (·.owner) =
        .error .kindMismatch ∧
      router.IsTargetOf (Activation.of "c" { name := "a-b", namespaceName := some "shop" }).object ∧
      (Processor.resolve ⟨.common, .operator⟩ store router.routerName).map (·.owner) =
        .ok "shop/d" := by
  decide +kernel

end Reconciler

end IngressMeter
