import IngressMeter.Proofs.Controller.Steps
import IngressMeter.Proofs.Rules.Relist

/-!
When all objects are listed again the store comes to hold the rules of the listed objects and nothing
else, whatever it held before and in whatever order they are listed. An object without a name or a
namespace is passed over.
-/

namespace IngressMeter

structure Listing where
  object : UrlPerformance
  answers : ApiAnswers
  now : Nat

namespace Listing

def step (item : Listing) : ControllerStep := .hear item.answers (.listed item.object) item.now

def rules? (item : Listing) : Option TargetRules :=
  (item.object.toRules (Controller.momentOf item.now)).toOption

/-- An object that is to be measured: its target exists and its patterns can be compiled. -/
structure Measurable (item : Listing) : Prop where
  enabled : item.object.spec.enabled = true
  targetExists : (Controller.send item.answers (Client.targetExists item.object.spec.target.kind
    item.object.targetNamespace item.object.spec.target.name)).2 = .ok true
  compiles : ∃ rules, item.rules? = some rules

theorem rules?_eq_some {item : Listing} {rules : TargetRules} :
    item.rules? = some rules ↔ item.object.toRules (Controller.momentOf item.now) = .ok rules := by
  rw [rules?]
  cases item.object.toRules (Controller.momentOf item.now) <;> simp [Except.toOption]

theorem Measurable.change {item : Listing} (measurable : item.Measurable)
    (identity : item.object.hasIdentity = true) {rules : TargetRules}
    (compiled : item.rules? = some rules) :
    (Controller.attempt item.answers item.object item.now).change = .put rules := by
  have found : (Controller.lookUp item.answers item.object).2 = .found := by
    have needed : Reconciler.needsLookup item.object = true := by
      simp [Reconciler.needsLookup, identity, measurable.enabled]
    simp only [Controller.lookUp, needed, if_true, measurable.targetExists, Controller.lookupOf]
  have made := rules?_eq_some.mp compiled
  simp [Controller.attempt, ReconcilerEvent.change, identity, measurable.enabled, found, made]

end Listing

structure Relist where
  answers : ApiAnswers
  began : Nat
  listed : List Listing
  ended : Nat

namespace Relist

def steps (relist : Relist) : List ControllerStep :=
  .hear relist.answers .listBegins relist.began :: relist.listed.map Listing.step ++
    [.hear relist.answers .listEnds relist.ended]

def objects (relist : Relist) : List UrlPerformance := relist.listed.map (·.object)

/-- Objects that are to be measured, each with an owner and a key of its own. -/
structure Measurable (relist : Relist) : Prop where
  each : ∀ item ∈ relist.listed, item.Measurable
  owners : (relist.objects.map (·.objectRef)).Nodup
  keys : (relist.objects.map (·.targetKey)).Nodup

end Relist

namespace Controller

variable (controller : Controller) (answers : ApiAnswers) (object : UrlPerformance) (now : Nat)

theorem settle_seen (result : Except ReconcileError PerformanceStatus) :
    (controller.settle object result now).seen = controller.seen := by
  cases result with
  | ok status => rfl
  | error error =>
      cases error with
      | missingMetadata => rfl
      | targetLookup kind namespaceName name failure =>
          simp only [settle, planRetry]
          split <;> rfl

theorem apply_seen : (controller.apply answers object now).1.seen = controller.seen := by
  simp only [apply]
  split <;> simp only [settle_seen]

def hearListed (items : List Listing) : Controller :=
  (items.map Listing.step).foldl ControllerStep.apply controller

theorem hearListed_concat (items : List Listing) (item : Listing) :
    controller.hearListed (items ++ [item]) =
      item.step.apply (controller.hearListed items) := by
  rw [hearListed, List.map_append, List.map_singleton, List.foldl_concat]
  rfl

theorem hearListed_seen (items : List Listing) (owner : String) :
    owner ∈ (controller.hearListed items).seen ↔
      owner ∈ controller.seen ∨ ∃ item ∈ items, item.object.objectRef = owner := by
  induction items using List.reverseRecOn with
  | nil => simp [hearListed]
  | append_singleton items item ih =>
      have heard : (controller.hearListed (items ++ [item])).seen =
          item.object.objectRef :: (controller.hearListed items).seen := by
        rw [hearListed_concat]
        exact apply_seen _ item.answers item.object item.now
      rw [heard, List.mem_cons, ih, eq_comm (a := owner)]
      simp only [List.mem_append, List.mem_singleton, or_and_right, exists_or, exists_eq_left]
      exact or_comm.trans or_assoc

theorem hearListed_store {items : List Listing} (measurable : ∀ item ∈ items, item.Measurable)
    (identity : ∀ item ∈ items, item.object.hasIdentity = true) :
    (controller.hearListed items).service.store =
      controller.service.store.upsertAll (items.filterMap Listing.rules?) := by
  induction items using List.reverseRecOn with
  | nil => rfl
  | append_singleton items item ih =>
      have before := ih (fun other member => measurable other (List.mem_append_left _ member))
        fun other member => identity other (List.mem_append_left _ member)
      have last : item ∈ items ++ [item] := by simp
      obtain ⟨rules, compiled⟩ := (measurable item last).compiles
      have puts := (measurable item last).change (identity item last) compiled
      have heard := (controller.hearListed items).onEvent_store item.answers item.now
        (.listed item.object)
      simp only [eventFor, puts, StoreChange.applyTo, before] at heard
      rw [hearListed_concat, List.filterMap_append, List.filterMap_cons, compiled]
      exact heard.trans (RulesStore.upsertAll_concat _ _ rules).symm

end Controller

namespace Relist

variable {relist : Relist}

def rules (relist : Relist) : List TargetRules := relist.listed.filterMap Listing.rules?

theorem mem_rules {rules : TargetRules} :
    rules ∈ relist.rules ↔ ∃ item ∈ relist.listed,
      item.object.toRules (Controller.momentOf item.now) = .ok rules := by
  simp only [Relist.rules, List.mem_filterMap, Listing.rules?_eq_some]

theorem exists_rules_iff (now : Timestamp) (key : String) (seen : TargetRules) :
    (∃ rules ∈ relist.rules, rules.key = key ∧ rules.timeless = seen) ↔
      ∃ object ∈ relist.objects, object.targetKey = key ∧
        (object.toRules now).map TargetRules.timeless = .ok seen := by
  have anyTime : ∀ (object : UrlPerformance) (earlier : Timestamp),
      (object.toRules earlier).map TargetRules.timeless =
        (object.toRules now).map TargetRules.timeless := by
    intro object earlier
    rw [object.toRules_later now earlier]
    cases object.toRules now <;> rfl
  constructor
  · rintro ⟨rules, member, rfl, rfl⟩
    obtain ⟨item, listed, made⟩ := mem_rules.mp member
    refine ⟨item.object, List.mem_map_of_mem listed, (UrlPerformance.toRules_ok made).1.symm, ?_⟩
    rw [← anyTime item.object (Controller.momentOf item.now), made]
    rfl
  · rintro ⟨object, member, rfl, made⟩
    obtain ⟨item, listed, rfl⟩ := List.mem_map.mp member
    rw [← anyTime item.object (Controller.momentOf item.now)] at made
    cases asked : item.object.toRules (Controller.momentOf item.now) with
    | error pattern =>
        rw [asked] at made
        contradiction
    | ok rules =>
        rw [asked] at made
        exact ⟨rules, mem_rules.mpr ⟨item, listed, asked⟩, (UrlPerformance.toRules_ok asked).1,
          Except.ok.inj made⟩

theorem isCompiled_of_mem {rules : TargetRules} (member : rules ∈ relist.rules) :
    rules.IsCompiled := by
  obtain ⟨item, _, made⟩ := mem_rules.mp member
  exact UrlPerformance.isCompiled_of_toRules made

theorem isKeyed_of_mem {rules : TargetRules} (member : rules ∈ relist.rules) : rules.IsKeyed := by
  obtain ⟨item, _, made⟩ := mem_rules.mp member
  exact (UrlPerformance.toRules_ok made).2.2

variable (measurable : relist.Measurable)

include measurable

theorem map_rules {view : TargetRules → String} {objectView : UrlPerformance → String}
    (same : ∀ object now rules, UrlPerformance.toRules object now = .ok rules →
      view rules = objectView object) :
    relist.rules.map view = relist.objects.map objectView := by
  have each := measurable.each
  rw [rules, objects, List.map_map]
  generalize relist.listed = listed at each
  induction listed with
  | nil => rfl
  | cons item rest ih =>
      obtain ⟨rules, compiled⟩ := (each item (by simp)).compiles
      have here := same item.object _ rules (Listing.rules?_eq_some.mp compiled)
      rw [List.filterMap_cons, compiled, List.map_cons, List.map_cons, here,
        ih fun other member => each other (List.mem_cons_of_mem _ member)]
      rfl

theorem map_owner : relist.rules.map (·.owner) = relist.objects.map (·.objectRef) :=
  map_rules measurable fun _ _ _ made => (UrlPerformance.toRules_ok made).2.1

theorem map_key : relist.rules.map (·.key) = relist.objects.map (·.targetKey) :=
  map_rules measurable fun _ _ _ made => (UrlPerformance.toRules_ok made).1

variable (identity : ∀ item ∈ relist.listed, item.object.hasIdentity = true)

include identity

theorem filled_hearListed {controller : Controller} (sound : controller.service.store.Sound)
    (compiled : controller.service.store.Compiled) :
    (controller.hearListed relist.listed).service.store.Filled relist.rules := by
  rw [Controller.hearListed_store _ measurable.each identity]
  refine RulesStore.filled_upsertAll sound compiled (fun _ => isKeyed_of_mem)
    (fun _ => isCompiled_of_mem) ?_ ?_
  · exact (map_owner measurable) ▸ measurable.owners
  · exact (map_key measurable) ▸ measurable.keys

/-- Behind the list, a store that had come about in the ordinary way has the listed rules only. -/
theorem get?_listEnds_iff (controller : Controller) (sound : controller.service.store.Sound)
    (compiled : controller.service.store.Compiled) (none : controller.seen = [])
    (key : String) (seen : TargetRules) :
    let heard := controller.hearListed relist.listed
    ((heard.service.store.retainOwners heard.seen).1.get? key).map TargetRules.timeless = some seen ↔
      ∃ rules ∈ relist.rules, rules.key = key ∧ rules.timeless = seen := by
  intro heard
  have owners : ∀ owner, owner ∈ heard.seen ↔ ∃ rules ∈ relist.rules, rules.owner = owner := by
    intro owner
    have listed : owner ∈ relist.rules.map (·.owner) ↔ owner ∈ relist.objects.map (·.objectRef) := by
      rw [map_owner measurable]
    rw [controller.hearListed_seen, none]
    simpa [objects] using listed.symm
  exact (filled_hearListed measurable identity sound compiled).get?_retainOwners_iff owners
    (fun _ => isCompiled_of_mem) key seen

end Relist

namespace ControllerStep

variable (isLeader : Bool) (history : List ControllerStep) {relist : Relist}

theorem run_relist_store :
    let heard := Controller.hearListed { run isLeader history with seen := [] } relist.listed
    (run isLeader (history ++ relist.steps)).service.store =
      (heard.service.store.retainOwners heard.seen).1 := by
  intro heard
  have split : run isLeader (history ++ relist.steps) =
      ControllerStep.apply heard (.hear relist.answers .listEnds relist.ended) := by
    rw [run, List.foldl_append, Relist.steps, List.foldl_append, List.foldl_cons]
    rfl
  rw [split]
  exact heard.onEvent_store relist.answers relist.ended .listEnds

theorem run_store_sound (steps : List ControllerStep) :
    (run isLeader steps).service.store.Sound := by
  obtain ⟨events, reached⟩ := run_store isLeader steps
  exact reached ▸ Reconciler.run_store_sound {} events

theorem run_store_compiled (steps : List ControllerStep) :
    (run isLeader steps).service.store.Compiled := by
  obtain ⟨events, reached⟩ := run_store isLeader steps
  exact reached ▸ Reconciler.run_store_compiled {} events

theorem run_relist_get?_iff (measurable : relist.Measurable)
    (identity : ∀ object ∈ relist.objects, object.hasIdentity = true) (now : Timestamp)
    (key : String) (seen : TargetRules) :
    ((run isLeader (history ++ relist.steps)).service.store.get? key).map TargetRules.timeless =
        some seen ↔
      ∃ object ∈ relist.objects, object.targetKey = key ∧
        (object.toRules now).map TargetRules.timeless = .ok seen := by
  have listed : ∀ item ∈ relist.listed, item.object.hasIdentity = true :=
    fun item member => identity item.object (List.mem_map_of_mem member)
  rw [run_relist_store, ← Relist.exists_rules_iff]
  exact Relist.get?_listEnds_iff measurable listed { run isLeader history with seen := [] }
    (run_store_sound isLeader history) (run_store_compiled isLeader history) rfl key seen

/-- Behind a list of objects with names, the store has the rules of each under the key of its target
and nothing else. But for the times of change they are the same whatever came before and in whatever
order the objects are listed. -/
theorem run_relist_converges (measurable : relist.Measurable)
    (identity : ∀ object ∈ relist.objects, object.hasIdentity = true) :
    let store := (run isLeader (history ++ relist.steps)).service.store
    store.keys.Perm (relist.objects.map (·.targetKey)) ∧
      (∀ object ∈ relist.objects, ∀ now, ∃ rules stored, object.toRules now = .ok rules ∧
        store.get? object.targetKey = some stored ∧ stored.sameRules rules = true ∧
        stored.timeless = rules.timeless) ∧
      ∀ otherLeads otherHistory (other : Relist), other.Measurable →
        other.objects.Perm relist.objects → ∀ key,
          let others := (run otherLeads (otherHistory ++ other.steps)).service.store
          (others.get? key).map TargetRules.timeless = (store.get? key).map TargetRules.timeless := by
  intro store
  have isListed := run_relist_get?_iff isLeader history measurable identity
  have asked : ∀ object ∈ relist.objects, ∀ now, ∃ rules, object.toRules now = .ok rules := by
    intro object member now
    obtain ⟨item, listed, rfl⟩ := List.mem_map.mp member
    obtain ⟨rules, compiled⟩ := (measurable.each item listed).compiles
    rw [item.object.toRules_later (Controller.momentOf item.now) now,
      Listing.rules?_eq_some.mp compiled]
    exact ⟨_, rfl⟩
  have present : ∀ object ∈ relist.objects, ∀ now, ∃ rules stored,
      object.toRules now = .ok rules ∧ store.get? object.targetKey = some stored ∧
        stored.timeless = rules.timeless := by
    intro object member now
    obtain ⟨rules, made⟩ := asked object member now
    have isStored := (isListed now object.targetKey rules.timeless).mpr
      ⟨object, member, rfl, by rw [made]; rfl⟩
    obtain ⟨stored, found, same⟩ := Option.map_eq_some_iff.mp isStored
    exact ⟨rules, stored, made, found, same⟩
  refine ⟨?_, ?_, ?_⟩
  · rw [List.perm_ext_iff_of_nodup (run_store_sound isLeader _).distinct measurable.keys]
    intro key
    rw [RulesStore.mem_keys_iff, List.mem_map]
    constructor
    · rintro ⟨stored, found⟩
      obtain ⟨object, member, here, _⟩ := (isListed (.ofSeconds 0) key stored.timeless).mp
        (by rw [found]; rfl)
      exact ⟨object, member, here⟩
    · rintro ⟨object, member, rfl⟩
      obtain ⟨_, stored, _, found, _⟩ := present object member (.ofSeconds 0)
      exact ⟨stored, found⟩
  · intro object member now
    obtain ⟨rules, stored, made, found, same⟩ := present object member now
    have contents : stored.timeless.contents = rules.timeless.contents :=
      congrArg TargetRules.contents same
    exact ⟨rules, stored, made, found, TargetRules.sameRules_iff.mpr contents, same⟩
  · intro otherLeads otherHistory other otherMeasurable permuted key
    have otherIdentity : ∀ object ∈ other.objects, object.hasIdentity = true :=
      fun object member => identity object (permuted.mem_iff.mp member)
    apply Option.ext
    intro seen
    rw [run_relist_get?_iff otherLeads otherHistory otherMeasurable otherIdentity (.ofSeconds 0),
      isListed (.ofSeconds 0)]
    simp only [permuted.mem_iff]

def allExist : ApiAnswers := fun _ => .answer 200 "\x7b\x7d"

theorem measurable_of_allExist {object : UrlPerformance} {now : Nat}
    (enabled : object.spec.enabled = true)
    (targetExists : (Controller.send allExist (Client.targetExists object.spec.target.kind
      object.targetNamespace object.spec.target.name)).2 = .ok true)
    (compiles : (Listing.mk object allExist now).rules?.isSome = true) :
    (Listing.mk object allExist now).Measurable :=
  ⟨enabled, targetExists, Option.isSome_iff_exists.mp compiles⟩

def perfNamed (name : Option String) (target : String) : UrlPerformance :=
  { UrlPerformance.perf target true with metadata := { name, namespaceName := some "shop" } }

theorem run_relist_converges_retargeted :
    let history : List ControllerStep := [.hear allExist (.changed (perfNamed (some "a") "web")) 0,
      .hear allExist .listBegins 1, .hear allExist (.listed (perfNamed (some "a") "api")) 2]
    let relist : Relist := ⟨allExist, 3,
      [⟨perfNamed (some "b") "api", allExist, 4⟩, ⟨perfNamed (some "a") "web", allExist, 5⟩], 6⟩
    let store := (run true (history ++ relist.steps)).service.store
    relist.Measurable ∧ (∀ object ∈ relist.objects, object.hasIdentity = true) ∧
      store.keys.Perm ["shop-api", "shop-web"] := by
  intro history relist store
  have measurable : relist.Measurable := by
    refine ⟨?_, by decide +kernel, by decide +kernel⟩
    simp only [relist, List.mem_cons, List.not_mem_nil, or_false, forall_eq_or_imp, forall_eq]
    exact ⟨measurable_of_allExist rfl (by decide +kernel) (by decide +kernel),
      measurable_of_allExist rfl (by decide +kernel) (by decide +kernel)⟩
  have identity : ∀ object ∈ relist.objects, object.hasIdentity = true := by decide +kernel
  have keys : relist.objects.map (·.targetKey) = ["shop-api", "shop-web"] := by decide +kernel
  exact ⟨measurable, identity, keys ▸ (run_relist_converges true history measurable identity).1⟩

/-- An object without a name has no rules behind a list, though its target exists. -/
theorem run_relist_nameless_missing :
    let relist : Relist := ⟨allExist, 0, [⟨perfNamed none "web", allExist, 1⟩], 2⟩
    relist.Measurable ∧ relist.objects.map (·.targetKey) = ["shop-web"] ∧
      (run true relist.steps).service.store.keys = [] := by
  intro relist
  refine ⟨⟨?_, by decide +kernel, by decide +kernel⟩, by decide +kernel, by decide +kernel⟩
  simp only [relist, List.mem_singleton, forall_eq]
  exact measurable_of_allExist rfl (by decide +kernel) (by decide +kernel)

end ControllerStep

end IngressMeter
