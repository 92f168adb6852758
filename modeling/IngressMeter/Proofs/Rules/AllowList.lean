import IngressMeter.Rules.AllowList
import Mathlib.Data.List.Nodup
import Mathlib.Data.List.Perm.Basic

/-!
What the order of a fixed list of services decides. It never decides whether a router is rejected.
It decides which service a router belongs to exactly where the name of the router cannot be decoded
and begins with the keys of more than one service: such a router belongs to the first of them.
-/

namespace IngressMeter

section Find

variable {α : Type} [DecidableEq α] {accept : α → Bool} {list : List α}

theorem exists_perm_find? {item : α} (isIn : item ∈ list) (accepted : accept item = true) :
    ∃ other : List α, other.Perm list ∧ other.find? accept = some item :=
  ⟨item :: list.erase item, (List.perm_cons_erase isIn).symm, List.find?_cons_of_pos accepted⟩

theorem find?_perm_iff :
    (∀ other : List α, other.Perm list → other.find? accept = list.find? accept) ↔
      ∀ first ∈ list, ∀ second ∈ list, accept first = true → accept second = true →
        first = second := by
  constructor
  · intro same first isFirst second isSecond accepted accepted'
    obtain ⟨order, perm, found⟩ := exists_perm_find? isFirst accepted
    obtain ⟨order', perm', found'⟩ := exists_perm_find? isSecond accepted'
    rw [same order perm] at found
    rw [same order' perm', found] at found'
    exact Option.some.inj found'
  · intro unique other perm
    cases found : list.find? accept with
    | none =>
        rw [List.find?_eq_none] at found ⊢
        exact fun item isIn => found item (perm.subset isIn)
    | some item =>
        have isIn := List.mem_of_find?_eq_some found
        have accepted := List.find?_some found
        obtain ⟨item', found'⟩ : ∃ item', other.find? accept = some item' := by
          rw [← Option.isSome_iff_exists, List.find?_isSome]
          exact ⟨item, perm.symm.subset isIn, accepted⟩
        have isIn' := perm.subset (List.mem_of_find?_eq_some found')
        rw [found', unique item' isIn' item isIn (List.find?_some found') accepted]

end Find

/-- Whether a router may belong to a service: if its name can be decoded, to that of its key, and
otherwise to each whose key its name begins with. -/
def AllowedService.mayOwn (service : AllowedService) (routerName : String) : Bool :=
  match (RouterIdentity.decode routerName).key? with
  | some key => service.key = key
  | none => !service.key.isEmpty && service.key.toList.isPrefixOf routerName.toList

namespace ServiceConfig

def withServices (config : ServiceConfig) (services : List AllowedService) : ServiceConfig :=
  { config with allowedServices := services }

def attribution (config : ServiceConfig) (routerName : String) : Except Rejection String :=
  (config.compile.lookup routerName).map (·.key)

theorem key_rulesOf (config : ServiceConfig) (service : AllowedService) :
    (config.rulesOf service).key = service.key := rfl

section Attribution

variable (config : ServiceConfig) (routerName : String)

theorem find?_compile : config.compile.find? routerName =
    (config.allowedServices.find? (·.mayOwn routerName)).map config.rulesOf := by
  unfold AllowList.find? AllowedService.mayOwn
  cases (RouterIdentity.decode routerName).key? with
  | none => simp only [compile, List.find?_map, Function.comp_def, key_rulesOf]
  | some key =>
      simp only [compile, List.find?_map, Function.comp_def, key_rulesOf]
      rfl

theorem attribution_of_ignored (ignored : config.compile.isIgnored routerName = true) :
    config.attribution routerName = .error .ignoredRouter := by
  rw [attribution, AllowList.lookup, if_pos ignored]
  rfl

theorem attribution_of_unignored (unignored : config.compile.isIgnored routerName = false) :
    config.attribution routerName =
      match config.allowedServices.find? (·.mayOwn routerName) with
      | some service => .ok service.key
      | none => .error .notAllowed := by
  rw [attribution, AllowList.lookup, if_neg (Bool.not_eq_true _ ▸ unignored), find?_compile]
  cases config.allowedServices.find? (·.mayOwn routerName) with
  | none => rfl
  | some service => rfl

end Attribution

section Order

variable {config : ServiceConfig} {routerName : String} {services : List AllowedService}

theorem attribution_eq_error_iff (perm : services.Perm config.allowedServices)
    (rejection : Rejection) :
    (config.withServices services).attribution routerName = .error rejection ↔
      config.attribution routerName = .error rejection := by
  cases ignored : config.compile.isIgnored routerName with
  | true =>
      rw [attribution_of_ignored config routerName ignored,
        attribution_of_ignored (config.withServices services) routerName ignored]
  | false =>
      have none_iff : services.find? (·.mayOwn routerName) = none ↔
          config.allowedServices.find? (·.mayOwn routerName) = none := by
        simp only [List.find?_eq_none, perm.mem_iff]
      rw [attribution_of_unignored config routerName ignored,
        attribution_of_unignored (config.withServices services) routerName ignored, withServices]
      cases found : config.allowedServices.find? (·.mayOwn routerName) with
      | none => rw [none_iff.mpr found]
      | some service =>
          obtain ⟨other, found'⟩ : ∃ other, services.find? (·.mayOwn routerName) = some other := by
            rw [← Option.ne_none_iff_exists', ne_eq, none_iff, found]
            exact Option.some_ne_none service
          rw [found']
          simp

/-- Services with different keys are told apart by them. -/
theorem attribution_eq_iff (distinct : (config.allowedServices.map (·.key)).Nodup)
    (unignored : config.compile.isIgnored routerName = false)
    (perm : services.Perm config.allowedServices) :
    (config.withServices services).attribution routerName = config.attribution routerName ↔
      services.find? (·.mayOwn routerName) =
        config.allowedServices.find? (·.mayOwn routerName) := by
  rw [attribution_of_unignored config routerName unignored,
    attribution_of_unignored (config.withServices services) routerName unignored, withServices]
  cases found' : services.find? (·.mayOwn routerName) with
  | none => cases config.allowedServices.find? (·.mayOwn routerName) <;> simp
  | some service' =>
      cases found : config.allowedServices.find? (·.mayOwn routerName) with
      | none => simp
      | some service =>
          have isIn' := perm.subset (List.mem_of_find?_eq_some found')
          have isIn := List.mem_of_find?_eq_some found
          rw [Except.ok.injEq, Option.some.injEq]
          exact ⟨List.inj_on_of_nodup_map distinct isIn' isIn, congrArg _⟩

end Order

end ServiceConfig

def AllowedService.IsNamedBy (service : AllowedService) (routerName : String) : Prop :=
  service.key ≠ "" ∧ service.key.toList <+: routerName.toList

theorem AllowedService.mayOwn_of_decoded {routerName key : String}
    (decoded : (RouterIdentity.decode routerName).key? = some key) (service : AllowedService) :
    service.mayOwn routerName = true ↔ service.key = key := by
  rw [mayOwn, decoded, decide_eq_true_eq]

theorem AllowedService.mayOwn_of_undecoded {routerName : String}
    (undecoded : (RouterIdentity.decode routerName).key? = none) (service : AllowedService) :
    service.mayOwn routerName = true ↔ service.IsNamedBy routerName := by
  rw [mayOwn, undecoded, Bool.and_eq_true, List.isPrefixOf_iff_prefix, IsNamedBy]
  simp

namespace ServiceConfig

theorem attribution_of_named {config : ServiceConfig} {routerName : String}
    (unignored : config.compile.isIgnored routerName = false)
    (undecoded : (RouterIdentity.decode routerName).key? = none)
    {before after : List AllowedService} {service : AllowedService}
    (split : config.allowedServices = before ++ service :: after)
    (named : service.IsNamedBy routerName)
    (isFirst : ∀ earlier ∈ before, ¬earlier.IsNamedBy routerName) :
    config.attribution routerName = .ok service.key := by
  have found : config.allowedServices.find? (·.mayOwn routerName) = some service := by
    rw [List.find?_eq_some_iff_append]
    refine ⟨(service.mayOwn_of_undecoded undecoded).mpr named, before, after, split, ?_⟩
    intro earlier isIn
    rw [Bool.not_eq_true', ← Bool.not_eq_true, earlier.mayOwn_of_undecoded undecoded]
    exact isFirst earlier isIn
  rw [attribution_of_unignored config routerName unignored, found]

/-- Where the allowed services have different keys, no order of them rejects a router that another
one admits, or rejects it for another reason. All orders lead to the same service exactly if the
router is ignored, or its name can be decoded, or it begins with the key of one service at most;
otherwise the router belongs to the first service with whose key its name begins. -/
theorem attribution_perm_iff (config : ServiceConfig)
    (distinct : (config.allowedServices.map (·.key)).Nodup) (routerName : String) :
    let isIgnored := config.compile.isIgnored routerName
    let key? := (RouterIdentity.decode routerName).key?
    (∀ services rejection, services.Perm config.allowedServices →
      ((config.withServices services).attribution routerName = .error rejection ↔
        config.attribution routerName = .error rejection)) ∧
    ((∀ services, services.Perm config.allowedServices →
        (config.withServices services).attribution routerName = config.attribution routerName) ↔
      isIgnored = true ∨ key?.isSome = true ∨
        ∀ first ∈ config.allowedServices, ∀ second ∈ config.allowedServices,
          first.IsNamedBy routerName → second.IsNamedBy routerName → first = second) ∧
    (isIgnored = false → key? = none → ∀ before service after,
      config.allowedServices = before ++ service :: after → service.IsNamedBy routerName →
        (∀ earlier ∈ before, ¬earlier.IsNamedBy routerName) →
          config.attribution routerName = .ok service.key) := by
  intro isIgnored key?
  refine ⟨fun services rejection perm => attribution_eq_error_iff perm rejection, ?_,
    fun unignored undecoded before service after => attribution_of_named unignored undecoded⟩
  cases ignored : config.compile.isIgnored routerName with
  | true =>
      refine ⟨fun _ => Or.inl ignored, fun _ services _ => ?_⟩
      rw [attribution_of_ignored config routerName ignored,
        attribution_of_ignored (config.withServices services) routerName ignored]
  | false =>
      have sameFound : (∀ services, services.Perm config.allowedServices →
          (config.withServices services).attribution routerName = config.attribution routerName) ↔
          ∀ services : List AllowedService, services.Perm config.allowedServices →
            services.find? (·.mayOwn routerName) =
              config.allowedServices.find? (·.mayOwn routerName) :=
        forall₂_congr fun _ perm => attribution_eq_iff distinct ignored perm
      rw [sameFound, find?_perm_iff]
      cases decoded : (RouterIdentity.decode routerName).key? with
      | some key =>
          simp only [AllowedService.mayOwn_of_decoded decoded]
          refine ⟨fun _ => Or.inr (Or.inl (by simp [key?, decoded])), ?_⟩
          intro _ first isFirst second isSecond sameKey sameKey'
          exact List.inj_on_of_nodup_map distinct isFirst isSecond (sameKey.trans sameKey'.symm)
      | none =>
          simp [isIgnored, key?, ignored, decoded, AllowedService.mayOwn_of_undecoded decoded]

theorem attribution_perm_iff_api :
    let config : ServiceConfig := { allowedServices := [⟨"web", "shop"⟩, ⟨" api ", "shop"⟩] }
    let routerName := "shop-api-example-com@kubernetes"
    (config.allowedServices.map (·.key)).Nodup ∧
      (RouterIdentity.decode routerName).key? = none ∧
      (config.withServices config.allowedServices.reverse).attribution routerName =
        config.attribution routerName ∧
      config.attribution routerName = .ok "shop-api" := by
  intro config routerName
  have distinct : (config.allowedServices.map (·.key)).Nodup := by decide +kernel
  have undecoded : (RouterIdentity.decode routerName).key? = none := by decide +kernel
  obtain ⟨_, same_iff, first⟩ := attribution_perm_iff config distinct routerName
  have notWeb : ¬(⟨"web", "shop"⟩ : AllowedService).IsNamedBy routerName := by
    rintro ⟨_, isPrefix⟩
    exact absurd isPrefix (by decide +kernel)
  have isApi : (⟨" api ", "shop"⟩ : AllowedService).IsNamedBy routerName :=
    ⟨by decide +kernel, by decide +kernel⟩
  refine ⟨distinct, undecoded, same_iff.mpr (Or.inr (Or.inr ?_)) _ (List.reverse_perm _), ?_⟩
  · simp [config, notWeb]
  · have attributed := first (by decide +kernel) undecoded [⟨"web", "shop"⟩] ⟨" api ", "shop"⟩ []
      rfl isApi (by simpa using notWeb)
    exact attributed.trans (by decide +kernel)

/-- One key begins with the other, and the name of the router with both. -/
theorem sharedStart_attributed_by_order :
    let services : List AllowedService := [⟨"web", "shop"⟩, ⟨"web-api", "shop"⟩]
    let config : ServiceConfig := { allowedServices := services }
    let routerName := "shop-web-api-example-com@kubernetes"
    (services.map (·.key)).Nodup ∧ services.reverse.Perm services ∧
      config.attribution routerName = .ok "shop-web" ∧
      (config.withServices services.reverse).attribution routerName = .ok "shop-web-api" := by
  decide +kernel

end ServiceConfig

end IngressMeter
