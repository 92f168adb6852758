import IngressMeter.Proofs.Rules.Contents
import Mathlib.Data.List.Induction

/-!
Where the rules in a store come from. Whatever is stored and removed, in any order, all rules stand
under their own key and no owner has two sets of them. The rules of a key are those that began the
series of equal rules stored under it since, so the time of their last change is the time of the
first of that series.
-/

namespace IngressMeter

inductive StoreStep where
  | upsert (rules : TargetRules)
  | remove (key : String)
  | removeOwned (key owner : String)
  | retainOwners (owners : List String)

structure RulesStore.Orderly (store : RulesStore) : Prop where
  distinct : store.keys.Nodup
  own : ∀ key rules, store.get? key = some rules → rules.key = key
  single : ∀ first second rules other, store.get? first = some rules →
    store.get? second = some other → rules.owner = other.owner → first = second

namespace RulesStore

theorem orderly_empty : ({} : RulesStore).Orderly where
  distinct := List.nodup_nil
  own := by simp [get?]
  single := by simp [get?]

theorem Orderly.of_fewer {store smaller : RulesStore} (orderly : store.Orderly)
    (distinct : smaller.keys.Nodup)
    (fewer : ∀ key rules, smaller.get? key = some rules → store.get? key = some rules) :
    smaller.Orderly where
  distinct := distinct
  own := fun key rules found => orderly.own key rules (fewer key rules found)
  single := fun first second rules other found isOther =>
    orderly.single first second rules other (fewer first rules found) (fewer second other isOther)

section Upsert

variable {store : RulesStore} (orderly : store.Orderly) (rules : TargetRules)

include orderly

theorem Orderly.get?_dropMoved_here :
    (store.dropMoved rules).get? rules.key = store.get? rules.key := by
  ext stored
  simp [store.get?_dropMoved rules orderly.distinct]

theorem Orderly.get?_upsert_of_differs
    (differs : ∀ stored, store.get? rules.key = some stored → stored.sameRules rules = false) :
    (store.upsert rules).1.get? rules.key = some rules := by
  obtain inserted | ⟨stored, found, alike, _⟩ := store.upsert_cases rules
  · rw [inserted, get?_insert, if_pos rfl]
  · rw [orderly.get?_dropMoved_here] at found
    rw [differs stored found] at alike
    contradiction

theorem Orderly.get?_upsert_of_alike {stored : TargetRules}
    (found : store.get? rules.key = some stored) (alike : stored.sameRules rules = true) :
    (store.upsert rules).1.get? rules.key = some stored := by
  rw [← orderly.get?_dropMoved_here] at found
  simp only [upsert, found, alike, if_true]

theorem Orderly.get?_upsert (key : String) (found : TargetRules) :
    (store.upsert rules).1.get? key = some found ↔
      (store.get? key = some found ∧
        if rules.key = key then found.sameRules rules = true else found.owner ≠ rules.owner) ∨
      (found = rules ∧ rules.key = key ∧
        ∀ stored, store.get? key = some stored → stored.sameRules rules = false) := by
  by_cases here : rules.key = key
  · subst key
    rw [if_pos rfl]
    by_cases kept : ∃ stored, store.get? rules.key = some stored ∧ stored.sameRules rules = true
    · obtain ⟨stored, isStored, alike⟩ := kept
      rw [orderly.get?_upsert_of_alike rules isStored alike, isStored, Option.some.injEq]
      constructor
      · rintro rfl
        exact Or.inl ⟨rfl, alike⟩
      · rintro (⟨same, _⟩ | ⟨_, _, differs⟩)
        · exact same
        · rw [differs stored rfl] at alike
          contradiction
    · have differs : ∀ stored, store.get? rules.key = some stored →
          stored.sameRules rules = false := by
        intro stored isStored
        rw [Bool.eq_false_iff]
        exact fun alike => kept ⟨stored, isStored, alike⟩
      rw [orderly.get?_upsert_of_differs rules differs, Option.some.injEq]
      constructor
      · rintro rfl
        exact Or.inr ⟨rfl, rfl, differs⟩
      · rintro (⟨isStored, alike⟩ | ⟨same, _⟩)
        · exact absurd ⟨found, isStored, alike⟩ kept
        · exact same.symm
  · simp [store.get?_upsert_elsewhere rules orderly.distinct (Ne.symm here), here]

theorem Orderly.upsert : (store.upsert rules).1.Orderly := by
  -- What is stored after an update belongs to another owner or stands under the key of the rules.
  have entry : ∀ key stored, (store.upsert rules).1.get? key = some stored →
      stored.key = key ∧ (store.get? key = some stored ∧ stored.owner ≠ rules.owner ∨
        key = rules.key ∧ stored.owner = rules.owner) := by
    intro key stored found
    rcases (orderly.get?_upsert rules key stored).mp found with
      ⟨before, kept⟩ | ⟨rfl, rfl, _⟩
    · refine ⟨orderly.own key stored before, ?_⟩
      split at kept
      · rename_i here
        exact Or.inr ⟨here.symm, (TargetRules.sameTarget_of_sameRules kept).owner⟩
      · exact Or.inl ⟨before, kept⟩
    · exact ⟨rfl, Or.inr ⟨rfl, rfl⟩⟩
  refine ⟨store.keys_upsert_nodup rules orderly.distinct,
    fun key stored found => (entry key stored found).1, ?_⟩
  intro first second stored other found isOther sameOwner
  rcases (entry first stored found).2 with ⟨before, foreign⟩ | ⟨here, own⟩
  · rcases (entry second other isOther).2 with ⟨otherBefore, _⟩ | ⟨_, otherOwn⟩
    · exact orderly.single first second stored other before otherBefore sameOwner
    · exact absurd (sameOwner.trans otherOwn) foreign
  · rcases (entry second other isOther).2 with ⟨_, otherForeign⟩ | ⟨otherHere, _⟩
    · exact absurd (sameOwner.symm.trans own) otherForeign
    · exact here.trans otherHere.symm

end Upsert

theorem Orderly.erase {store : RulesStore} (orderly : store.Orderly) (key : String) :
    (store.erase key).Orderly := by
  refine orderly.of_fewer (keys_filter_nodup orderly.distinct _) ?_
  intro other rules found
  rw [get?_erase] at found
  split at found
  · contradiction
  · exact found

theorem Orderly.removeOwned {store : RulesStore} (orderly : store.Orderly) (key owner : String) :
    (store.removeOwned key owner).1.Orderly :=
  orderly.of_fewer (keys_removeOwned_nodup orderly.distinct key owner) fun _ rules found =>
    ((store.get?_removeOwned _ _ _ rules).mp found).1

theorem Orderly.retainOwners {store : RulesStore} (orderly : store.Orderly)
    (owners : List String) : (store.retainOwners owners).1.Orderly :=
  orderly.of_fewer (keys_retainOwners_nodup orderly.distinct owners) fun key rules found =>
    ((get?_retainOwners orderly.distinct owners key rules).mp found).1

theorem Orderly.keys_eq {store : RulesStore} (orderly : store.Orderly) :
    store.keys = store.toList.map (·.key) := by
  rw [keys, toList, List.map_map]
  apply List.map_congr_left
  intro entry member
  exact (orderly.own entry.1 entry.2 (Entries.lookup_of_mem orderly.distinct member)).symm

theorem Orderly.owners_nodup {store : RulesStore} (orderly : store.Orderly) :
    (store.toList.map (·.owner)).Nodup := by
  have distinct : store.entries.Nodup := List.Nodup.of_map _ orderly.distinct
  rw [toList, List.map_map]
  refine (List.nodup_map_iff_inj_on distinct).mpr ?_
  intro first isFirst second isSecond same
  have found : store.get? first.1 = some first.2 := Entries.lookup_of_mem orderly.distinct isFirst
  have isOther : store.get? second.1 = some second.2 :=
    Entries.lookup_of_mem orderly.distinct isSecond
  have sameKey := orderly.single _ _ _ _ found isOther same
  rw [sameKey, isOther, Option.some.injEq] at found
  exact Prod.ext sameKey found.symm

end RulesStore

namespace StoreStep

def apply (store : RulesStore) : StoreStep → RulesStore
  | upsert rules => (store.upsert rules).1
  | remove key => (store.remove key).1
  | removeOwned key owner => (store.removeOwned key owner).1
  | retainOwners owners => (store.retainOwners owners).1

def run (steps : List StoreStep) : RulesStore := steps.foldl apply {}

theorem run_concat (steps : List StoreStep) (step : StoreStep) :
    run (steps ++ [step]) = apply (run steps) step :=
  List.foldl_concat _ _ _ _

/-- Whether a step takes rules out of a store or puts others in their place. -/
def Ends (rules : TargetRules) : StoreStep → Prop
  | upsert other =>
    if other.key = rules.key then rules.sameRules other = false else other.owner = rules.owner
  | remove key => key = rules.key
  | removeOwned key owner => key = rules.key ∧ owner = rules.owner
  | retainOwners owners => rules.owner ∉ owners

/-- Whether rules that were stored behind `before` began the series of equal rules that has gone on
through `after`. -/
def Begins (rules : TargetRules) (before after : List StoreStep) : Prop :=
  (∀ step ∈ after, ¬step.Ends rules) ∧
    ∀ earlier other between, before = earlier ++ .upsert other :: between →
      other.sameRules rules = true → ∃ step ∈ between, step.Ends rules

theorem ends_congr {rules other : TargetRules} (alike : other.sameRules rules = true)
    (step : StoreStep) : step.Ends other ↔ step.Ends rules := by
  have same := TargetRules.sameTarget_of_sameRules alike
  rw [TargetRules.sameRules_iff] at alike
  cases step with
  | upsert stored =>
      simp only [Ends, same.key, same.owner, Bool.eq_false_iff, ne_eq, TargetRules.sameRules_iff,
        alike]
  | remove key => simp only [Ends, same.key]
  | removeOwned key owner => simp only [Ends, same.key, same.owner]
  | retainOwners owners => simp only [Ends, same.owner]

variable {store : RulesStore} (orderly : store.Orderly)

include orderly

theorem orderly_apply (step : StoreStep) : (step.apply store).Orderly := by
  cases step with
  | upsert rules => exact orderly.upsert rules
  | remove key => exact orderly.erase key
  | removeOwned key owner => exact orderly.removeOwned key owner
  | retainOwners owners => exact orderly.retainOwners owners

theorem get?_apply (step : StoreStep) (key : String) (rules : TargetRules) :
    (step.apply store).get? key = some rules ↔
      (store.get? key = some rules ∧ ¬step.Ends rules) ∨
      (step = .upsert rules ∧ rules.key = key ∧
        ∀ stored, store.get? key = some stored → stored.sameRules rules = false) := by
  cases step with
  | upsert other =>
      rw [apply, orderly.get?_upsert, StoreStep.upsert.injEq]
      have sameEnd : store.get? key = some rules →
          ((if other.key = key then rules.sameRules other = true else rules.owner ≠ other.owner) ↔
            ¬(upsert other).Ends rules) := by
        intro found
        simp only [Ends, orderly.own key rules found]
        split
        · simp
        · exact not_congr eq_comm
      constructor
      · rintro (⟨found, kept⟩ | ⟨rfl, here, differs⟩)
        · exact Or.inl ⟨found, (sameEnd found).mp kept⟩
        · exact Or.inr ⟨rfl, here, differs⟩
      · rintro (⟨found, kept⟩ | ⟨rfl, here, differs⟩)
        · exact Or.inl ⟨found, (sameEnd found).mpr kept⟩
        · exact Or.inr ⟨rfl, here, differs⟩
  | remove erased =>
      simp only [apply, RulesStore.remove, RulesStore.get?_erase, reduceCtorEq, false_and, or_false]
      constructor
      · intro found
        split at found
        · contradiction
        · rename_i different
          refine ⟨found, fun same => different ?_⟩
          rw [← orderly.own key rules found]
          exact Eq.symm same
      · rintro ⟨found, kept⟩
        rw [if_neg, found]
        rintro rfl
        exact kept (orderly.own key rules found).symm
  | removeOwned erased owner =>
      simp only [apply, RulesStore.get?_removeOwned, reduceCtorEq, false_and, or_false]
      apply and_congr_right
      intro found
      rw [Ends, orderly.own key rules found]
      tauto
  | retainOwners owners =>
      simp only [apply, RulesStore.get?_retainOwners orderly.distinct, reduceCtorEq, false_and,
        or_false, Ends, not_not]

omit orderly

theorem run_orderly (steps : List StoreStep) : (run steps).Orderly := by
  induction steps using List.reverseRecOn with
  | nil => exact RulesStore.orderly_empty
  | append_singleton steps step ih =>
      rw [run_concat]
      exact orderly_apply ih step

theorem exists_get?_of_stored (before after : List StoreStep) (rules : TargetRules)
    (kept : ∀ step ∈ after, ¬step.Ends rules) :
    ∃ stored, (run (before ++ .upsert rules :: after)).get? rules.key = some stored ∧
      stored.sameRules rules = true := by
  induction after using List.reverseRecOn with
  | nil =>
      obtain ⟨stored, found, same, _⟩ := (run before).get?_upsert_contents rules
      rw [run_concat]
      exact ⟨stored, found, TargetRules.sameRules_iff.mpr same⟩
  | append_singleton after step ih =>
      obtain ⟨stored, found, alike⟩ := ih fun step member => kept step (by simp [member])
      refine ⟨stored, ?_, alike⟩
      rw [← List.cons_append, ← List.append_assoc, run_concat, get?_apply (run_orderly _)]
      refine Or.inl ⟨found, ?_⟩
      rw [ends_congr alike]
      exact kept step (by simp)

theorem Begins.differs {before after : List StoreStep} {rules : TargetRules}
    (begins : Begins rules before after)
    (hasBegun : ∀ stored, (run before).get? rules.key = some stored →
      ∃ earlier later, before = earlier ++ .upsert stored :: later ∧ Begins stored earlier later) :
    ∀ stored, (run before).get? rules.key = some stored → stored.sameRules rules = false := by
  intro stored found
  obtain ⟨earlier, later, history, since⟩ := hasBegun stored found
  rw [Bool.eq_false_iff]
  intro alike
  obtain ⟨step, member, ends⟩ := begins.2 earlier stored later history alike
  exact since.1 step member ((ends_congr alike step).mpr ends)

/-- What is stored under a key is what began the series of equal rules that has not ended since. -/
theorem run_get?_iff (steps : List StoreStep) (key : String) (rules : TargetRules) :
    (run steps).get? key = some rules ↔
      rules.key = key ∧ ∃ before after, steps = before ++ .upsert rules :: after ∧
        Begins rules before after := by
  induction steps using List.reverseRecOn generalizing key rules with
  | nil => simp [run, RulesStore.get?]
  | append_singleton steps step ih =>
      have orderly := run_orderly steps
      rw [run_concat, get?_apply orderly]
      constructor
      · rintro (⟨found, kept⟩ | ⟨rfl, here, differs⟩)
        · obtain ⟨here, before, after, rfl, unended, first⟩ := (ih key rules).mp found
          refine ⟨here, before, after ++ [step], by simp, ?_, first⟩
          intro later member
          rcases List.mem_append.mp member with earlier | last
          · exact unended later earlier
          · exact List.mem_singleton.mp last ▸ kept
        · refine ⟨here, steps, [], rfl, by simp, ?_⟩
          intro earlier other between history alike
          by_contra noEnd
          have kept : ∀ step ∈ between, ¬step.Ends other := by
            intro step member ends
            exact noEnd ⟨step, member, (ends_congr alike step).mp ends⟩
          obtain ⟨stored, found, same⟩ := exists_get?_of_stored earlier between other kept
          rw [← history, (TargetRules.sameTarget_of_sameRules alike).key, here] at found
          have contents := (TargetRules.sameRules_iff.mp same).trans
            (TargetRules.sameRules_iff.mp alike)
          rw [← TargetRules.sameRules_iff, differs stored found] at contents
          contradiction
      · rintro ⟨here, before, after, history, begins⟩
        rcases List.eq_nil_or_concat after with rfl | ⟨kept, last, rfl⟩
        · obtain ⟨sameBefore, sameStep⟩ := List.append_inj' history rfl
          subst before
          refine Or.inr ⟨List.singleton_inj.mp sameStep, here, ?_⟩
          rw [← here]
          refine begins.differs fun stored found => ?_
          exact ((ih rules.key stored).mp found).2
        · rw [List.concat_eq_append] at history begins
          rw [← List.cons_append, ← List.append_assoc] at history
          obtain ⟨sameBefore, sameStep⟩ := List.append_inj' history rfl
          rw [List.singleton_inj] at sameStep
          subst last
          refine Or.inl ⟨(ih key rules).mpr ⟨here, before, kept, sameBefore, ?_, begins.2⟩, ?_⟩
          · intro later member
            exact begins.1 later (by simp [member])
          · exact begins.1 step (by simp)

/-- Whatever is stored and removed, rules stand under their own key and each owner has one set of
them. What is stored under a key, and so the time of its last change, is what began the series of
equal rules; behind an update it says what was to be stored. -/
theorem run_stored (steps : List StoreStep) :
    let store := run steps
    store.keys.Nodup ∧ store.keys = store.toList.map (·.key) ∧
      (store.toList.map (·.owner)).Nodup ∧
      (∀ rules, ∃ stored, (run (steps ++ [.upsert rules])).get? rules.key = some stored ∧
        stored.sameRules rules = true) ∧
      ∀ key rules, store.get? key = some rules ↔
        rules.key = key ∧ ∃ before after, steps = before ++ .upsert rules :: after ∧
          (∀ step ∈ after, ¬step.Ends rules) ∧
          ∀ earlier other between, before = earlier ++ .upsert other :: between →
            other.sameRules rules = true → ∃ step ∈ between, step.Ends rules := by
  intro store
  have orderly : store.Orderly := run_orderly steps
  refine ⟨orderly.distinct, orderly.keys_eq, orderly.owners_nodup, ?_, run_get?_iff steps⟩
  intro rules
  exact exists_get?_of_stored steps [] rules (by simp)

end StoreStep

end IngressMeter
