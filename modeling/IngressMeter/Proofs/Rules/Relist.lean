import IngressMeter.Proofs.Rules.Contents
import Mathlib.Data.List.Induction

/-!
Storing the rules of many owners, each under a key of its own, and dropping those of all other owners
leaves what was stored and nothing of what was there before.
-/

namespace IngressMeter.RulesStore

def upsertAll (store : RulesStore) (listed : List TargetRules) : RulesStore :=
  listed.foldl (fun store rules => (store.upsert rules).1) store

theorem upsertAll_concat (store : RulesStore) (listed : List TargetRules) (rules : TargetRules) :
    store.upsertAll (listed ++ [rules]) = ((store.upsertAll listed).upsert rules).1 :=
  List.foldl_concat _ _ _ _

structure Has (store : RulesStore) (listed : List TargetRules) : Prop where
  stored : ∀ rules ∈ listed, ∃ found, store.get? rules.key = some found ∧
    found.contents = rules.contents
  only : ∀ key found, store.get? key = some found → ∀ rules ∈ listed, found.owner = rules.owner →
    key = rules.key

theorem owner_eq_of_contents {first second : TargetRules}
    (same : first.contents = second.contents) : first.owner = second.owner :=
  congrArg (·.2.2.2.2.1) same

variable {store : RulesStore} {listed : List TargetRules}

theorem Has.upsert (has : store.Has listed) (distinct : store.keys.Nodup) {rules : TargetRules}
    (newOwner : ∀ other ∈ listed, other.owner ≠ rules.owner)
    (newKey : ∀ other ∈ listed, other.key ≠ rules.key) :
    (store.upsert rules).1.Has (listed ++ [rules]) := by
  obtain ⟨here, isHere, sameContents, _⟩ := store.get?_upsert_contents rules
  constructor
  · intro other member
    rcases List.mem_append.mp member with before | last
    · obtain ⟨found, isFound, same⟩ := has.stored other before
      refine ⟨found, ?_, same⟩
      rw [store.get?_upsert_elsewhere rules distinct (newKey other before)]
      exact ⟨isFound, (owner_eq_of_contents same) ▸ newOwner other before⟩
    · rw [List.mem_singleton.mp last]
      exact ⟨here, isHere, sameContents⟩
  · intro key found isFound other member sameOwner
    by_cases isKey : key = rules.key
    · rw [isKey, isHere, Option.some.injEq] at isFound
      subst found
      rcases List.mem_append.mp member with before | last
      · have foreign := newOwner other before
        exact absurd (sameOwner.symm.trans (owner_eq_of_contents sameContents)) foreign
      · rw [List.mem_singleton.mp last]
        exact isKey
    · rw [store.get?_upsert_elsewhere rules distinct isKey] at isFound
      rcases List.mem_append.mp member with before | last
      · exact has.only key found isFound.1 other before sameOwner
      · rw [List.mem_singleton.mp last] at sameOwner
        exact absurd sameOwner isFound.2

structure Filled (store : RulesStore) (listed : List TargetRules) : Prop where
  sound : store.Sound
  compiled : store.Compiled
  has : store.Has listed

theorem filled_upsertAll (sound : store.Sound) (compiled : store.Compiled)
    (keyed : ∀ rules ∈ listed, rules.IsKeyed) (isCompiled : ∀ rules ∈ listed, rules.IsCompiled)
    (owners : (listed.map (·.owner)).Nodup) (keys : (listed.map (·.key)).Nodup) :
    (store.upsertAll listed).Filled listed := by
  induction listed using List.reverseRecOn with
  | nil => exact ⟨sound, compiled, by simp, by simp⟩
  | append_singleton listed rules ih =>
      rw [List.map_append, List.map_singleton, List.nodup_append] at owners keys
      have before := ih (fun other member => keyed other (List.mem_append_left _ member))
        (fun other member => isCompiled other (List.mem_append_left _ member)) owners.1 keys.1
      have last : rules ∈ listed ++ [rules] := by simp
      rw [upsertAll_concat]
      refine ⟨before.sound.upsert (keyed rules last),
        before.compiled.upsert before.sound.distinct (isCompiled rules last),
        before.has.upsert before.sound.distinct ?_ ?_⟩
      · intro other member
        exact owners.2.2 _ (List.mem_map_of_mem member) _ (List.mem_singleton_self _)
      · intro other member
        exact keys.2.2 _ (List.mem_map_of_mem member) _ (List.mem_singleton_self _)

theorem Filled.get?_retainOwners_iff (filled : store.Filled listed) {owners : List String}
    (same : ∀ owner, owner ∈ owners ↔ ∃ rules ∈ listed, rules.owner = owner)
    (isCompiled : ∀ rules ∈ listed, rules.IsCompiled) (key : String) (seen : TargetRules) :
    ((store.retainOwners owners).1.get? key).map TargetRules.timeless = some seen ↔
      ∃ rules ∈ listed, rules.key = key ∧ rules.timeless = seen := by
  have isRetained := get?_retainOwners filled.sound.distinct owners
  rw [Option.map_eq_some_iff]
  constructor
  · rintro ⟨found, isFound, rfl⟩
    obtain ⟨present, retained⟩ := (isRetained key found).mp isFound
    obtain ⟨rules, member, owner⟩ := (same found.owner).mp retained
    have here : key = rules.key := filled.has.only key found present rules member owner.symm
    obtain ⟨stored, isStored, contents⟩ := filled.has.stored rules member
    rw [← here, present, Option.some.injEq] at isStored
    subst stored
    exact ⟨rules, member, here.symm,
      (isCompiled rules member).timeless_eq (filled.compiled key found present) contents.symm⟩
  · rintro ⟨rules, member, rfl, rfl⟩
    obtain ⟨stored, isStored, contents⟩ := filled.has.stored rules member
    refine ⟨stored, (isRetained rules.key stored).mpr ⟨isStored, ?_⟩, ?_⟩
    · exact (same stored.owner).mpr ⟨rules, member, (owner_eq_of_contents contents).symm⟩
    · exact (filled.compiled _ stored isStored).timeless_eq (isCompiled rules member) contents

end IngressMeter.RulesStore
