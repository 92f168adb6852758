import IngressMeter.Proofs.Entries
import IngressMeter.Rules.Store

/-!
What each change of the store leaves of it, key by key, and what holds of every store that is only
changed in these ways: no key stands twice, and the rules under a key are those of that key.
-/

namespace IngressMeter

namespace TargetRules

def IsKeyed (rules : TargetRules) : Prop :=
  rules.key = targetKey rules.namespaceName rules.targetName

structure SameTarget (first second : TargetRules) : Prop where
  key : first.key = second.key
  namespaceName : first.namespaceName = second.namespaceName
  targetName : first.targetName = second.targetName
  owner : first.owner = second.owner

theorem sameTarget_of_sameRules {first second : TargetRules}
    (alike : first.sameRules second = true) : first.SameTarget second := by
  simp only [sameRules, Bool.and_eq_true, decide_eq_true_eq] at alike
  obtain ⟨⟨⟨⟨⟨⟨⟨⟨⟨⟨key, namespaceName⟩, targetName⟩, _⟩, owner⟩, _⟩, _⟩, _⟩, _⟩, _⟩, _⟩ := alike
  exact ⟨key, namespaceName, targetName, owner⟩

theorem IsKeyed.of_sameTarget {first second : TargetRules} (keyed : second.IsKeyed)
    (same : first.SameTarget second) : first.IsKeyed := by
  rw [IsKeyed, same.key, same.namespaceName, same.targetName]
  exact keyed

end TargetRules

namespace RulesStore

theorem mem_keys_iff {store : RulesStore} {key : String} :
    key ∈ store.keys ↔ ∃ rules, store.get? key = some rules := by
  constructor
  · exact Entries.exists_lookup
  · rintro ⟨rules, found⟩
    exact List.mem_map.mpr ⟨(key, rules), Entries.mem_of_lookup found, rfl⟩

structure Sound (store : RulesStore) : Prop where
  distinct : store.keys.Nodup
  own : ∀ key rules, store.get? key = some rules → rules.key = key
  keyed : ∀ key rules, store.get? key = some rules → rules.IsKeyed

theorem sound_empty : ({} : RulesStore).Sound where
  distinct := List.nodup_nil
  own := by simp [get?]
  keyed := by simp [get?]

theorem keys_filter_nodup {store : RulesStore} (distinct : store.keys.Nodup)
    (keep : String × TargetRules → Bool) :
    (RulesStore.mk (store.entries.filter keep)).keys.Nodup :=
  distinct.sublist (List.filter_sublist.map _)

section Erase

variable (store : RulesStore) (erased key : String)

theorem get?_erase :
    (store.erase erased).get? key = if key = erased then none else store.get? key :=
  Entries.lookup_filter_ne store.entries erased key

theorem get?_removeOwned (owner : String) (rules : TargetRules) :
    (store.removeOwned erased owner).1.get? key = some rules ↔
      store.get? key = some rules ∧ ¬(key = erased ∧ rules.owner = owner) := by
  rw [removeOwned]
  cases found : store.get? erased with
  | none =>
      refine (and_iff_left_of_imp ?_).symm
      rintro present ⟨rfl, _⟩
      exact Option.some_ne_none rules (present.symm.trans found)
  | some stored =>
      dsimp only
      by_cases owned : stored.owner = owner
      · rw [if_pos owned, remove, get?_erase]
        by_cases same : key = erased
        · subst key
          rw [if_pos rfl, found]
          constructor
          · intro present
            contradiction
          · rintro ⟨same, foreign⟩
            exact absurd ⟨rfl, Option.some.inj same ▸ owned⟩ foreign
        · simp [same]
      · rw [if_neg owned]
        refine (and_iff_left_of_imp ?_).symm
        rintro present ⟨rfl, mine⟩
        rw [found, Option.some.injEq] at present
        exact owned (present ▸ mine)

theorem removeOwned_removed (owner : String) :
    (store.removeOwned erased owner).2.isSome = true ↔
      ∃ rules, store.get? erased = some rules ∧ rules.owner = owner := by
  rw [removeOwned]
  cases found : store.get? erased with
  | none => simp
  | some rules =>
      by_cases owned : rules.owner = owner
      · simp [owned, remove, found]
      · simp [owned]

theorem mem_keys_removeOwned (owner : String) :
    key ∈ (store.removeOwned erased owner).1.keys ↔
      key ∈ store.keys ∧ ¬(key = erased ∧ (store.removeOwned erased owner).2.isSome = true) := by
  simp only [mem_keys_iff, get?_removeOwned, removeOwned_removed]
  constructor
  · rintro ⟨rules, found, notOwned⟩
    refine ⟨⟨rules, found⟩, ?_⟩
    rintro ⟨rfl, other, again, owned⟩
    rw [found, Option.some.injEq] at again
    exact notOwned ⟨rfl, again ▸ owned⟩
  · rintro ⟨⟨rules, found⟩, notRemoved⟩
    refine ⟨rules, found, ?_⟩
    rintro ⟨rfl, owned⟩
    exact notRemoved ⟨rfl, rules, found, owned⟩

end Erase

section Insert

variable (store : RulesStore) (rules : TargetRules)

theorem get?_insert (key : String) :
    (store.insert rules).get? key = if key = rules.key then some rules else store.get? key := by
  simp only [get?, insert, List.lookup_cons]
  by_cases same : key = rules.key
  · simp [same]
  · rw [beq_eq_false_iff_ne.mpr same, if_neg same]
    exact (store.get?_erase rules.key key).trans (if_neg same)

theorem keys_insert_nodup (distinct : store.keys.Nodup) : (store.insert rules).keys.Nodup := by
  refine List.nodup_cons.mpr ⟨?_, keys_filter_nodup distinct _⟩
  intro present
  obtain ⟨other, found⟩ := Entries.exists_lookup present
  have missing := store.get?_erase rules.key rules.key
  rw [if_pos rfl] at missing
  exact Option.some_ne_none other (found.symm.trans missing)

theorem get?_dropMoved (distinct : store.keys.Nodup) (key : String) (stored : TargetRules) :
    (store.dropMoved rules).get? key = some stored ↔
      store.get? key = some stored ∧ (stored.owner ≠ rules.owner ∨ key = rules.key) := by
  rw [get?, dropMoved, Entries.lookup_filter distinct, Option.filter_eq_some_iff]
  simp [get?]

/-- An update stores the rules, unless those already there say the same. -/
theorem upsert_cases :
    (store.upsert rules).1 = (store.dropMoved rules).insert rules ∨
      ∃ stored, (store.dropMoved rules).get? rules.key = some stored ∧
        stored.sameRules rules = true ∧ (store.upsert rules).1 = store.dropMoved rules := by
  simp only [upsert]
  cases (store.dropMoved rules).get? rules.key with
  | none => exact Or.inl rfl
  | some stored =>
      dsimp only
      split
      · rename_i alike
        exact Or.inr ⟨stored, rfl, alike, rfl⟩
      · exact Or.inl rfl

theorem keys_upsert_nodup (distinct : store.keys.Nodup) : (store.upsert rules).1.keys.Nodup := by
  have kept : (store.dropMoved rules).keys.Nodup := keys_filter_nodup distinct _
  obtain inserted | ⟨_, _, _, unchanged⟩ := store.upsert_cases rules
  · rw [inserted]
    exact keys_insert_nodup _ rules kept
  · rw [unchanged]
    exact kept

theorem get?_upsert_elsewhere (distinct : store.keys.Nodup) {key : String}
    (elsewhere : key ≠ rules.key) (stored : TargetRules) :
    (store.upsert rules).1.get? key = some stored ↔
      store.get? key = some stored ∧ stored.owner ≠ rules.owner := by
  have kept : (store.dropMoved rules).get? key = some stored ↔
      store.get? key = some stored ∧ stored.owner ≠ rules.owner := by
    simp [store.get?_dropMoved rules distinct, elsewhere]
  obtain inserted | ⟨_, _, _, unchanged⟩ := store.upsert_cases rules
  · rw [inserted, get?_insert, if_neg elsewhere]
    exact kept
  · rw [unchanged]
    exact kept

theorem get?_upsert_here :
    ∃ stored, stored.SameTarget rules ∧ (store.upsert rules).1.get? rules.key = some stored := by
  obtain inserted | ⟨stored, found, alike, unchanged⟩ := store.upsert_cases rules
  · refine ⟨rules, ⟨rfl, rfl, rfl, rfl⟩, ?_⟩
    rw [inserted, get?_insert, if_pos rfl]
  · refine ⟨stored, TargetRules.sameTarget_of_sameRules alike, ?_⟩
    rw [unchanged, found]

theorem get?_upsert_changed (changed : (store.upsert rules).2 ≠ .unchanged) :
    (store.upsert rules).1.get? rules.key = some rules := by
  have inserted : ((store.dropMoved rules).insert rules).get? rules.key = some rules := by
    rw [get?_insert, if_pos rfl]
  simp only [upsert] at changed ⊢
  cases found : (store.dropMoved rules).get? rules.key with
  | none => exact inserted
  | some stored =>
      by_cases alike : stored.sameRules rules = true
      · simp [found, alike] at changed
      · simpa [alike] using inserted

theorem mem_keys_upsert (distinct : store.keys.Nodup) (key : String) :
    key ∈ (store.upsert rules).1.keys ↔
      key = rules.key ∨ ∃ stored, store.get? key = some stored ∧ stored.owner ≠ rules.owner := by
  rw [mem_keys_iff]
  by_cases here : key = rules.key
  · obtain ⟨stored, _, found⟩ := store.get?_upsert_here rules
    subst key
    exact iff_of_true ⟨stored, found⟩ (Or.inl rfl)
  · rw [or_iff_right here]
    simp only [store.get?_upsert_elsewhere rules distinct here]

end Insert

theorem keys_removeOwned_nodup {store : RulesStore} (distinct : store.keys.Nodup)
    (key owner : String) : (store.removeOwned key owner).1.keys.Nodup := by
  rw [removeOwned]
  split
  · split
    · exact keys_filter_nodup distinct _
    · exact distinct
  · exact distinct

theorem keys_retainOwners_nodup {store : RulesStore} (distinct : store.keys.Nodup)
    (owners : List String) : (store.retainOwners owners).1.keys.Nodup := by
  simp only [retainOwners, List.partition_eq_filter_filter]
  exact keys_filter_nodup distinct _

theorem get?_retainOwners {store : RulesStore} (distinct : store.keys.Nodup) (owners : List String)
    (key : String) (rules : TargetRules) :
    (store.retainOwners owners).1.get? key = some rules ↔
      store.get? key = some rules ∧ rules.owner ∈ owners := by
  simp only [retainOwners, List.partition_eq_filter_filter]
  rw [get?, Entries.lookup_filter distinct, Option.filter_eq_some_iff]
  simp [get?]

theorem mem_retainOwners_dropped {store : RulesStore} (distinct : store.keys.Nodup)
    (owners : List String) (key : String) :
    key ∈ (store.retainOwners owners).2 ↔
      ∃ rules, store.get? key = some rules ∧ rules.owner ∉ owners := by
  simp only [retainOwners, List.partition_eq_filter_filter, List.mem_map, List.mem_filter]
  constructor
  · rintro ⟨entry, ⟨member, dropped⟩, rfl⟩
    exact ⟨entry.2, Entries.lookup_of_mem distinct member, by simpa using dropped⟩
  · rintro ⟨rules, found, dropped⟩
    exact ⟨(key, rules), ⟨Entries.mem_of_lookup found, by simpa using dropped⟩, rfl⟩

theorem mem_keys_retainOwners {store : RulesStore} (distinct : store.keys.Nodup)
    (owners : List String) (key : String) :
    key ∈ (store.retainOwners owners).1.keys ↔
      key ∈ store.keys ∧ key ∉ (store.retainOwners owners).2 := by
  simp only [mem_keys_iff, get?_retainOwners distinct, mem_retainOwners_dropped distinct]
  constructor
  · rintro ⟨rules, found, retained⟩
    refine ⟨⟨rules, found⟩, ?_⟩
    rintro ⟨other, again, dropped⟩
    rw [found, Option.some.injEq] at again
    exact dropped (again ▸ retained)
  · rintro ⟨⟨rules, found⟩, notDropped⟩
    refine ⟨rules, found, ?_⟩
    by_contra dropped
    exact notDropped ⟨rules, found, dropped⟩

namespace Sound

variable {store : RulesStore} (sound : store.Sound)

include sound

theorem of_fewer {smaller : RulesStore} (distinct : smaller.keys.Nodup)
    (fewer : ∀ key rules, smaller.get? key = some rules → store.get? key = some rules) :
    smaller.Sound where
  distinct := distinct
  own := fun key rules found => sound.own key rules (fewer key rules found)
  keyed := fun key rules found => sound.keyed key rules (fewer key rules found)

theorem removeOwned (key owner : String) : (store.removeOwned key owner).1.Sound :=
  sound.of_fewer (keys_removeOwned_nodup sound.distinct key owner) fun _ rules found =>
    ((store.get?_removeOwned _ _ _ rules).mp found).1

theorem retainOwners (owners : List String) : (store.retainOwners owners).1.Sound :=
  sound.of_fewer (keys_retainOwners_nodup sound.distinct owners) fun key rules found =>
    ((get?_retainOwners sound.distinct owners key rules).mp found).1

theorem upsert {rules : TargetRules} (isKeyed : rules.IsKeyed) : (store.upsert rules).1.Sound := by
  have entry : ∀ key stored, (store.upsert rules).1.get? key = some stored →
      stored.key = key ∧ stored.IsKeyed := by
    intro key stored found
    by_cases here : key = rules.key
    · obtain ⟨kept, same, lookup⟩ := store.get?_upsert_here rules
      rw [here] at found
      obtain rfl : kept = stored := Option.some.inj (lookup.symm.trans found)
      exact ⟨same.key.trans here.symm, isKeyed.of_sameTarget same⟩
    · rw [store.get?_upsert_elsewhere rules sound.distinct here] at found
      exact ⟨sound.own key stored found.1, sound.keyed key stored found.1⟩
  exact ⟨store.keys_upsert_nodup rules sound.distinct,
    fun key stored found => (entry key stored found).1,
    fun key stored found => (entry key stored found).2⟩

end Sound

end RulesStore

end IngressMeter
