import IngressMeter.Metrics.Families
import IngressMeter.Proofs.Entries

/-!
Which label values a family of series shows and what its series add up to. Series of one slot are
one series, so an update changes a single one, and the label values of a family only change where a
slot is begun or removed.
-/

namespace IngressMeter

namespace SeriesMap

variable {α : Type}

def labelSets (family : SeriesMap α) : List (List String) := family.series.map (·.1)

theorem mem_labelSets {family : SeriesMap α} {labels : List String} :
    labels ∈ family.labelSets ↔ ∃ value, (labels, value) ∈ family.series := by
  simp [labelSets]

def Separate (family : SeriesMap α) : Prop := (family.labelSets.map slot).Nodup

theorem separate_empty : ({} : SeriesMap α).Separate := by
  simp [Separate, labelSets]

theorem Separate.labelSets_nodup {family : SeriesMap α} (separate : family.Separate) :
    family.labelSets.Nodup := List.Nodup.of_map slot separate

theorem slots_eq (family : SeriesMap α) :
    family.series.map (fun entry => slot entry.1) = family.labelSets.map slot := by
  simp [labelSets]

theorem any_slot_iff (family : SeriesMap α) (labels : List String) :
    (family.series.any fun entry => slot entry.1 = slot labels) = true ↔
      slot labels ∈ family.labelSets.map slot := by
  rw [← slots_eq, List.any_eq_true, List.mem_map]
  simp only [decide_eq_true_eq]

theorem labelSets_update (family : SeriesMap α) (labels : List String) (start : α)
    (change : α → α) :
    (family.update labels start change).labelSets =
      if slot labels ∈ family.labelSets.map slot then family.labelSets
      else family.labelSets ++ [labels] := by
  rw [update]
  by_cases known : slot labels ∈ family.labelSets.map slot
  · rw [if_pos ((any_slot_iff family labels).mpr known), if_pos known]
    exact Entries.map_changeWhere Prod.fst (fun entry => (entry.1, change entry.2)) (fun _ => rfl)
      (fun entry => slot entry.1 = slot labels) family.series
  · rw [if_neg (mt (any_slot_iff family labels).mp known), if_neg known]
    simp [labelSets]

theorem mem_labelSets_update {family : SeriesMap α} {labels shown : List String} {start : α}
    {change : α → α} (member : shown ∈ (family.update labels start change).labelSets) :
    shown ∈ family.labelSets ∨ shown = labels := by
  rw [labelSets_update] at member
  split at member
  · exact Or.inl member
  · simpa using member

theorem Separate.update {family : SeriesMap α} (separate : family.Separate) (labels : List String)
    (start : α) (change : α → α) : (family.update labels start change).Separate := by
  rw [Separate, labelSets_update]
  split
  · exact separate
  · rename_i unknown
    rw [List.map_append, List.map_singleton, ← List.concat_eq_append]
    exact List.Nodup.concat unknown separate

theorem labelSets_set_congr {β : Type} {family : SeriesMap α} {other : SeriesMap β}
    (same : family.labelSets = other.labelSets) (labels : List String) (value : α) (otherValue : β) :
    (family.set labels value).labelSets = (other.set labels otherValue).labelSets := by
  rw [set, set, labelSets_update, labelSets_update, same]

theorem labelSets_remove (family : SeriesMap α) (labels : List String) :
    (family.remove labels).labelSets =
      family.labelSets.filter fun shown => slot shown ≠ slot labels := by
  simp only [labelSets, remove, List.filter_map]
  rfl

theorem labelSets_removeAll (removed : List (List String)) (family : SeriesMap α) :
    (removed.foldl remove family).labelSets =
      family.labelSets.filter fun shown => removed.all fun labels => slot shown ≠ slot labels := by
  induction removed generalizing family with
  | nil => simp
  | cons labels rest ih =>
      rw [List.foldl_cons, ih, labelSets_remove, List.filter_filter]
      simp only [List.all_cons, Bool.and_comm]

theorem mem_labelSets_removeAll {removed : List (List String)} {family : SeriesMap α}
    {shown : List String} :
    shown ∈ (removed.foldl remove family).labelSets ↔
      shown ∈ family.labelSets ∧ ∀ labels ∈ removed, slot shown ≠ slot labels := by
  rw [labelSets_removeAll, List.mem_filter, List.all_eq_true]
  simp only [decide_eq_true_eq]

theorem mem_removeAll {removed : List (List String)} {family : SeriesMap α}
    {entry : List String × α} :
    entry ∈ (removed.foldl remove family).series ↔
      entry ∈ family.series ∧ ∀ labels ∈ removed, slot entry.1 ≠ slot labels := by
  induction removed generalizing family with
  | nil => simp
  | cons labels rest ih =>
      rw [List.foldl_cons, ih, remove, List.mem_filter, decide_eq_true_eq, List.forall_mem_cons,
        and_assoc]

theorem removeAll_labelSets (family : SeriesMap α) :
    family.labelSets.foldl remove family = {} := by
  have nothing : (family.labelSets.foldl remove family).labelSets = [] := by
    rw [List.eq_nil_iff_forall_not_mem]
    intro labels member
    obtain ⟨shown, left⟩ := mem_labelSets_removeAll.mp member
    exact left labels shown rfl
  rw [labelSets, List.map_eq_nil_iff] at nothing
  rw [← nothing]

theorem Separate.removeAll {family : SeriesMap α} (separate : family.Separate)
    (removed : List (List String)) : (removed.foldl remove family).Separate := by
  rw [Separate, labelSets_removeAll]
  exact separate.sublist (List.filter_sublist.map _)

theorem get?_update (family : SeriesMap α) (labels asked : List String) (start : α)
    (change : α → α) :
    (family.update labels start change).get? asked =
      if slot asked = slot labels then some (change ((family.get? labels).getD start))
      else family.get? asked := by
  rw [update]
  by_cases known : slot labels ∈ family.labelSets.map slot
  · have same : ((fun entry => decide (slot entry.1 = slot asked)) ∘ fun entry : List String × α =>
        if slot entry.1 = slot labels then (entry.1, change entry.2) else entry) =
        fun entry => decide (slot entry.1 = slot asked) := by
      funext entry
      by_cases here : slot entry.1 = slot labels <;> simp [here]
    rw [if_pos ((any_slot_iff family labels).mpr known), get?, List.find?_map, same]
    by_cases asksHere : slot asked = slot labels
    · obtain ⟨entry, found⟩ : ∃ entry, family.series.find?
          (fun entry => slot entry.1 = slot labels) = some entry := by
        rw [← Option.isSome_iff_exists, List.find?_isSome]
        exact List.any_eq_true.mp ((any_slot_iff family labels).mpr known)
      have entrySlot : slot entry.1 = slot labels := by simpa using List.find?_some found
      simp [get?, asksHere, found, entrySlot]
    · rw [if_neg asksHere, get?, Option.map_map]
      cases found : family.series.find? fun entry => slot entry.1 = slot asked with
      | none => rfl
      | some entry =>
          have entrySlot : slot entry.1 = slot asked := by simpa using List.find?_some found
          simp [entrySlot, asksHere]
  · have unknown : family.series.find? (fun entry => slot entry.1 = slot labels) = none := by
      rw [← slots_eq] at known
      simpa [List.find?_eq_none] using known
    rw [if_neg (mt (any_slot_iff family labels).mp known), get?, get?, List.find?_append]
    by_cases asksHere : slot asked = slot labels
    · simp [asksHere, unknown]
    · simp [get?, asksHere, Ne.symm asksHere]

theorem get?_set (family : SeriesMap α) (labels asked : List String) (value : α) :
    (family.set labels value).get? asked =
      if slot asked = slot labels then some value else family.get? asked :=
  get?_update family labels asked value _

theorem get?_remove (family : SeriesMap α) {labels asked : List String}
    (other : slot asked ≠ slot labels) : (family.remove labels).get? asked = family.get? asked := by
  simp only [get?, remove, List.find?_filter]
  congr 2
  funext entry
  by_cases here : slot entry.1 = slot asked
  · simp [here, other]
  · simp [here]

theorem get?_removeAll {removed : List (List String)} {asked : List String}
    (left : ∀ labels ∈ removed, slot asked ≠ slot labels) (family : SeriesMap α) :
    (removed.foldl remove family).get? asked = family.get? asked := by
  induction removed generalizing family with
  | nil => rfl
  | cons labels rest ih =>
      rw [List.foldl_cons, ih fun other member => left other (List.mem_cons_of_mem _ member),
        family.get?_remove (left labels List.mem_cons_self)]

theorem exists_shown_of_get? {family : SeriesMap α} {labels : List String} {value : α}
    (found : family.get? labels = some value) :
    ∃ shown ∈ family.labelSets, slot shown = slot labels := by
  obtain ⟨entry, isFound, _⟩ := Option.map_eq_some_iff.mp found
  exact ⟨entry.1, List.mem_map_of_mem (List.mem_of_find?_eq_some isFound),
    by simpa using List.find?_some isFound⟩

theorem Separate.get?_eq_some_iff {family : SeriesMap α} (separate : family.Separate)
    {labels : List String} (shown : labels ∈ family.labelSets) (value : α) :
    family.get? labels = some value ↔ (labels, value) ∈ family.series := by
  have sameSlot : ∀ entry ∈ family.series, slot entry.1 = slot labels → entry.1 = labels := by
    intro entry member same
    exact List.inj_on_of_nodup_map separate (List.mem_map_of_mem member) shown same
  constructor
  · intro found
    obtain ⟨entry, isFound, rfl⟩ := Option.map_eq_some_iff.mp found
    have member := List.mem_of_find?_eq_some isFound
    rw [← sameSlot entry member (by simpa using List.find?_some isFound)]
    exact member
  · intro member
    cases found : family.series.find? fun entry => slot entry.1 = slot labels with
    | none =>
        have missing := List.find?_eq_none.mp found _ member
        simp at missing
    | some entry =>
        have isEntry := List.mem_of_find?_eq_some found
        have here := sameSlot entry isEntry (by simpa using List.find?_some found)
        have same : entry = (labels, value) :=
          List.inj_on_of_nodup_map separate.labelSets_nodup isEntry member here
        rw [get?, found, same]
        rfl

def total (weight : α → Nat) (family : SeriesMap α) : Nat :=
  (family.series.map fun entry => weight entry.2).sum

theorem total_update (weight : α → Nat) {start : α} {change : α → α} (fresh : weight start = 0)
    (grows : ∀ value, weight (change value) = weight value + 1) {family : SeriesMap α}
    (separate : family.Separate) (labels : List String) :
    (family.update labels start change).total weight = family.total weight + 1 := by
  rw [update]
  by_cases known : slot labels ∈ family.labelSets.map slot
  · rw [if_pos ((any_slot_iff family labels).mpr known)]
    rw [← slots_eq] at known
    rw [Separate, ← slots_eq] at separate
    exact Entries.sum_changeAt (fun entry => slot entry.1) (fun entry => (entry.1, change entry.2))
      (fun entry => weight entry.2) (fun entry => grows entry.2) separate known
  · rw [if_neg (mt (any_slot_iff family labels).mp known)]
    simp [total, fresh, grows]

theorem total_increment {family : SeriesMap Nat} (separate : family.Separate)
    (labels : List String) :
    (family.increment labels).total id = family.total id + 1 :=
  total_update id rfl (fun _ => rfl) separate labels

end SeriesMap

namespace Metrics

theorem total_observeIn {family : SeriesMap Histogram} (separate : family.Separate)
    (labels : List String) (amount : Float) :
    (observeIn family labels amount).total (·.count) = family.total (·.count) + 1 :=
  SeriesMap.total_update (·.count) rfl (fun _ => rfl) separate labels

theorem removeLatencies_eq (removed : List (List String)) (metrics : Metrics) :
    removed.foldl removeLatency metrics = { metrics with
      avgLatency := removed.foldl SeriesMap.remove metrics.avgLatency
      maxLatency := removed.foldl SeriesMap.remove metrics.maxLatency } := by
  induction removed generalizing metrics with
  | nil => rfl
  | cons labels rest ih =>
      rw [List.foldl_cons, ih]
      rfl

/-- What is measured of all requests and lines, without the series of single endpoints. -/
def coarse (metrics : Metrics) : Metrics :=
  { metrics with
    endpointRequests := {}, endpointDuration := {}, avgLatency := {}, maxLatency := {}
    errorRate := {}, clientErrorRate := {}, serverErrorRate := {} }

@[simp] theorem coarse_removeLatencies (removed : List (List String)) (metrics : Metrics) :
    (removed.foldl removeLatency metrics).coarse = metrics.coarse := by
  rw [removeLatencies_eq]
  rfl

end Metrics

end IngressMeter
