import Mathlib.Algebra.GroupWithZero.Nat
import Mathlib.Data.List.Nodup

/-!
Lists of entries, each under a key. As long as no key is repeated, looking a key up, replacing the
entry of one and dropping one act on a single entry.
-/

namespace IngressMeter.Entries

variable {α β : Type}

section Lookup

variable [BEq α] [LawfulBEq α]

theorem mem_of_lookup {entries : List (α × β)} {key : α} {value : β}
    (found : entries.lookup key = some value) : (key, value) ∈ entries := by
  obtain ⟨before, after, split, _⟩ := List.lookup_eq_some_iff.mp found
  simp [split]

theorem lookup_eq_none {entries : List (α × β)} {key : α} :
    entries.lookup key = none ↔ key ∉ entries.map (·.1) := by
  rw [List.lookup_eq_none_iff]
  constructor
  · intro missing present
    obtain ⟨entry, member, same⟩ := List.mem_map.mp present
    simpa [same] using missing entry member
  · intro missing entry member
    have different : key ≠ entry.1 := by
      intro same
      exact missing (List.mem_map.mpr ⟨entry, member, same.symm⟩)
    simpa using different

theorem exists_lookup {entries : List (α × β)} {key : α} (present : key ∈ entries.map (·.1)) :
    ∃ value, entries.lookup key = some value := by
  cases found : entries.lookup key with
  | none => exact absurd present (lookup_eq_none.mp found)
  | some value => exact ⟨value, rfl⟩

theorem lookup_of_mem {entries : List (α × β)} {key : α} {value : β}
    (distinct : (entries.map (·.1)).Nodup) (member : (key, value) ∈ entries) :
    entries.lookup key = some value := by
  induction entries with
  | nil => simp at member
  | cons entry rest ih =>
      rw [List.map_cons, List.nodup_cons] at distinct
      rw [List.lookup_cons]
      rcases List.mem_cons.mp member with here | later
      · simp [← here]
      · have different : key ≠ entry.1 := by
          intro same
          exact distinct.1 (List.mem_map.mpr ⟨(key, value), later, same⟩)
        rw [beq_eq_false_iff_ne.mpr different]
        exact ih distinct.2 later

theorem lookup_filter {keep : α × β → Bool} {entries : List (α × β)} {key : α}
    (distinct : (entries.map (·.1)).Nodup) :
    (entries.filter keep).lookup key =
      (entries.lookup key).filter fun value => keep (key, value) := by
  have remaining : ((entries.filter keep).map (·.1)).Nodup :=
    distinct.sublist (List.filter_sublist.map _)
  cases found : entries.lookup key with
  | none =>
      rw [Option.filter_none, lookup_eq_none]
      intro present
      exact lookup_eq_none.mp found ((List.filter_sublist.map _).subset present)
  | some value =>
      cases kept : keep (key, value) with
      | true =>
          rw [Option.filter_some, if_pos kept]
          exact lookup_of_mem remaining (List.mem_filter.mpr ⟨mem_of_lookup found, kept⟩)
      | false =>
          rw [Option.filter_some, if_neg (by simp [kept]), lookup_eq_none]
          intro present
          obtain ⟨other, again⟩ := exists_lookup present
          have member := List.mem_filter.mp (mem_of_lookup again)
          have same := lookup_of_mem distinct member.1
          rw [found, Option.some.injEq] at same
          rw [← same, kept] at member
          exact Bool.false_ne_true member.2

variable [DecidableEq α]

theorem lookup_filter_of_keeps {keep : α × β → Bool} {key : α}
    (keeps : ∀ value, keep (key, value) = true) (entries : List (α × β)) :
    (entries.filter keep).lookup key = entries.lookup key := by
  induction entries with
  | nil => rfl
  | cons entry rest ih =>
      by_cases here : key = entry.1
      · subst key
        rw [List.filter_cons_of_pos (keeps entry.2), List.lookup_cons, List.lookup_cons]
        simp
      · rw [List.lookup_cons, beq_eq_false_iff_ne.mpr here, List.filter_cons]
        split
        · rw [List.lookup_cons, beq_eq_false_iff_ne.mpr here]
          exact ih
        · exact ih

theorem lookup_filter_ne (entries : List (α × β)) (dropped key : α) :
    (entries.filter fun entry => entry.1 ≠ dropped).lookup key =
      if key = dropped then none else entries.lookup key := by
  induction entries with
  | nil => simp
  | cons entry rest ih =>
      by_cases isDropped : entry.1 = dropped
      · rw [List.filter_cons_of_neg (by simpa using isDropped), ih, List.lookup_cons]
        by_cases same : key = dropped
        · simp [same]
        · have different : (key == entry.1) = false := by
            simpa [isDropped] using same
          simp [same, different]
      · rw [List.filter_cons_of_pos (by simpa using isDropped), List.lookup_cons, List.lookup_cons,
          ih]
        by_cases same : key = dropped
        · subst same
          simp [beq_eq_false_iff_ne.mpr (Ne.symm isDropped)]
        · simp [same]

theorem lookup_replace (entries : List (α × β)) (replaced key : α) (value : β) :
    (entries.map fun entry => if entry.1 = replaced then (entry.1, value) else entry).lookup key =
      if key = replaced then (entries.lookup key).map fun _ => value else entries.lookup key := by
  induction entries with
  | nil => simp
  | cons entry rest ih =>
      rw [List.map_cons, List.lookup_cons]
      by_cases isReplaced : entry.1 = replaced
      · rw [if_pos isReplaced, List.lookup_cons, ih]
        by_cases same : key = replaced
        · simp [same, isReplaced]
        · have different : (key == entry.1) = false := by
            simpa [isReplaced] using same
          simp [same, different]
      · rw [if_neg isReplaced, List.lookup_cons, ih]
        by_cases same : key = replaced
        · subst same
          simp [beq_eq_false_iff_ne.mpr (Ne.symm isReplaced)]
        · simp [same]

end Lookup

section Change

variable {κ : Type} [DecidableEq κ]

theorem map_changeWhere {γ : Type} (view : α → γ) (change : α → α)
    (keeps : ∀ entry, view (change entry) = view entry) (selected : α → Prop)
    [DecidablePred selected] (entries : List α) :
    (entries.map fun entry => if selected entry then change entry else entry).map view =
      entries.map view := by
  rw [List.map_map]
  apply List.map_congr_left
  intro entry _
  by_cases here : selected entry <;> simp [here, keeps]

theorem sum_changeAt (keyOf : α → κ) (change : α → α) (weight : α → Nat)
    (grows : ∀ entry, weight (change entry) = weight entry + 1) {entries : List α} {key : κ}
    (distinct : (entries.map keyOf).Nodup) (present : key ∈ entries.map keyOf) :
    ((entries.map fun entry => if keyOf entry = key then change entry else entry).map weight).sum =
      (entries.map weight).sum + 1 := by
  induction entries with
  | nil => simp at present
  | cons entry rest ih =>
      rw [List.map_cons, List.nodup_cons] at distinct
      simp only [List.map_cons, List.sum_cons]
      by_cases here : keyOf entry = key
      · have others :
            (rest.map fun entry => if keyOf entry = key then change entry else entry) = rest := by
          rw [List.map_congr_left (g := id), List.map_id]
          intro other member
          have different : keyOf other ≠ key := by
            intro same
            exact distinct.1 (List.mem_map.mpr ⟨other, member, same.trans here.symm⟩)
          simp [different]
        rw [others, if_pos here, grows]
        omega
      · have later : key ∈ rest.map keyOf := by
          rcases List.mem_cons.mp present with first | later
          · exact absurd first.symm here
          · exact later
        rw [if_neg here, ih distinct.2 later]
        omega

end Change

end IngressMeter.Entries
