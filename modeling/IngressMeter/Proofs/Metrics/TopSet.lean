import IngressMeter.Metrics.TopSet
import IngressMeter.Proofs.Metrics.Endpoint
import Mathlib.Algebra.BigOperators.Group.Finset.Basic

/-!
How many endpoints the top set holds. Its endpoints are distinct, and each router that has rows
takes as many places as it has rows, up to its limit.
-/

namespace IngressMeter.TopSet

section Distinct

variable {α : Type} [DecidableEq α]

@[simp] theorem mem_distinct {items : List α} {item : α} :
    item ∈ distinct items ↔ item ∈ items := by
  induction items with
  | nil => simp [distinct]
  | cons first rest ih =>
      by_cases same : item = first
      · simp [distinct, same]
      · simp [distinct, same, ih]

theorem nodup_distinct (items : List α) : (distinct items).Nodup := by
  induction items with
  | nil => simp [distinct]
  | cons first rest ih =>
      rw [distinct, List.nodup_cons]
      exact ⟨by simp, ih.filter _⟩

theorem distinct_of_nodup {items : List α} (unrepeated : items.Nodup) : distinct items = items := by
  induction items with
  | nil => rfl
  | cons first rest ih =>
      rw [List.nodup_cons] at unrepeated
      rw [distinct, ih unrepeated.2, List.filter_eq_self.mpr]
      intro item member
      have different : item ≠ first := by
        intro same
        exact unrepeated.1 (same ▸ member)
      simpa using different

theorem sum_distinct {items names : List α} (unrepeated : names.Nodup)
    (covered : ∀ item ∈ items, item ∈ names) (amount : α → Nat)
    (nothing : ∀ name, name ∉ items → amount name = 0) :
    ((distinct items).map amount).sum = (names.map amount).sum := by
  rw [← List.sum_toFinset amount (nodup_distinct items), ← List.sum_toFinset amount unrepeated]
  apply Finset.sum_subset
  · intro item member
    simp only [List.mem_toFinset, mem_distinct] at member ⊢
    exact covered item member
  · intro name _ absent
    simp only [List.mem_toFinset, mem_distinct] at absent
    exact nothing name absent

end Distinct

theorem contains_iff {top : TopSet} {key : EndpointKey} :
    top.contains key = true ↔ key ∈ top.endpoints := by
  simp [contains]

theorem mem_pathsOf {top : TopSet} {router path : String} :
    path ∈ top.pathsOf router ↔ ⟨router, path⟩ ∈ top.endpoints := by
  simp only [pathsOf, List.mem_map, List.mem_filter, decide_eq_true_eq]
  constructor
  · rintro ⟨key, ⟨member, rfl⟩, rfl⟩
    exact member
  · intro member
    exact ⟨⟨router, path⟩, ⟨member, rfl⟩, rfl⟩

section Compute

variable {rows : List (EndpointKey × EndpointStat)}

theorem mem_candidates {router : String} {row : EndpointKey × EndpointStat} :
    row ∈ candidates rows router ↔
      row ∈ rows ∧ row.1.router = router ∧ 0 < row.2.totalRequests := by
  simp [candidates, List.mem_mergeSort]

theorem nodup_candidates (distinctKeys : (rows.map (·.1)).Nodup) (router : String) :
    ((candidates rows router).map (·.1)).Nodup := by
  have sorted : (candidates rows router).Perm
      (rows.filter fun row => row.1.router = router && 0 < row.2.totalRequests) :=
    List.mergeSort_perm _ _
  rw [(sorted.map _).nodup_iff]
  exact distinctKeys.sublist (List.filter_sublist.map _)

theorem length_candidates (requested : ∀ row ∈ rows, 0 < row.2.totalRequests) (router : String) :
    (candidates rows router).length = (rows.filter fun row => row.1.router = router).length := by
  rw [candidates, List.length_mergeSort]
  congr 1
  apply List.filter_congr
  intro row member
  simp [requested row member]

theorem nodup_compute (limit : String → Nat) : (compute rows limit).endpoints.Nodup := by
  rw [compute, List.nodup_flatMap]
  refine ⟨fun router _ => nodup_distinct _, ?_⟩
  refine (nodup_distinct _).imp ?_
  intro first second different key firstMember secondMember
  simp only [mem_distinct, List.mem_map] at firstMember secondMember
  obtain ⟨firstRow, firstTaken, rfl⟩ := firstMember
  obtain ⟨secondRow, secondTaken, same⟩ := secondMember
  have firstRouter := (mem_candidates.mp (List.mem_of_mem_take firstTaken)).2.1
  have secondRouter := (mem_candidates.mp (List.mem_of_mem_take secondTaken)).2.1
  exact different (by rw [← firstRouter, ← secondRouter, same])

theorem size_compute (distinctKeys : (rows.map (·.1)).Nodup)
    (requested : ∀ row ∈ rows, 0 < row.2.totalRequests) (limit : String → Nat) :
    (compute rows limit).size =
      ((distinct (rows.map (·.1.router))).map fun router =>
        min (limit router) (rows.filter fun row => row.1.router = router).length).sum := by
  rw [size, compute, List.length_flatMap]
  congr 1
  apply List.map_congr_left
  intro router _
  rw [distinct_of_nodup, List.length_map, List.length_take, length_candidates requested]
  exact (nodup_candidates distinctKeys router).sublist ((List.take_sublist _ _).map _)

end Compute

end IngressMeter.TopSet
