import IngressMeter.Proofs.Metrics.Bookkeeping

/-!
What one router has of the rows and of the top set. The number of a row only tells which of two rows
began first, and sorting compares a row only with rows that began later. So the rows of a router and
its places in the top set do not depend on what rows other routers have.
-/

namespace IngressMeter

theorem map_mergeSort_of_pairwise {α β : Type} (f : α → β) {before : α → α → Bool}
    (beforeToo : β → β → Bool) {items : List α}
    (same : items.Pairwise fun first second =>
      before first second = beforeToo (f first) (f second)) :
    (items.mergeSort before).map f = (items.map f).mergeSort beforeToo := by
  fun_induction List.mergeSort items before with
  | case1 => simp
  | case2 before item => simp
  | case3 first second rest before halves _ _ leftSorted rightSorted =>
      have parts : halves.1.1 ++ halves.2.1 = first :: second :: rest := by
        simp [halves]
      have sorted : ((first :: second :: rest).map f).mergeSort beforeToo =
          ((halves.1.1.map f).mergeSort beforeToo).merge
            ((halves.2.1.map f).mergeSort beforeToo) beforeToo := by
        rw [List.map_cons, List.map_cons, List.mergeSort]
        simp [halves]
      rw [← parts, List.pairwise_append] at same
      rw [sorted, ← leftSorted same.1, ← rightSorted same.2.1, List.map_merge]
      -- A merge compares items of the first half with such of the second, which stand behind them.
      intro left isLeft right isRight
      exact same.2.2 left (List.mem_mergeSort.mp isLeft) right (List.mem_mergeSort.mp isRight)

theorem flatMap_of_single {α β : Type} [DecidableEq α] {names : List α} (unrepeated : names.Nodup)
    {items : α → List β} {name : α} (nothing : ∀ other, other ≠ name → items other = [])
    (nothingToo : name ∉ names → items name = []) : names.flatMap items = items name := by
  induction names with
  | nil => rw [List.flatMap_nil, nothingToo List.not_mem_nil]
  | cons first rest ih =>
      rw [List.nodup_cons] at unrepeated
      rw [List.flatMap_cons]
      by_cases here : first = name
      · subst first
        have others : rest.flatMap items = [] := by
          rw [List.flatMap_eq_nil_iff]
          intro other member
          exact nothing other fun same => unrepeated.1 (same ▸ member)
        rw [others, List.append_nil]
      · rw [nothing first here, List.nil_append]
        refine ih unrepeated.2 fun absent => nothingToo ?_
        rw [List.mem_cons]
        rintro (same | later)
        · exact here same.symm
        · exact absent later

def EndpointStat.unnumbered (stat : EndpointStat) : EndpointStat := { stat with seq := 0 }

namespace EndpointStats

def only (stats : EndpointStats) (router : String) : EndpointStats where
  rows := (stats.rows.filter (·.1.router = router)).map fun row => (row.1, row.2.unnumbered)

structure Numbered (stats : EndpointStats) : Prop where
  rising : (stats.rows.map (·.2.seq)).Pairwise (· < ·)
  bounded : ∀ number ∈ stats.rows.map (·.2.seq), number < stats.nextSeq

theorem numbered_empty : ({} : EndpointStats).Numbered := ⟨by simp, by simp⟩

section Record

variable {stats : EndpointStats} (key : EndpointKey) (seconds : Float) (status : Nat)

theorem Numbered.record (numbered : stats.Numbered) (sound : stats.Sound) :
    (stats.record key seconds status).1.Numbered := by
  by_cases known : key ∈ stats.keys
  · have sameNumbers : (stats.record key seconds status).1.rows.map (·.2.seq) =
        stats.rows.map (·.2.seq) := by
      rw [sound.record_rows_of_known key seconds status known]
      exact Entries.map_changeWhere (·.2.seq) (fun row => (row.1, row.2.update seconds status))
        (fun _ => rfl) (fun row => row.1 = key) stats.rows
    have sameNext : (stats.record key seconds status).1.nextSeq = stats.nextSeq := by
      obtain ⟨stat, found⟩ := Entries.exists_lookup known
      have isRow : stats.get? key = some stat := found
      simp only [EndpointStats.record, isRow]
    constructor
    · rw [sameNumbers]
      exact numbered.rising
    · rw [sameNumbers, sameNext]
      exact numbered.bounded
  · have nextOne : (stats.record key seconds status).1.nextSeq = stats.nextSeq + 1 := by
      simp only [EndpointStats.record, get?_eq_none.mpr known]
    constructor
    · rw [record_rows_of_new key seconds status known, List.map_append, List.pairwise_append]
      refine ⟨numbered.rising, List.pairwise_singleton _ _, ?_⟩
      intro number member other isNew
      rw [List.mem_singleton.mp isNew]
      exact numbered.bounded number member
    · rw [nextOne, record_rows_of_new key seconds status known, List.map_append]
      intro number member
      rcases List.mem_append.mp member with before | isNew
      · exact Nat.lt_succ_of_lt (numbered.bounded number before)
      · rw [List.mem_singleton.mp isNew]
        exact Nat.lt_succ_self _

theorem Numbered.removeRouter (numbered : stats.Numbered) (router : String) :
    (stats.removeRouter router).Numbered := by
  have left : ((stats.removeRouter router).rows.map (·.2.seq)).Sublist
      (stats.rows.map (·.2.seq)) := List.filter_sublist.map _
  exact ⟨numbered.rising.sublist left,
    fun number member => numbered.bounded number (left.subset member)⟩

variable (stats)

theorem get?_only : (stats.only key.router).get? key = (stats.get? key).map (·.unnumbered) := by
  rw [get?, get?, only]
  induction stats.rows with
  | nil => rfl
  | cons row rest ih =>
      by_cases own : row.1.router = key.router
      · rw [List.filter_cons_of_pos (by simpa using own), List.map_cons, List.lookup_cons,
          List.lookup_cons, ih]
        cases key == row.1 <;> rfl
      · have different : (key == row.1) = false := by
          rw [beq_eq_false_iff_ne]
          rintro rfl
          exact own rfl
        rw [List.filter_cons_of_neg (by simpa using own), ih, List.lookup_cons, different]

theorem rowAfter_only : (stats.only key.router).rowAfter key seconds status =
    (stats.rowAfter key seconds status).unnumbered := by
  rw [rowAfter, rowAfter, get?_only]
  cases stats.get? key <;> rfl

theorem mem_keys_only {router : String} :
    key ∈ (stats.only router).keys ↔ key ∈ stats.keys ∧ key.router = router := by
  simp only [keys, only, List.map_map, List.mem_map, List.mem_filter, Function.comp,
    decide_eq_true_eq]
  constructor
  · rintro ⟨row, ⟨member, own⟩, rfl⟩
    exact ⟨⟨row, member, rfl⟩, own⟩
  · rintro ⟨⟨row, member, rfl⟩, own⟩
    exact ⟨row, ⟨member, own⟩, rfl⟩

theorem rows_record :
    (stats.record key seconds status).1.rows =
      if key ∈ stats.keys then
        stats.rows.map fun row =>
          if row.1 = key then (row.1, stats.rowAfter key seconds status) else row
      else stats.rows ++ [(key, stats.rowAfter key seconds status)] := by
  rw [EndpointStats.record, rowAfter]
  cases found : stats.get? key with
  | some stat =>
      have known : key ∈ stats.keys := by
        by_contra unknown
        rw [get?_eq_none.mpr unknown] at found
        contradiction
      rw [if_pos known]
      rfl
  | none =>
      rw [if_neg (get?_eq_none.mp found)]
      rfl

theorem filter_changeRow (rows : List (EndpointKey × EndpointStat)) (stat : EndpointStat)
    (router : String) :
    (rows.map fun row => if row.1 = key then (row.1, stat) else row).filter
        (·.1.router = router) =
      (rows.filter (·.1.router = router)).map fun row =>
        if row.1 = key then (row.1, stat) else row := by
  rw [List.filter_map]
  congr 2
  funext row
  by_cases here : row.1 = key <;> simp [here]

theorem only_record_own :
    (stats.record key seconds status).1.only key.router =
      ⟨((stats.only key.router).record key seconds status).1.rows, 0⟩ := by
  rw [only, rows_record, rows_record, rowAfter_only]
  simp only [mem_keys_only, and_true]
  split
  · rw [filter_changeRow, only, List.map_map, List.map_map]
    congr 1
    apply List.map_congr_left
    intro row _
    by_cases here : row.1 = key <;> simp [here]
  · simp [only, List.filter_append]

theorem only_record_congr {other : EndpointStats}
    (same : stats.only key.router = other.only key.router) :
    (stats.record key seconds status).1.only key.router =
      (other.record key seconds status).1.only key.router := by
  rw [only_record_own, only_record_own, same]

theorem only_record_other {router : String} (other : key.router ≠ router) :
    (stats.record key seconds status).1.only router = stats.only router := by
  rw [only, rows_record, only]
  split
  · rw [filter_changeRow, List.map_map]
    congr 1
    apply List.map_congr_left
    intro row member
    have different : row.1 ≠ key := by
      rintro rfl
      exact other (by simpa using (List.mem_filter.mp member).2)
    simp [different]
  · simp [List.filter_append, other]

theorem only_removeRouter_own (router : String) : (stats.removeRouter router).only router = {} := by
  simp [only, removeRouter, List.filter_filter]

theorem only_removeRouter_other {router removed : String} (other : removed ≠ router) :
    (stats.removeRouter removed).only router = stats.only router := by
  rw [only, removeRouter, only, List.filter_filter]
  congr 2
  apply List.filter_congr
  intro row _
  by_cases own : row.1.router = router <;> simp [own, Ne.symm other]

end Record

end EndpointStats

namespace TopSet

def only (top : TopSet) (router : String) : TopSet := ⟨top.endpoints.filter (·.router = router)⟩

theorem pathsOf_only (top : TopSet) (router : String) :
    (top.only router).pathsOf router = top.pathsOf router := by
  simp [pathsOf, only, List.filter_filter]

theorem mem_only {top : TopSet} {router : String} {key : EndpointKey} :
    key ∈ (top.only router).endpoints ↔ key ∈ top.endpoints ∧ key.router = router := by
  simp [only]

theorem mem_of_mem_compute {rows : List (EndpointKey × EndpointStat)} {limit : String → Nat}
    {key : EndpointKey} (member : key ∈ (compute rows limit).endpoints) : key ∈ rows.map (·.1) := by
  obtain ⟨router, _, isIn⟩ := List.mem_flatMap.mp member
  obtain ⟨row, taken, rfl⟩ := List.mem_map.mp (mem_distinct.mp isIn)
  exact List.mem_map_of_mem (mem_candidates.mp (List.mem_of_mem_take taken)).1

theorem only_compute (rows : List (EndpointKey × EndpointStat)) (limit : String → Nat)
    (router : String) : (compute rows limit).only router =
      ⟨distinct (((candidates rows router).take (limit router)).map (·.1))⟩ := by
  let shown (router : String) : List EndpointKey :=
    distinct (((candidates rows router).take (limit router)).map (·.1))
  have shownOf : ∀ other, ∀ key ∈ shown other, key.router = other := by
    intro other key member
    obtain ⟨row, taken, rfl⟩ := List.mem_map.mp (mem_distinct.mp member)
    exact (mem_candidates.mp (List.mem_of_mem_take taken)).2.1
  have own : (shown router).filter (·.router = router) = shown router := by
    rw [List.filter_eq_self]
    intro key member
    simpa using shownOf router key member
  rw [only, compute, List.filter_flatMap, TopSet.mk.injEq]
  refine (flatMap_of_single (nodup_distinct _) ?_ ?_).trans own
  · intro other different
    rw [List.filter_eq_nil_iff]
    intro key member
    simpa [shownOf other key member] using different
  · intro absent
    rw [mem_distinct] at absent
    have none : candidates rows router = [] := by
      rw [List.eq_nil_iff_forall_not_mem]
      intro row member
      obtain ⟨isRow, rfl, _⟩ := mem_candidates.mp member
      exact absent (List.mem_map_of_mem isRow)
    simp [none, distinct]

/-- Of two rows the one that began first goes first where they are equally slow. -/
theorem goesBefore_unnumbered {first second : EndpointStat} (began : first.seq < second.seq) :
    goesBefore first second = goesBefore first.unnumbered second.unnumbered := by
  have tie : decide (first.seq ≤ second.seq) =
      decide (first.unnumbered.seq ≤ second.unnumbered.seq) := by
    simp [EndpointStat.unnumbered, Nat.le_of_lt began]
  rw [goesBefore, tie]
  rfl

theorem candidates_only {stats : EndpointStats} (numbered : stats.Numbered) (router : String) :
    (candidates stats.rows router).map (fun row => (row.1, row.2.unnumbered)) =
      candidates (stats.only router).rows router := by
  have rising := List.pairwise_map.mp numbered.rising
  have compared : (stats.rows.filter fun row =>
      row.1.router = router && 0 < row.2.totalRequests).Pairwise fun first second =>
        goesBefore first.2 second.2 = goesBefore first.2.unnumbered second.2.unnumbered :=
    (rising.imp fun began => goesBefore_unnumbered began).filter _
  rw [candidates, map_mergeSort_of_pairwise
      (fun row : EndpointKey × EndpointStat => (row.1, row.2.unnumbered))
      (fun first second => goesBefore first.2 second.2) compared, candidates,
    EndpointStats.only, List.filter_map, List.filter_filter]
  congr 2
  apply List.filter_congr
  intro row _
  by_cases own : row.1.router = router <;> simp [own, EndpointStat.unnumbered]

theorem only_compute_congr {stats other : EndpointStats} (numbered : stats.Numbered)
    (numberedToo : other.Numbered) {router : String}
    (same : stats.only router = other.only router) {limit otherLimit : String → Nat}
    (sameLimit : limit router = otherLimit router) :
    (compute stats.rows limit).only router = (compute other.rows otherLimit).only router := by
  have keys : ∀ {stats : EndpointStats}, stats.Numbered →
      (candidates stats.rows router).map (·.1) =
        (candidates (stats.only router).rows router).map (·.1) := by
    intro stats numbered
    rw [← candidates_only numbered, List.map_map]
    rfl
  rw [only_compute, only_compute, List.map_take, List.map_take, keys numbered, keys numberedToo,
    same, sameLimit]

end TopSet

end IngressMeter
