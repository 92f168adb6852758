import IngressMeter.Proofs.Decimal.Order
import IngressMeter.Proofs.Metrics.Ranking

/-!
Which endpoints the top set holds. Of the rows of a router that have requests one beats another if
its average is greater, or the same and the row is older; an endpoint is in the top set exactly if
fewer rows beat its own than its router has places. So the order of the rows makes no difference.
-/

namespace IngressMeter

theorem mem_take_iff_countP_lt {α : Type} {beats : α → α → Bool} {items : List α}
    (sorted : items.Pairwise fun first second =>
      beats first second = true ∧ beats second first = false)
    (irreflexive : ∀ item ∈ items, beats item item = false) (places : Nat) (item : α) :
    item ∈ items.take places ↔ item ∈ items ∧ items.countP (beats · item) < places := by
  induction items generalizing places with
  | nil => simp
  | cons first rest ih =>
      rw [List.pairwise_cons] at sorted
      cases places with
      | zero => simp
      | succ places =>
          rw [List.take_succ_cons, List.mem_cons, List.mem_cons]
          have later := ih sorted.2 (fun other member => irreflexive other (.tail _ member)) places
          by_cases here : item = first
          · subst first
            have unbeaten : (item :: rest).countP (beats · item) = 0 := by
              rw [List.countP_eq_zero]
              intro other member
              rcases List.mem_cons.mp member with rfl | behind
              · simp [irreflexive other member]
              · simp [(sorted.1 other behind).2]
            simp [unbeaten]
          · rw [later]
            simp only [here, false_or]
            refine and_congr_right fun behind => ?_
            rw [List.countP_cons, if_pos (sorted.1 item behind).1]
            omega

namespace EndpointStat

def beats (first second : EndpointStat) : Bool :=
  second.avgDuration < first.avgDuration ||
    first.avgDuration == second.avgDuration && first.seq < second.seq

def ranksBefore (first second : EndpointStat) : Bool :=
  floatRank second.avgDuration < floatRank first.avgDuration ||
    floatRank first.avgDuration = floatRank second.avgDuration && first.seq ≤ second.seq

theorem ranksBefore_trans (first second third : EndpointStat)
    (before : first.ranksBefore second = true) (after : second.ranksBefore third = true) :
    first.ranksBefore third = true := by
  simp only [ranksBefore, Bool.or_eq_true, Bool.and_eq_true, decide_eq_true_eq] at before after ⊢
  omega

theorem ranksBefore_total (first second : EndpointStat) :
    (first.ranksBefore second || second.ranksBefore first) = true := by
  simp only [ranksBefore, Bool.or_eq_true, Bool.and_eq_true, decide_eq_true_eq]
  omega

variable {first second : EndpointStat}

theorem beats_iff (isNumber : first.avgDuration.isNaN = false)
    (isNumber' : second.avgDuration.isNaN = false) : first.beats second = true ↔
      floatRank second.avgDuration < floatRank first.avgDuration ∨
        floatRank first.avgDuration = floatRank second.avgDuration ∧ first.seq < second.seq := by
  simp only [beats, Bool.or_eq_true, Bool.and_eq_true, decide_eq_true_eq,
    Binary.lt_iff_floatRank_lt isNumber' isNumber, Binary.beq_iff_floatRank_eq isNumber isNumber']

theorem goesBefore_eq_ranksBefore (isNumber : first.avgDuration.isNaN = false)
    (isNumber' : second.avgDuration.isNaN = false) :
    TopSet.goesBefore first second = first.ranksBefore second := by
  simp only [TopSet.goesBefore, Binary.isNotANumber_eq, isNumber, isNumber', Bool.false_or,
    decide_eq_true_eq, ranksBefore]
  by_cases same : floatRank first.avgDuration = floatRank second.avgDuration
  · simp [same]
  · simp [same]

/-- Of two different rows the one that goes first beats the other and is not beaten by it. -/
theorem beats_of_ranksBefore (isNumber : first.avgDuration.isNaN = false)
    (isNumber' : second.avgDuration.isNaN = false) (different : first.seq ≠ second.seq)
    (before : first.ranksBefore second = true) :
    first.beats second = true ∧ second.beats first = false := by
  rw [← Bool.not_eq_true, beats_iff isNumber isNumber', beats_iff isNumber' isNumber]
  simp only [ranksBefore, Bool.or_eq_true, Bool.and_eq_true, decide_eq_true_eq] at before
  omega

theorem not_beats_self (isNumber : first.avgDuration.isNaN = false) :
    first.beats first = false := by
  rw [← Bool.not_eq_true, beats_iff isNumber isNumber]
  omega

end EndpointStat

namespace TopSet

def competes (router : String) (row : EndpointKey × EndpointStat) : Bool :=
  row.1.router = router && 0 < row.2.totalRequests

theorem candidates_perm (rows : List (EndpointKey × EndpointStat)) (router : String) :
    (candidates rows router).Perm (rows.filter (competes router)) := List.mergeSort_perm _ _

section Selection

variable {rows : List (EndpointKey × EndpointStat)}
  (numbers : ∀ row ∈ rows, row.2.avgDuration.isNaN = false)

include numbers

theorem candidates_eq (router : String) : candidates rows router =
    (rows.filter (competes router)).mergeSort fun first second => first.2.ranksBefore second.2 := by
  have isNumber : ∀ row ∈ rows.filter (competes router), row.2.avgDuration.isNaN = false :=
    fun row member => numbers row (List.mem_of_mem_filter member)
  have same : (rows.filter (competes router)).Pairwise fun first second =>
      goesBefore first.2 second.2 = (id first).2.ranksBefore (id second).2 := by
    refine List.Pairwise.imp_of_mem ?_ (List.pairwise_of_forall fun _ _ => trivial)
    intro first second isFirst isSecond _
    exact EndpointStat.goesBefore_eq_ranksBefore (isNumber first isFirst) (isNumber second isSecond)
  have sorted := map_mergeSort_of_pairwise id
    (fun first second : EndpointKey × EndpointStat => first.2.ranksBefore second.2) same
  rw [List.map_id, List.map_id] at sorted
  exact sorted

theorem pairwise_candidates (distinctNumbers : (rows.map (·.2.seq)).Nodup) (router : String) :
    (candidates rows router).Pairwise fun first second =>
      first.2.beats second.2 = true ∧ second.2.beats first.2 = false := by
  have different : (candidates rows router).Pairwise fun first second =>
      first.2.seq ≠ second.2.seq := by
    have unrepeated : ((rows.filter (competes router)).map (·.2.seq)).Nodup :=
      distinctNumbers.sublist (List.filter_sublist.map _)
    have unrepeatedToo : ((candidates rows router).map (·.2.seq)).Nodup :=
      ((candidates_perm rows router).map _).nodup_iff.mpr unrepeated
    exact List.pairwise_map.mp unrepeatedToo
  have ranked : (candidates rows router).Pairwise fun first second =>
      first.2.ranksBefore second.2 = true := by
    have total : ∀ first second : EndpointKey × EndpointStat,
        (first.2.ranksBefore second.2 || second.2.ranksBefore first.2) = true :=
      fun first second => EndpointStat.ranksBefore_total first.2 second.2
    rw [candidates_eq numbers]
    refine List.pairwise_mergeSort ?_ total _
    intro first second third
    exact EndpointStat.ranksBefore_trans first.2 second.2 third.2
  refine List.Pairwise.imp_of_mem ?_ (ranked.and different)
  intro first second isFirst isSecond both
  exact EndpointStat.beats_of_ranksBefore (numbers first (mem_candidates.mp isFirst).1)
    (numbers second (mem_candidates.mp isSecond).1) both.2 both.1

theorem mem_take_candidates (distinctNumbers : (rows.map (·.2.seq)).Nodup) (router : String)
    (places : Nat) (row : EndpointKey × EndpointStat) :
    row ∈ (candidates rows router).take places ↔ row ∈ rows ∧ competes router row = true ∧
      (rows.countP fun other => competes router other && other.2.beats row.2) < places := by
  have few := mem_take_iff_countP_lt (pairwise_candidates numbers distinctNumbers router)
    (fun other member => EndpointStat.not_beats_self (numbers other (mem_candidates.mp member).1))
    places row
  rw [few, (candidates_perm rows router).countP_eq, List.countP_filter,
    (candidates_perm rows router).mem_iff, List.mem_filter, and_assoc]
  simp only [Bool.and_comm]

end Selection

theorem mem_compute (rows : List (EndpointKey × EndpointStat)) (limit : String → Nat)
    (key : EndpointKey) : key ∈ (compute rows limit).endpoints ↔
      ∃ stat, (key, stat) ∈ (candidates rows key.router).take (limit key.router) := by
  have own : key ∈ (compute rows limit).endpoints ↔
      key ∈ ((compute rows limit).only key.router).endpoints := by
    simp [mem_only]
  rw [own, only_compute, mem_distinct, List.mem_map]
  constructor
  · rintro ⟨row, taken, rfl⟩
    exact ⟨row.2, taken⟩
  · rintro ⟨stat, taken⟩
    exact ⟨(key, stat), taken, rfl⟩

theorem length_pathsOf_compute {rows : List (EndpointKey × EndpointStat)}
    (distinctKeys : (rows.map (·.1)).Nodup) (limit : String → Nat) (router : String) :
    ((compute rows limit).pathsOf router).length =
      min (limit router) (rows.countP (competes router)) := by
  have unrepeated : (((candidates rows router).take (limit router)).map (·.1)).Nodup :=
    (nodup_candidates distinctKeys router).sublist ((List.take_sublist _ _).map _)
  have shown := only_compute rows limit router
  rw [distinct_of_nodup unrepeated, only, TopSet.mk.injEq] at shown
  rw [pathsOf, shown, List.length_map, List.length_map, List.length_take,
    (candidates_perm rows router).length_eq, List.countP_eq_length_filter]

theorem nodup_pathsOf_compute (rows : List (EndpointKey × EndpointStat)) (limit : String → Nat)
    (router : String) : ((compute rows limit).pathsOf router).Nodup := by
  refine ((nodup_compute limit).filter _).map_on ?_
  intro first isFirst second isSecond samePath
  have firstRouter : first.router = router := by simpa using (List.mem_filter.mp isFirst).2
  have secondRouter : second.router = router := by simpa using (List.mem_filter.mp isSecond).2
  rw [EndpointKey.mk.injEq]
  exact ⟨firstRouter.trans secondRouter.symm, samePath⟩

theorem compute_perm {rows others : List (EndpointKey × EndpointStat)}
    (numbers : ∀ row ∈ rows, row.2.avgDuration.isNaN = false)
    (distinctNumbers : (rows.map (·.2.seq)).Nodup) (limit : String → Nat)
    (same : others.Perm rows) :
    (compute others limit).endpoints.Perm (compute rows limit).endpoints := by
  rw [List.perm_ext_iff_of_nodup (nodup_compute limit) (nodup_compute limit)]
  intro key
  have numbersToo : ∀ row ∈ others, row.2.avgDuration.isNaN = false :=
    fun row member => numbers row (same.subset member)
  have distinctToo : (others.map (·.2.seq)).Nodup := (same.map _).nodup_iff.mpr distinctNumbers
  simp only [mem_compute, mem_take_candidates numbers distinctNumbers,
    mem_take_candidates numbersToo distinctToo, same.mem_iff, same.countP_eq]

/-- An endpoint is in the top set exactly if its row has requests and fewer such rows of its router
beat it than the router has places. So each router fills its places as far as it has rows, and the
order of the rows makes no difference. -/
theorem compute_selects_slowest (rows : List (EndpointKey × EndpointStat)) (limit : String → Nat)
    (distinctKeys : (rows.map (·.1)).Nodup) (distinctNumbers : (rows.map (·.2.seq)).Nodup)
    (numbers : ∀ row ∈ rows, row.2.avgDuration.isNaN = false) :
    let top := compute rows limit
    (∀ router path, top.contains ⟨router, path⟩ = true ↔
      ∃ stat, (⟨router, path⟩, stat) ∈ rows ∧ 0 < stat.totalRequests ∧
        (rows.countP fun other => other.1.router = router && 0 < other.2.totalRequests &&
          other.2.beats stat) < limit router) ∧
      (∀ router, (top.pathsOf router).Nodup ∧
        (top.pathsOf router).length = min (limit router)
          (rows.countP fun row => row.1.router = router && 0 < row.2.totalRequests)) ∧
      ∀ others, others.Perm rows →
        (compute others limit).endpoints.Perm top.endpoints := by
  intro top
  refine ⟨?_, ?_, ?_⟩
  · intro router path
    rw [contains_iff, mem_compute]
    simp only [mem_take_candidates numbers distinctNumbers, competes, Bool.and_eq_true,
      decide_eq_true_eq, true_and]
  · intro router
    exact ⟨nodup_pathsOf_compute rows limit router,
      length_pathsOf_compute distinctKeys limit router⟩
  · intro others same
    exact compute_perm numbers distinctNumbers limit same

def tied : List (EndpointKey × EndpointStat) :=
  let row (router path : String) (requests : Nat) (seconds : Float) (seq : Nat) :=
    (EndpointKey.mk router path, EndpointStat.mk requests seconds seconds 0 0 0 seq)
  [row "r" "/late" 1 0.1 5, row "r" "/slow" 2 0.6 3, row "r" "/early" 1 0.1 1,
    row "r" "/none" 0 0 0, row "s" "/late" 1 0.05 7]

theorem compute_selects_slowest_tied :
    (tied.map (·.1)).Nodup ∧ (tied.map (·.2.seq)).Nodup ∧
      (∀ row ∈ tied, row.2.avgDuration.isNaN = false) ∧
      (compute tied fun _ => 2).contains ⟨"r", "/early"⟩ = true ∧
      ((compute tied fun _ => 2).pathsOf "r").length = 2 ∧
      (compute tied.reverse fun _ => 2).endpoints.Perm (compute tied fun _ => 2).endpoints := by
  have distinctKeys : (tied.map (·.1)).Nodup := by decide +kernel
  have distinctNumbers : (tied.map (·.2.seq)).Nodup := by decide +kernel
  have numbers : ∀ row ∈ tied, row.2.avgDuration.isNaN = false := by decide +kernel
  obtain ⟨selects, fills, anyOrder⟩ :=
    compute_selects_slowest tied (fun _ => 2) distinctKeys distinctNumbers numbers
  refine ⟨distinctKeys, distinctNumbers, numbers, ?_, ?_, anyOrder _ (List.reverse_perm tied)⟩
  · rw [selects]
    exact ⟨⟨1, 0.1, 0.1, 0, 0, 0, 1⟩, by simp [tied], by decide, by decide +kernel⟩
  · rw [(fills "r").2]
    decide +kernel

end TopSet

end IngressMeter
