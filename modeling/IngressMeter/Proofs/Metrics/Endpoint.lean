import IngressMeter.Metrics.Endpoint
import IngressMeter.Proofs.Entries

/-!
What recording a request and removing a router do to the rows. Each endpoint has one row, so a
request changes that of its own endpoint and no other, and the rows together count every request.
-/

namespace IngressMeter.EndpointStats

def keys (stats : EndpointStats) : List EndpointKey := stats.rows.map (·.1)

structure Sound (stats : EndpointStats) : Prop where
  distinct : stats.keys.Nodup
  requested : ∀ row ∈ stats.rows, 0 < row.2.totalRequests

def requestCount (stats : EndpointStats) : Nat := (stats.rows.map (·.2.totalRequests)).sum

def rowAfter (stats : EndpointStats) (key : EndpointKey) (seconds : Float) (status : Nat) :
    EndpointStat :=
  ((stats.get? key).getD (.start stats.nextSeq)).update seconds status

theorem sound_empty : ({} : EndpointStats).Sound := ⟨by simp [keys], by simp⟩

theorem get?_eq_none {stats : EndpointStats} {key : EndpointKey} :
    stats.get? key = none ↔ key ∉ stats.keys := Entries.lookup_eq_none

variable (stats : EndpointStats) (key : EndpointKey) (seconds : Float) (status : Nat)

@[simp] theorem record_stat :
    (stats.record key seconds status).2 = stats.rowAfter key seconds status := by
  rw [record, rowAfter]
  cases stats.get? key <;> rfl

theorem keys_record :
    (stats.record key seconds status).1.keys =
      if key ∈ stats.keys then stats.keys else stats.keys ++ [key] := by
  rw [record]
  cases found : stats.get? key with
  | some stat =>
      have known : key ∈ stats.keys := by
        by_contra unknown
        rw [get?_eq_none.mpr unknown] at found
        contradiction
      rw [if_pos known]
      exact Entries.map_changeWhere Prod.fst (fun row => (row.1, stat.update seconds status))
        (fun _ => rfl) (fun row => row.1 = key) stats.rows
  | none =>
      rw [if_neg (get?_eq_none.mp found)]
      simp [keys]

theorem mem_keys_record {other : EndpointKey} :
    other ∈ (stats.record key seconds status).1.keys ↔ other ∈ stats.keys ∨ other = key := by
  rw [keys_record]
  split
  · rename_i known
    constructor
    · exact Or.inl
    · rintro (member | same)
      · exact member
      · exact same ▸ known
  · simp

theorem get?_record (asked : EndpointKey) :
    (stats.record key seconds status).1.get? asked =
      if asked = key then some (stats.rowAfter key seconds status) else stats.get? asked := by
  rw [record, rowAfter]
  cases found : stats.get? key with
  | some stat =>
      simp only [get?, Entries.lookup_replace]
      by_cases same : asked = key
      · rw [if_pos same, if_pos same, same]
        rw [get?] at found
        simp [found]
      · rw [if_neg same, if_neg same]
  | none =>
      simp only [get?, List.lookup_append]
      by_cases same : asked = key
      · rw [if_pos same, same]
        rw [get?] at found
        simp [found]
      · simp [List.lookup_cons, beq_eq_false_iff_ne.mpr same, same]

variable {stats}

theorem Sound.record_rows_of_known (sound : stats.Sound) (known : key ∈ stats.keys) :
    (stats.record key seconds status).1.rows =
      stats.rows.map fun row =>
        if row.1 = key then (row.1, row.2.update seconds status) else row := by
  obtain ⟨stat, found⟩ := Entries.exists_lookup known
  have isRow : stats.get? key = some stat := found
  simp only [record, isRow]
  apply List.map_congr_left
  intro row member
  by_cases here : row.1 = key
  · have same := Entries.lookup_of_mem sound.distinct member
    rw [here, found, Option.some.injEq] at same
    rw [if_pos here, if_pos here, same]
  · rw [if_neg here, if_neg here]

theorem record_rows_of_new (new : key ∉ stats.keys) :
    (stats.record key seconds status).1.rows =
      stats.rows ++ [(key, (EndpointStat.start stats.nextSeq).update seconds status)] := by
  simp only [record, get?_eq_none.mpr new]

theorem Sound.record (sound : stats.Sound) : (stats.record key seconds status).1.Sound := by
  by_cases known : key ∈ stats.keys
  · refine ⟨?_, ?_⟩
    · rw [keys_record, if_pos known]
      exact sound.distinct
    · intro row member
      rw [sound.record_rows_of_known key seconds status known] at member
      obtain ⟨before, wasRow, same⟩ := List.mem_map.mp member
      subst row
      split
      · exact Nat.succ_pos _
      · exact sound.requested before wasRow
  · refine ⟨?_, ?_⟩
    · rw [keys_record, if_neg known, ← List.concat_eq_append]
      exact List.Nodup.concat known sound.distinct
    · intro row member
      rw [record_rows_of_new key seconds status known] at member
      rcases List.mem_append.mp member with wasRow | isNew
      · exact sound.requested row wasRow
      · rw [List.mem_singleton.mp isNew]
        exact Nat.succ_pos _

theorem Sound.requestCount_record (sound : stats.Sound) :
    (stats.record key seconds status).1.requestCount = stats.requestCount + 1 := by
  by_cases known : key ∈ stats.keys
  · rw [requestCount, sound.record_rows_of_known key seconds status known]
    exact Entries.sum_changeAt Prod.fst (fun row => (row.1, row.2.update seconds status))
      (·.2.totalRequests) (fun _ => rfl) sound.distinct known
  · rw [requestCount, record_rows_of_new key seconds status known]
    simp [requestCount, EndpointStat.start, EndpointStat.update]

variable (stats)

theorem keys_removeRouter (router : String) :
    (stats.removeRouter router).keys = stats.keys.filter fun key => key.router ≠ router := by
  simp only [keys, removeRouter, List.filter_map]
  rfl

variable {stats}

theorem Sound.removeRouter (sound : stats.Sound) (router : String) :
    (stats.removeRouter router).Sound := by
  refine ⟨?_, ?_⟩
  · rw [keys_removeRouter]
    exact sound.distinct.filter _
  · intro row member
    exact sound.requested row (List.mem_of_mem_filter member)

theorem Sound.get?_removeRouter (sound : stats.Sound) {key : EndpointKey} {router : String}
    (other : key.router ≠ router) : (stats.removeRouter router).get? key = stats.get? key := by
  rw [get?, EndpointStats.removeRouter, Entries.lookup_filter sound.distinct, get?]
  cases stats.rows.lookup key with
  | none => rfl
  | some stat => simp [other]

end IngressMeter.EndpointStats
