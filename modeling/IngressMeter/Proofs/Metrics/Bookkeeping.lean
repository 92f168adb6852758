import IngressMeter.Proofs.Metrics.Steps

/-!
In every state that a new engine can come to, a router is remembered exactly while it has rows, and
no router, row or endpoint of the top set stands twice. A top set that was just decided holds of
each remembered router as many endpoints as it has, up to its limit.
-/

namespace IngressMeter.Engine

structure Bookkept (engine : Engine) : Prop where
  rows : engine.stats.Sound
  routers : engine.remembered.Nodup
  remembered : ∀ router, router ∈ engine.remembered ↔ ∃ path, ⟨router, path⟩ ∈ engine.stats.keys
  endpoints : engine.top.endpoints.Nodup

theorem mem_remembered_rememberRouter (engine : Engine) (target : EndpointTarget) (topCount : Nat)
    (router : String) :
    router ∈ (engine.rememberRouter target topCount).remembered ↔
      router ∈ engine.remembered ∨ router = target.router := by
  rw [remembered_rememberRouter]
  split
  · rename_i known
    constructor
    · exact Or.inl
    · rintro (member | same)
      · exact member
      · exact same ▸ known
  · simp

theorem remembered_observe (engine : Engine) (target : EndpointTarget) (record : AccessRecord)
    (path : String) (topCount : Nat) :
    (engine.observe target record path topCount).remembered =
      (engine.rememberRouter target topCount).remembered := by
  simp only [remembered, observe_routers]

theorem bookkept_new : ({} : Engine).Bookkept where
  rows := EndpointStats.sound_empty
  routers := by simp [remembered]
  remembered := by simp [remembered, EndpointStats.keys]
  endpoints := by simp

variable {engine : Engine}

theorem Bookkept.observe (kept : engine.Bookkept) (target : EndpointTarget) (record : AccessRecord)
    (path : String) (topCount : Nat) : (engine.observe target record path topCount).Bookkept := by
  refine ⟨?_, ?_, ?_, ?_⟩
  · rw [observe_stats]
    exact kept.rows.record _ _ _
  · rw [remembered_observe, remembered_rememberRouter]
    split
    · exact kept.routers
    · rename_i unknown
      rw [← List.concat_eq_append]
      exact List.Nodup.concat unknown kept.routers
  · intro router
    rw [remembered_observe, mem_remembered_rememberRouter, kept.remembered, observe_stats]
    simp only [EndpointStats.mem_keys_record]
    constructor
    · rintro (⟨other, member⟩ | same)
      · exact ⟨other, Or.inl member⟩
      · exact ⟨path, Or.inr (by rw [same])⟩
    · rintro ⟨other, member | same⟩
      · exact Or.inl ⟨other, member⟩
      · exact Or.inr (congrArg EndpointKey.router same)
  · rw [observe_top]
    exact kept.endpoints

theorem Bookkept.refreshTop (kept : engine.Bookkept) : engine.refreshTop.Bookkept :=
  ⟨kept.rows, kept.routers, kept.remembered, TopSet.nodup_compute _⟩

theorem Bookkept.forgetRouter (kept : engine.Bookkept) (router : String) :
    (engine.forgetRouter router).Bookkept := by
  have rows : (engine.forgetRouter router).stats.keys =
      engine.stats.keys.filter fun key => key.router ≠ router := by
    rw [forgetRouter_stats]
    split
    · exact EndpointStats.keys_removeRouter _ _
    · rename_i unknown
      refine (List.filter_eq_self.mpr ?_).symm
      intro key member
      have different : key.router ≠ router := by
        intro same
        exact unknown ((kept.remembered router).mpr ⟨key.path, same ▸ member⟩)
      simpa using different
  refine ⟨?_, ?_, ?_, ?_⟩
  · rw [forgetRouter_stats]
    split
    · exact kept.rows.removeRouter router
    · exact kept.rows
  · rw [remembered_forgetRouter]
    exact kept.routers.filter _
  · intro other
    rw [remembered_forgetRouter, rows]
    simp only [List.mem_filter, decide_eq_true_eq, kept.remembered]
    constructor
    · rintro ⟨⟨path, member⟩, different⟩
      exact ⟨path, member, different⟩
    · rintro ⟨path, member, different⟩
      exact ⟨⟨path, member⟩, different⟩
  · rw [forgetRouter_top]
    exact kept.endpoints

theorem Bookkept.step (kept : engine.Bookkept) (step : EngineStep) :
    (engine.step step).Bookkept := by
  cases step with
  | observe target record path topCount => exact kept.observe target record path topCount
  | refreshTop => exact kept.refreshTop
  | forgetRouter router => exact kept.forgetRouter router
  | observeOverhead record => exact ⟨kept.rows, kept.routers, kept.remembered, kept.endpoints⟩
  | countLine outcome => exact ⟨kept.rows, kept.routers, kept.remembered, kept.endpoints⟩
  | resetEndpointSeries => exact ⟨kept.rows, kept.routers, kept.remembered, kept.endpoints⟩
  | scrape => exact ⟨kept.rows, kept.routers, kept.remembered, kept.endpoints⟩

theorem run_bookkept (steps : List EngineStep) : (run steps).Bookkept := by
  induction steps using List.reverseRecOn with
  | nil => exact bookkept_new
  | append_singleton steps step ih =>
      rw [run, List.foldl_concat]
      exact ih.step step

def places (engine : Engine) : Nat :=
  (engine.routers.map fun (router, info) => min info.topCount (engine.trackedPaths router)).sum

theorem Bookkept.size_refreshTop (kept : engine.Bookkept) :
    engine.refreshTop.top.size = engine.refreshTop.places := by
  have covered : ∀ router ∈ engine.stats.rows.map (·.1.router), router ∈ engine.remembered := by
    intro router member
    obtain ⟨row, isRow, rfl⟩ := List.mem_map.mp member
    exact (kept.remembered _).mpr ⟨row.1.path, List.mem_map_of_mem isRow⟩
  have nothing : ∀ router, router ∉ engine.stats.rows.map (·.1.router) →
      min (engine.limit router) (engine.trackedPaths router) = 0 := by
    intro router absent
    have none : engine.stats.rows.filter (fun row => row.1.router = router) = [] := by
      rw [List.filter_eq_nil_iff]
      intro row isRow
      have different : row.1.router ≠ router := by
        intro same
        exact absent (List.mem_map.mpr ⟨row, isRow, same⟩)
      simpa using different
    simp [trackedPaths, EndpointStats.pathCount, none]
  calc engine.refreshTop.top.size
      = ((TopSet.distinct (engine.stats.rows.map (·.1.router))).map fun router =>
          min (engine.limit router) (engine.trackedPaths router)).sum :=
        TopSet.size_compute kept.rows.distinct kept.rows.requested engine.limit
    _ = (engine.remembered.map fun router =>
          min (engine.limit router) (engine.trackedPaths router)).sum :=
        TopSet.sum_distinct kept.routers covered _ nothing
    _ = engine.refreshTop.places := by
        rw [Engine.remembered, List.map_map, places]
        congr 1
        apply List.map_congr_left
        intro entry member
        have known : engine.info? entry.1 = some entry.2 := Entries.lookup_of_mem kept.routers member
        simp only [Function.comp, limit, known]
        rfl

end IngressMeter.Engine
