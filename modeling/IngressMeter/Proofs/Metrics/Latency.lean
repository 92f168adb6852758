import IngressMeter.Proofs.Metrics.Bookkeeping

/-!
Latencies are shown for endpoints of the top set only. In every state that a new engine can come to,
each latency stands under the remembered labels of a router that has its path in the top set, so
there are never more latencies than the top set has endpoints.
-/

namespace IngressMeter

namespace Metrics

def latencyFamilies : List (Metrics → SeriesMap Float) := [(·.avgLatency), (·.maxLatency)]

theorem mem_latencyFamilies {family : Metrics → SeriesMap Float} :
    family ∈ latencyFamilies ↔ family = (·.avgLatency) ∨ family = (·.maxLatency) := by
  simp [latencyFamilies]

theorem latencyFamilies_removeAll {family : Metrics → SeriesMap Float}
    (isFamily : family ∈ latencyFamilies) (removed : List (List String)) (metrics : Metrics) :
    family (removed.foldl removeLatency metrics) =
      removed.foldl SeriesMap.remove (family metrics) := by
  rw [removeLatencies_eq]
  rcases mem_latencyFamilies.mp isFamily with rfl | rfl <;> rfl

end Metrics

structure Metrics.LatenciesPaired (metrics : Metrics) : Prop where
  same : metrics.avgLatency.labelSets = metrics.maxLatency.labelSets
  separate : metrics.avgLatency.Separate

namespace Metrics.LatenciesPaired

variable {metrics : Metrics}

theorem removeAll (paired : metrics.LatenciesPaired) (removed : List (List String)) :
    (removed.foldl removeLatency metrics).LatenciesPaired := by
  rw [removeLatencies_eq]
  refine ⟨?_, paired.separate.removeAll removed⟩
  simp only [SeriesMap.labelSets_removeAll, paired.same]

theorem countRequest (paired : metrics.LatenciesPaired) (target : EndpointTarget)
    (record : AccessRecord) : (Engine.countRequest target record metrics).LatenciesPaired :=
  ⟨paired.same, paired.separate⟩

theorem countEndpoint (paired : metrics.LatenciesPaired) (target : EndpointTarget)
    (record : AccessRecord) (path : String) (stat : EndpointStat) :
    (Engine.countEndpoint target record path stat metrics).LatenciesPaired := by
  rw [Engine.countEndpoint_eq]
  exact ⟨SeriesMap.labelSets_set_congr paired.same _ _ _, paired.separate.update _ _ _⟩

theorem labelSets_eq (paired : metrics.LatenciesPaired) {family : Metrics → SeriesMap Float}
    (isFamily : family ∈ latencyFamilies) :
    (family metrics).labelSets = metrics.avgLatency.labelSets := by
  rcases mem_latencyFamilies.mp isFamily with rfl | rfl
  · rfl
  · exact paired.same.symm

end Metrics.LatenciesPaired

namespace Engine

theorem countEndpoint_avgLatency (target : EndpointTarget) (record : AccessRecord) (path : String)
    (stat : EndpointStat) (metrics : Metrics) :
    (countEndpoint target record path stat metrics).avgLatency =
      metrics.avgLatency.set [target.namespaceName, target.ingress, path] stat.avgDuration := by
  rw [countEndpoint_eq]
  rfl

def Shows (engine : Engine) (labels : List String) : Prop :=
  ∃ router info path, engine.info? router = some info ∧
    ⟨router, path⟩ ∈ engine.top.endpoints ∧ labels = gaugeValues info path

structure LatencySound (engine : Engine) : Prop where
  paired : engine.metrics.LatenciesPaired
  shown : ∀ labels ∈ engine.metrics.avgLatency.labelSets, engine.Shows labels

theorem latencySound_new : ({} : Engine).LatencySound where
  paired := ⟨rfl, SeriesMap.separate_empty⟩
  shown := by simp [SeriesMap.labelSets]

section LatencySound

variable {engine : Engine}

theorem info?_observe (target : EndpointTarget) (record : AccessRecord) (path : String)
    (topCount : Nat) (router : String) :
    (engine.observe target record path topCount).info? router =
      if router = target.router then some (infoOf target topCount) else engine.info? router := by
  rw [info?, observe_routers]
  exact info?_rememberRouter engine target topCount router

/-- A label that is left after a target is remembered is shown still, under its own labels if these
are those of the target. -/
theorem Shows.observe {labels : List String} (shows : engine.Shows labels) (target : EndpointTarget)
    (record : AccessRecord) (path : String) (topCount : Nat)
    (left : ∀ moved ∈ engine.movedLabels target, SeriesMap.slot labels ≠ SeriesMap.slot moved) :
    (engine.observe target record path topCount).Shows labels := by
  obtain ⟨router, info, shownPath, known, inTop, rfl⟩ := shows
  by_cases same : router = target.router
  · subst router
    have kept : ¬(info.namespaceName ≠ target.namespaceName ∨ info.ingress ≠ target.ingress) := by
      intro moved
      refine left (gaugeValues info shownPath) ?_ rfl
      simp only [movedLabels, known, if_pos moved]
      exact List.mem_map_of_mem (TopSet.mem_pathsOf.mpr inTop)
    push Not at kept
    refine ⟨target.router, infoOf target topCount, shownPath, ?_, by simpa using inTop, ?_⟩
    · rw [info?_observe, if_pos rfl]
    · simp [gaugeValues, infoOf, kept]
  · refine ⟨router, info, shownPath, ?_, by simpa using inTop, rfl⟩
    rw [info?_observe, if_neg same, known]

theorem LatencySound.observe (sound : engine.LatencySound) (target : EndpointTarget)
    (record : AccessRecord) (path : String) (topCount : Nat) :
    (engine.observe target record path topCount).LatencySound := by
  have remaining : ∀ labels ∈ ((engine.movedLabels target).foldl SeriesMap.remove
      engine.metrics.avgLatency).labelSets,
      (engine.observe target record path topCount).Shows labels := by
    intro labels member
    obtain ⟨before, left⟩ := SeriesMap.mem_labelSets_removeAll.mp member
    exact (sound.shown labels before).observe target record path topCount left
  have paired := (sound.paired.countRequest target record).removeAll (engine.movedLabels target)
  constructor
  · rw [observe_metrics]
    dsimp only
    split
    · exact paired.countEndpoint target record path _
    · exact paired
  · intro labels member
    rw [observe_metrics] at member
    dsimp only at member
    split at member
    · rename_i inTop
      rw [countEndpoint_avgLatency, Metrics.removeLatencies_eq] at member
      rcases SeriesMap.mem_labelSets_update member with earlier | written
      · exact remaining labels earlier
      · refine ⟨target.router, infoOf target topCount, path, ?_, by simpa using inTop, written⟩
        rw [info?_observe, if_pos rfl]
    · rw [Metrics.removeLatencies_eq] at member
      exact remaining labels member

theorem LatencySound.refreshTop (sound : engine.LatencySound) : engine.refreshTop.LatencySound := by
  constructor
  · rw [refreshTop_metrics]
    exact sound.paired.removeAll _
  · intro labels member
    rw [refreshTop_metrics, Metrics.removeLatencies_eq] at member
    obtain ⟨before, left⟩ := SeriesMap.mem_labelSets_removeAll.mp member
    obtain ⟨router, info, path, known, inTop, rfl⟩ := sound.shown labels before
    refine ⟨router, info, path, known, ?_, rfl⟩
    -- An endpoint that fell out of the top set took this label with it.
    by_contra fallen
    refine left (gaugeValues info path) ?_ rfl
    rw [fallenLabels, List.mem_filterMap]
    refine ⟨⟨router, path⟩, List.mem_filter.mpr ⟨inTop, ?_⟩, by simp [labelsOf, known]⟩
    simpa [← TopSet.contains_iff] using fallen

theorem LatencySound.forgetRouter (sound : engine.LatencySound) (forgotten : String) :
    (engine.forgetRouter forgotten).LatencySound := by
  constructor
  · rw [forgetRouter_metrics]
    exact sound.paired.removeAll _
  · intro labels member
    rw [forgetRouter_metrics, Metrics.removeLatencies_eq] at member
    obtain ⟨before, left⟩ := SeriesMap.mem_labelSets_removeAll.mp member
    obtain ⟨router, info, path, known, inTop, rfl⟩ := sound.shown labels before
    have different : router ≠ forgotten := by
      intro same
      subst router
      refine left (gaugeValues info path) ?_ rfl
      rw [forgottenLabels, known]
      exact List.mem_map_of_mem (TopSet.mem_pathsOf.mpr inTop)
    refine ⟨router, info, path, ?_, by simpa using inTop, rfl⟩
    rw [info?_forgetRouter, if_neg different, known]

theorem LatencySound.step (sound : engine.LatencySound) (step : EngineStep) :
    (engine.step step).LatencySound := by
  cases step with
  | observe target record path topCount => exact sound.observe target record path topCount
  | refreshTop => exact sound.refreshTop
  | forgetRouter router => exact sound.forgetRouter router
  | resetEndpointSeries => exact ⟨⟨rfl, SeriesMap.separate_empty⟩, fun _ member => nomatch member⟩
  | observeOverhead record => exact ⟨⟨sound.paired.same, sound.paired.separate⟩, sound.shown⟩
  | countLine outcome => exact ⟨⟨sound.paired.same, sound.paired.separate⟩, sound.shown⟩
  | scrape => exact ⟨⟨sound.paired.same, sound.paired.separate⟩, sound.shown⟩

theorem run_latencySound (steps : List EngineStep) : (run steps).LatencySound := by
  induction steps using List.reverseRecOn with
  | nil => exact latencySound_new
  | append_singleton steps step ih =>
      rw [run, List.foldl_concat]
      exact ih.step step

theorem LatencySound.length_le (sound : engine.LatencySound) :
    engine.metrics.avgLatency.series.length ≤ engine.top.size := by
  -- The endpoint tells its label values, so there is one series for each at most.
  have covered : engine.metrics.avgLatency.labelSets ⊆
      engine.top.endpoints.filterMap engine.labelsOf := by
    intro labels member
    obtain ⟨router, info, path, known, inTop, rfl⟩ := sound.shown labels member
    exact List.mem_filterMap.mpr ⟨⟨router, path⟩, inTop, by simp [labelsOf, known]⟩
  have bound := (sound.paired.separate.labelSets_nodup.subperm covered).length_le
  rw [SeriesMap.labelSets, List.length_map] at bound
  exact bound.trans (List.length_filterMap_le _ _)

end LatencySound

/-- In every state that a new engine can come to, both families of latencies show the same label
values, all of them those of an endpoint in the top set. -/
theorem run_latencies_within_top (steps : List EngineStep) :
    let engine := run steps
    engine.metrics.avgLatency.labelSets = engine.metrics.maxLatency.labelSets ∧
      (∀ labels ∈ engine.metrics.avgLatency.labelSets, ∃ router info path,
        engine.info? router = some info ∧ engine.top.contains ⟨router, path⟩ = true ∧
        labels = [info.namespaceName, info.ingress, path]) ∧
      engine.metrics.avgLatency.series.length ≤ engine.top.size ∧
      engine.metrics.maxLatency.series.length ≤ engine.top.size ∧
      engine.top.endpoints.Nodup ∧
      engine.refreshTop.top.size = engine.refreshTop.places := by
  intro engine
  have sound : engine.LatencySound := run_latencySound steps
  have kept : engine.Bookkept := run_bookkept steps
  have sameLength : engine.metrics.avgLatency.series.length =
      engine.metrics.maxLatency.series.length := by
    simpa [SeriesMap.labelSets] using congrArg List.length sound.paired.same
  refine ⟨sound.paired.same, ?_, sound.length_le, ?_, kept.endpoints, kept.size_refreshTop⟩
  · intro labels member
    obtain ⟨router, info, path, known, inTop, same⟩ := sound.shown labels member
    exact ⟨router, info, path, known, TopSet.contains_iff.mpr inTop, same⟩
  · rw [← sameLength]
    exact sound.length_le

end Engine

end IngressMeter
