import IngressMeter.Proofs.Metrics.Freshness

/-!
What is left of a router that is forgotten. Its rows and latencies go, and the error rates stay that
it has since the last scrape; of other routers everything stays, but for latencies that share a slot
with one of its own.
-/

namespace IngressMeter

namespace Metrics

def errorFamilies : List (Metrics → SeriesMap Float) :=
  [(·.errorRate), (·.clientErrorRate), (·.serverErrorRate)]

def gaugeFamilies : List (Metrics → SeriesMap Float) := latencyFamilies ++ errorFamilies

theorem mem_errorFamilies {family : Metrics → SeriesMap Float} :
    family ∈ errorFamilies ↔
      family = (·.errorRate) ∨ family = (·.clientErrorRate) ∨ family = (·.serverErrorRate) := by
  simp [errorFamilies]

theorem errorFamilies_removeAll {family : Metrics → SeriesMap Float}
    (isFamily : family ∈ errorFamilies) (removed : List (List String)) (metrics : Metrics) :
    family (removed.foldl removeLatency metrics) = family metrics := by
  rw [removeLatencies_eq]
  rcases mem_errorFamilies.mp isFamily with rfl | rfl | rfl <;> rfl

end Metrics

namespace Engine

/-- Whether forgetting a router leaves nothing of it, and all that there is of the others. -/
structure ForgetsExactly (engine : Engine) (router : String) (info : RouterInfo) : Prop where
  rows : ∀ path, (engine.forgetRouter router).stats.get? ⟨router, path⟩ = none
  gauges : ∀ family ∈ Metrics.gaugeFamilies, ∀ path, [info.namespaceName, info.ingress, path] ∉
    (family (engine.forgetRouter router).metrics).labelSets
  otherRows : ∀ key : EndpointKey, key.router ≠ router →
    (engine.forgetRouter router).stats.get? key = engine.stats.get? key
  otherGauges : ∀ family ∈ Metrics.gaugeFamilies, ∀ namespaceName ingress path value,
    targetKey namespaceName ingress ≠ router →
      (([namespaceName, ingress, path], value) ∈
          (family (engine.forgetRouter router).metrics).series ↔
        ([namespaceName, ingress, path], value) ∈ (family engine.metrics).series)

def ShowsErrors (engine : Engine) (info : RouterInfo) : Prop :=
  ∃ family ∈ Metrics.errorFamilies, ∃ path,
    [info.namespaceName, info.ingress, path] ∈ (family engine.metrics).labelSets

/-- Whether a latency of another router shares its slot with an endpoint of this one. -/
def SharesSlot (engine : Engine) (router : String) (info : RouterInfo) : Prop :=
  ∃ path ∈ engine.top.pathsOf router, ∃ namespaceName ingress other,
    [namespaceName, ingress, other] ∈ engine.metrics.avgLatency.labelSets ∧
      targetKey namespaceName ingress ≠ router ∧
      SeriesMap.slot [namespaceName, ingress, other] =
        SeriesMap.slot [info.namespaceName, info.ingress, path]

section Forget

variable {engine : Engine} {router : String} {info : RouterInfo} (keyed : engine.Keyed)
  (known : engine.info? router = some info)

include known

theorem mem_forgottenLabels {labels : List String} :
    labels ∈ engine.forgottenLabels router ↔
      ∃ path ∈ engine.top.pathsOf router, [info.namespaceName, info.ingress, path] = labels := by
  simp only [forgottenLabels, known, List.mem_map, gaugeValues]

include keyed

theorem Keyed.get?_forgetRouter (key : EndpointKey) :
    (engine.forgetRouter router).stats.get? key =
      if key.router = router then none else engine.stats.get? key := by
  rw [forgetRouter_stats, if_pos (mem_remembered_of_info known)]
  split
  · rename_i own
    rw [EndpointStats.get?_eq_none, EndpointStats.keys_removeRouter, List.mem_filter]
    simp [own]
  · rename_i foreign
    exact keyed.kept.rows.get?_removeRouter foreign

theorem Keyed.not_mem_latencies_forgetRouter {family : Metrics → SeriesMap Float}
    (isFamily : family ∈ Metrics.latencyFamilies) (path : String) :
    [info.namespaceName, info.ingress, path] ∉
      (family (engine.forgetRouter router).metrics).labelSets := by
  have after := keyed.forgetRouter router
  rw [after.latencies.paired.labelSets_eq isFamily]
  intro left
  obtain ⟨leftInfo, leftKnown, _⟩ := after.labels_eq left
  rw [keyed.keyed router info known, info?_forgetRouter, if_pos rfl] at leftKnown
  contradiction

/-- A router that is forgotten leaves nothing behind and takes nothing from others exactly if no
error rate stands under its labels and no latency of another router shares its slot with one of its
endpoints. -/
theorem Keyed.forgetsExactly_iff :
    engine.ForgetsExactly router info ↔
      ¬engine.ShowsErrors info ∧ ¬engine.SharesSlot router info := by
  constructor
  · intro forgets
    refine ⟨?_, ?_⟩
    · rintro ⟨family, isFamily, path, shown⟩
      have gone := forgets.gauges family (List.mem_append_right _ isFamily) path
      rw [forgetRouter_metrics, Metrics.errorFamilies_removeAll isFamily] at gone
      exact gone shown
    · rintro ⟨path, inTop, namespaceName, ingress, other, shown, foreign, sameSlot⟩
      obtain ⟨value, member⟩ := SeriesMap.mem_labelSets.mp shown
      have stays := (forgets.otherGauges (·.avgLatency) (by simp [Metrics.gaugeFamilies,
        Metrics.latencyFamilies]) namespaceName ingress other value foreign).mpr member
      rw [forgetRouter_metrics, Metrics.removeLatencies_eq, SeriesMap.mem_removeAll] at stays
      exact stays.2 _ ((mem_forgottenLabels known).mpr ⟨path, inTop, rfl⟩) sameSlot
  · rintro ⟨noErrors, apart⟩
    refine ⟨?_, ?_, ?_, ?_⟩
    · intro path
      rw [keyed.get?_forgetRouter known, if_pos rfl]
    · intro family isFamily path
      rcases List.mem_append.mp isFamily with isLatency | isError
      · exact keyed.not_mem_latencies_forgetRouter known isLatency path
      · rw [forgetRouter_metrics, Metrics.errorFamilies_removeAll isError]
        exact fun shown => noErrors ⟨family, isError, path, shown⟩
    · intro key foreign
      rw [keyed.get?_forgetRouter known, if_neg foreign]
    · intro family isFamily namespaceName ingress other value foreign
      rw [forgetRouter_metrics]
      rcases List.mem_append.mp isFamily with isLatency | isError
      · rw [Metrics.latencyFamilies_removeAll isLatency, SeriesMap.mem_removeAll]
        refine and_iff_left_of_imp fun member removed isRemoved sameSlot => ?_
        obtain ⟨path, inTop, rfl⟩ := (mem_forgottenLabels known).mp isRemoved
        have shown := SeriesMap.mem_labelSets.mpr ⟨value, member⟩
        rw [keyed.latencies.paired.labelSets_eq isLatency] at shown
        exact apart ⟨path, inTop, namespaceName, ingress, other, shown, foreign, sameSlot⟩
      · rw [Metrics.errorFamilies_removeAll isError]

end Forget

/-- Where each target is observed under the key of its labels, forgetting a remembered router drops
its rows and its latencies, leaves the rows of all others and leaves all error rates as they are. So
it drops all that is shown of the router and nothing else exactly if no error rate stands under its
labels and no latency of another router shares its slot with one of its endpoints. -/
theorem run_forgetsExactly_iff (steps : List EngineStep) (isKeyed : ∀ step ∈ steps, step.IsKeyed)
    (router : String) (info : RouterInfo) (known : (run steps).info? router = some info) :
    let engine := run steps
    let after := engine.forgetRouter router
    (∀ key : EndpointKey,
      after.stats.get? key = if key.router = router then none else engine.stats.get? key) ∧
      (∀ family ∈ Metrics.latencyFamilies, ∀ path,
        [info.namespaceName, info.ingress, path] ∉ (family after.metrics).labelSets) ∧
      (∀ family ∈ Metrics.errorFamilies, family after.metrics = family engine.metrics) ∧
      (engine.ForgetsExactly router info ↔
        ¬engine.ShowsErrors info ∧ ¬engine.SharesSlot router info) := by
  intro engine after
  have keyed : engine.Keyed := (run_shown isKeyed).keyed
  refine ⟨fun key => keyed.get?_forgetRouter known key, ?_, ?_, keyed.forgetsExactly_iff known⟩
  · exact fun family isFamily path => keyed.not_mem_latencies_forgetRouter known isFamily path
  · intro family isFamily
    rw [forgetRouter_metrics, Metrics.errorFamilies_removeAll isFamily]

def failedRequests : List EngineStep :=
  let web : EndpointTarget := ⟨"shop-web", "shop", "web", .ingress, "shop-web@kubernetes"⟩
  let request : AccessRecord :=
    { method := "GET", path := "/a", originStatus := 500, durationMs := 100 }
  [.observe web request "/a" 20, .refreshTop, .observe web request "/a" 20]

theorem failedRequests_isKeyed : ∀ step ∈ failedRequests, step.IsKeyed := by
  have web : targetKey "shop" "web" = "shop-web" := by decide +kernel
  simp [failedRequests, EngineStep.IsKeyed, EndpointTarget.IsKeyed, web]

theorem run_forgetsExactly_iff_failedRequests :
    (∀ step ∈ failedRequests, step.IsKeyed) ∧
      (run failedRequests).info? "shop-web" = some ⟨"shop", "web", 20⟩ ∧
      ((run failedRequests).forgetRouter "shop-web").stats.get? ⟨"shop-web", "/a"⟩ = none ∧
      ["shop", "web", "/a"] ∉
        ((run failedRequests).forgetRouter "shop-web").metrics.avgLatency.labelSets := by
  have known : (run failedRequests).info? "shop-web" = some ⟨"shop", "web", 20⟩ := by
    decide +kernel
  obtain ⟨rows, latencies, _⟩ :=
    run_forgetsExactly_iff failedRequests failedRequests_isKeyed "shop-web" _ known
  refine ⟨failedRequests_isKeyed, known, ?_, ?_⟩
  · rw [rows, if_pos rfl]
  · exact latencies (·.avgLatency) (by simp [Metrics.latencyFamilies]) "/a"

/-- The error rates of a router outlive it. -/
theorem failedRequests_not_forgotten :
    (∀ step ∈ failedRequests, step.IsKeyed) ∧
      (run failedRequests).info? "shop-web" = some ⟨"shop", "web", 20⟩ ∧
      ((run failedRequests).forgetRouter "shop-web").metrics.errorRate.series =
        [(["shop", "web", "/a"], 1)] ∧
      ¬(run failedRequests).ForgetsExactly "shop-web" ⟨"shop", "web", 20⟩ := by
  have known : (run failedRequests).info? "shop-web" = some ⟨"shop", "web", 20⟩ := by
    decide +kernel
  have left : ((run failedRequests).forgetRouter "shop-web").metrics.errorRate.series =
      [(["shop", "web", "/a"], 1)] := by
    decide +kernel
  refine ⟨failedRequests_isKeyed, known, left, ?_⟩
  intro forgets
  refine forgets.gauges (·.errorRate) (by simp [Metrics.gaugeFamilies, Metrics.errorFamilies])
    "/a" ?_
  simp [SeriesMap.labelSets, left]

end Engine

end IngressMeter
