import IngressMeter.Proofs.Metrics.Ranking
import IngressMeter.Proofs.Metrics.Shares

/-!
Targets do not influence each other. What an engine holds of a router is what it would hold had only
that router been requested and forgotten. Of the rows and the top set this always holds; of the
series it holds of all that the traffic may bring exactly if no label values of different routers
have the same slot. Where not even two endpoints share one, the latencies are fresh, too.
-/

namespace IngressMeter

def EngineStep.concerns (router : String) : EngineStep → Bool
  | observe target _ _ _ => target.router = router
  | forgetRouter forgotten => forgotten = router
  | _ => true

theorem EngineStep.unconcerned_cases {router : String} {step : EngineStep}
    (unconcerned : step.concerns router = false) :
    (∃ target record path topCount, step = observe target record path topCount ∧
        target.router ≠ router) ∨
      ∃ forgotten, step = forgetRouter forgotten ∧ forgotten ≠ router := by
  cases step with
  | observe target record path topCount =>
      exact Or.inl ⟨target, record, path, topCount, rfl, by simpa [concerns] using unconcerned⟩
  | forgetRouter forgotten =>
      exact Or.inr ⟨forgotten, rfl, by simpa [concerns] using unconcerned⟩
  | observeOverhead record => simp [concerns] at unconcerned
  | countLine outcome => simp [concerns] at unconcerned
  | refreshTop => simp [concerns] at unconcerned
  | resetEndpointSeries => simp [concerns] at unconcerned
  | scrape => simp [concerns] at unconcerned

def Traffic.Allows (traffic : Traffic) : EngineStep → Prop
  | .observe target record path _ => traffic.Sends target path record
  | _ => True

namespace Engine

structure Agree (router : String) (engine other : Engine) : Prop where
  info : engine.info? router = other.info? router
  stats : engine.stats.only router = other.stats.only router
  top : engine.top.only router = other.top.only router

section Agree

variable {router : String} {engine other : Engine}

theorem Agree.trans {third : Engine} (agree : Agree router engine other)
    (agreeToo : Agree router other third) : Agree router engine third :=
  ⟨agree.info.trans agreeToo.info, agree.stats.trans agreeToo.stats, agree.top.trans agreeToo.top⟩

theorem Agree.limit (agree : Agree router engine other) :
    engine.limit router = other.limit router := by
  rw [Engine.limit, agree.info, Engine.limit]

theorem Agree.contains (agree : Agree router engine other) (path : String) :
    ⟨router, path⟩ ∈ engine.top.endpoints ↔ ⟨router, path⟩ ∈ other.top.endpoints := by
  have same := congrArg (⟨router, path⟩ ∈ TopSet.endpoints ·) agree.top
  simpa [TopSet.mem_only] using same

theorem Agree.observe {target : EndpointTarget} (agree : Agree target.router engine other)
    (record : AccessRecord) (path : String) (topCount : Nat) :
    Agree target.router (engine.observe target record path topCount)
      (other.observe target record path topCount) where
  info := by rw [info?_observe, info?_observe, if_pos rfl, if_pos rfl]
  stats := by
    rw [observe_stats, observe_stats]
    exact EndpointStats.only_record_congr _ ⟨target.router, path⟩ _ _ agree.stats
  top := by rw [observe_top, observe_top, agree.top]

theorem Agree.refreshTop (agree : Agree router engine other) (numbered : engine.stats.Numbered)
    (numberedToo : other.stats.Numbered) : Agree router engine.refreshTop other.refreshTop where
  info := agree.info
  stats := agree.stats
  top := TopSet.only_compute_congr numbered numberedToo agree.stats agree.limit

theorem Agree.forgetRouter (agree : Agree router engine other) :
    Agree router (engine.forgetRouter router) (other.forgetRouter router) where
  info := by rw [info?_forgetRouter, info?_forgetRouter, if_pos rfl, if_pos rfl]
  stats := by
    have known : router ∈ engine.remembered ↔ router ∈ other.remembered := by
      rw [← not_iff_not, ← info?_eq_none, ← info?_eq_none, agree.info]
    rw [forgetRouter_stats, forgetRouter_stats]
    by_cases remembered : router ∈ other.remembered
    · rw [if_pos remembered, if_pos (known.mpr remembered), EndpointStats.only_removeRouter_own,
        EndpointStats.only_removeRouter_own]
    · rw [if_neg remembered, if_neg (mt known.mp remembered), agree.stats]
  top := by rw [forgetRouter_top, forgetRouter_top, agree.top]

/-- A step that concerns the router does the same in both engines. -/
theorem Agree.step (agree : Agree router engine other) (numbered : engine.stats.Numbered)
    (numberedToo : other.stats.Numbered) {step : EngineStep}
    (concerned : step.concerns router = true) :
    Agree router (engine.step step) (other.step step) := by
  cases step with
  | observe target record path topCount =>
      obtain rfl : target.router = router := by simpa [EngineStep.concerns] using concerned
      exact agree.observe record path topCount
  | refreshTop => exact agree.refreshTop numbered numberedToo
  | forgetRouter forgotten =>
      obtain rfl : forgotten = router := by simpa [EngineStep.concerns] using concerned
      exact agree.forgetRouter
  | observeOverhead record => exact ⟨agree.info, agree.stats, agree.top⟩
  | countLine outcome => exact ⟨agree.info, agree.stats, agree.top⟩
  | resetEndpointSeries => exact ⟨agree.info, agree.stats, agree.top⟩
  | scrape => exact ⟨agree.info, agree.stats, agree.top⟩

theorem agree_step_of_unconcerned (engine : Engine) {step : EngineStep}
    (unconcerned : step.concerns router = false) : Agree router (engine.step step) engine := by
  obtain ⟨target, record, path, topCount, rfl, different⟩ | ⟨forgotten, rfl, different⟩ :=
    EngineStep.unconcerned_cases unconcerned
  · refine ⟨?_, ?_, ?_⟩
    · rw [Engine.step, info?_observe, if_neg different.symm]
    · rw [Engine.step, observe_stats]
      exact EndpointStats.only_record_other _ _ _ _ different
    · rw [Engine.step, observe_top]
  · refine ⟨?_, ?_, ?_⟩
    · rw [Engine.step, info?_forgetRouter, if_neg different.symm]
    · rw [Engine.step, forgetRouter_stats]
      split
      · exact EndpointStats.only_removeRouter_other _ different
      · rfl
    · rw [Engine.step, forgetRouter_top]

end Agree

theorem run_numbered (steps : List EngineStep) : (run steps).stats.Numbered := by
  induction steps using List.reverseRecOn with
  | nil => exact EndpointStats.numbered_empty
  | append_singleton steps step ih =>
      rw [run_concat]
      cases step with
      | observe target record path topCount =>
          rw [Engine.step, observe_stats]
          exact ih.record _ _ _ (run_bookkept steps).rows
      | forgetRouter router =>
          rw [Engine.step, forgetRouter_stats]
          split
          · exact ih.removeRouter router
          · exact ih
      | refreshTop => exact ih
      | observeOverhead record => exact ih
      | countLine outcome => exact ih
      | resetEndpointSeries => exact ih
      | scrape => exact ih

theorem run_agree (steps : List EngineStep) (router : String) :
    Agree router (run steps) (run (steps.filter (·.concerns router))) := by
  induction steps using List.reverseRecOn with
  | nil => exact ⟨rfl, rfl, rfl⟩
  | append_singleton steps step ih =>
      rw [run_concat, List.filter_append]
      cases concerned : step.concerns router with
      | true =>
          rw [List.filter_cons_of_pos concerned, List.filter_nil, run_concat]
          exact ih.step (run_numbered _) (run_numbered _) concerned
      | false =>
          rw [List.filter_cons_of_neg (by simp [concerned]), List.filter_nil, List.append_nil]
          exact (agree_step_of_unconcerned _ concerned).trans ih

/-- Whether all that an engine holds may come of the traffic. -/
structure Within (traffic : Traffic) (engine : Engine) : Prop where
  known : ∀ router info, engine.info? router = some info → ∃ target path record topCount,
    traffic.Sends target path record ∧ target.router = router ∧ info = infoOf target topCount
  rows : ∀ key ∈ engine.stats.keys, key.path ∈ traffic.paths
  top : ∀ key ∈ engine.top.endpoints, key.path ∈ traffic.paths
  metrics : traffic.Covers engine.metrics

section Within

variable {traffic : Traffic} {engine : Engine} (within : engine.Within traffic)

include within

theorem Within.isGaugeOf {router : String} {info : RouterInfo}
    (known : engine.info? router = some info) {path : String} (isPath : path ∈ traffic.paths) :
    traffic.IsGaugeOf router (gaugeValues info path) := by
  obtain ⟨target, _, record, topCount, sends, rfl, rfl⟩ := within.known router info known
  exact ⟨⟨target, path, record, ⟨sends.1, isPath, sends.2.2⟩, rfl⟩,
    fun other => Traffic.ofRouter_gauge sends.1 other path⟩

theorem Within.paths {router path : String} (member : path ∈ engine.top.pathsOf router) :
    path ∈ traffic.paths := within.top _ (TopSet.mem_pathsOf.mp member)

theorem Within.isGaugeOf_forgottenLabels (router : String) :
    ∀ labels ∈ engine.forgottenLabels router, traffic.IsGaugeOf router labels := by
  intro labels member
  rw [forgottenLabels] at member
  split at member
  · simp at member
  · rename_i info known
    obtain ⟨path, inTop, rfl⟩ := List.mem_map.mp member
    exact within.isGaugeOf known (within.paths inTop)

theorem Within.isGaugeOf_movedLabels (target : EndpointTarget) :
    ∀ labels ∈ engine.movedLabels target, traffic.IsGaugeOf target.router labels := by
  intro labels member
  refine within.isGaugeOf_forgottenLabels target.router labels ?_
  rw [movedLabels] at member
  rw [forgottenLabels]
  split at member
  · simp at member
  · split at member
    · exact member
    · simp at member

theorem Within.isGauge_fallenLabels (next : TopSet) :
    ∀ labels ∈ engine.fallenLabels next, traffic.IsGauge labels := by
  intro labels member
  obtain ⟨key, fell, isLabels⟩ := List.mem_filterMap.mp member
  obtain ⟨info, known, rfl⟩ := Option.map_eq_some_iff.mp isLabels
  exact (within.isGaugeOf known (within.top key (List.mem_of_mem_filter fell))).1

end Within

section Step

variable {traffic : Traffic} {engine : Engine} (within : engine.Within traffic)

include within

theorem Within.observe {target : EndpointTarget} {record : AccessRecord} {path : String}
    (sends : traffic.Sends target path record) (topCount : Nat) :
    (engine.observe target record path topCount).Within traffic := by
  refine ⟨?_, ?_, ?_, ?_⟩
  · intro router info known
    rw [info?_observe] at known
    split at known
    · rename_i own
      cases known
      exact ⟨target, path, record, topCount, sends, own.symm, rfl⟩
    · exact within.known router info known
  · intro key member
    rw [observe_stats, EndpointStats.mem_keys_record] at member
    rcases member with before | rfl
    · exact within.rows key before
    · exact sends.2.1
  · rw [observe_top]
    exact within.top
  · have counted := within.metrics.countRequest target record
    rw [observe_metrics]
    dsimp only
    split
    · exact (counted.removeLatencies _).countEndpoint sends _
    · exact counted.removeLatencies _

theorem Within.step {step : EngineStep} (allowed : traffic.Allows step) :
    (engine.step step).Within traffic := by
  cases step with
  | observe target record path topCount => exact within.observe allowed topCount
  | refreshTop =>
      refine ⟨within.known, within.rows, ?_, ?_⟩
      · intro key member
        exact within.rows key (TopSet.mem_of_mem_compute member)
      · rw [Engine.step, refreshTop_metrics]
        exact within.metrics.removeLatencies _
  | forgetRouter router =>
      refine ⟨?_, ?_, ?_, ?_⟩
      · intro other info known
        rw [Engine.step, info?_forgetRouter] at known
        split at known
        · contradiction
        · exact within.known other info known
      · intro key member
        refine within.rows key ?_
        rw [Engine.step, forgetRouter_stats] at member
        split at member
        · rw [EndpointStats.keys_removeRouter] at member
          exact List.mem_of_mem_filter member
        · exact member
      · rw [Engine.step, forgetRouter_top]
        exact within.top
      · rw [Engine.step, forgetRouter_metrics]
        exact within.metrics.removeLatencies _
  | resetEndpointSeries =>
      exact ⟨within.known, within.rows, within.top, within.metrics.resetEndpointSeries⟩
  | scrape => exact ⟨within.known, within.rows, within.top, within.metrics.resetErrorRates⟩
  | observeOverhead record =>
      exact ⟨within.known, within.rows, within.top, within.metrics.gauges, within.metrics.requests,
        within.metrics.durations⟩
  | countLine outcome =>
      exact ⟨within.known, within.rows, within.top, within.metrics.gauges, within.metrics.requests,
        within.metrics.durations⟩

variable (apart : traffic.Apart) (router : String)

include apart

theorem Within.only_observe {target : EndpointTarget} {record : AccessRecord} {path : String}
    (sends : traffic.Sends target path record) (topCount : Nat) :
    (engine.observe target record path topCount).metrics.only router =
      if target.router = router then
        let kept := (engine.movedLabels target).foldl Metrics.removeLatency
          (engine.metrics.only router)
        if ⟨target.router, path⟩ ∈ engine.top.endpoints then
          countEndpoint target record path (engine.rowObserved target record path) kept
        else kept
      else engine.metrics.only router := by
  have counted := within.metrics.countRequest target record
  have removed := apart.only_removeLatencies_of counted router (within.isGaugeOf_movedLabels target)
  have same : (countRequest target record engine.metrics).only router =
      engine.metrics.only router := rfl
  rw [same] at removed
  rw [observe_metrics]
  dsimp only
  by_cases inTop : ⟨target.router, path⟩ ∈ engine.top.endpoints
  · rw [if_pos inTop, if_pos inTop,
      apart.only_countEndpoint (counted.removeLatencies _) router sends, removed]
    split <;> rfl
  · rw [if_neg inTop, if_neg inTop, removed]

theorem Within.only_forgetRouter (forgotten : String) :
    (engine.forgetRouter forgotten).metrics.only router =
      if forgotten = router then
        (engine.forgottenLabels forgotten).foldl Metrics.removeLatency (engine.metrics.only router)
      else engine.metrics.only router := by
  rw [forgetRouter_metrics]
  exact apart.only_removeLatencies_of within.metrics router
    (within.isGaugeOf_forgottenLabels forgotten)

theorem Within.only_refreshTop :
    engine.refreshTop.metrics.only router =
      ((engine.fallenLabels engine.refreshTop.top).filter (ofRouter router)).foldl
        Metrics.removeLatency (engine.metrics.only router) := by
  rw [refreshTop_metrics]
  exact apart.only_removeLatencies within.metrics router (within.isGauge_fallenLabels _)

end Step

theorem Within.filter_fallenLabels {traffic : Traffic} {engine : Engine}
    (within : engine.Within traffic) (router : String) (next : TopSet) :
    (engine.fallenLabels next).filter (ofRouter router) =
      ((engine.top.only router).endpoints.filter fun key =>
        !(next.only router).contains key).filterMap fun key =>
          (engine.info? router).map fun info => gaugeValues info key.path := by
  have ofTop : (engine.top.only router).endpoints =
      engine.top.endpoints.filter (·.router = router) := rfl
  rw [fallenLabels, List.filter_filterMap, ofTop, List.filter_filter, List.filterMap_filter,
    List.filterMap_filter]
  apply List.filterMap_congr
  intro key inTop
  have labels : (engine.labelsOf key).filter (ofRouter router) =
      if key.router = router then engine.labelsOf key else none := by
    rw [labelsOf]
    cases known : engine.info? key.router with
    | none => simp
    | some info =>
        have owned := (within.isGaugeOf known (within.top key inTop)).2 router
        by_cases own : key.router = router <;> simp [Option.filter, owned, own]
  simp only [labels]
  by_cases own : key.router = router
  · have sameNext : (next.only router).contains key = next.contains key := by
      simp [TopSet.contains, TopSet.only, own]
    simp [own, sameNext, labelsOf]
  · simp [own]

section Agree

variable {router : String} {engine other : Engine}

theorem Agree.forgottenLabels_eq (agree : Agree router engine other) :
    engine.forgottenLabels router = other.forgottenLabels router := by
  rw [forgottenLabels, forgottenLabels, agree.info, ← TopSet.pathsOf_only, agree.top,
    TopSet.pathsOf_only]

theorem Agree.movedLabels_eq {target : EndpointTarget} (agree : Agree target.router engine other) :
    engine.movedLabels target = other.movedLabels target := by
  rw [movedLabels, movedLabels, agree.info, ← TopSet.pathsOf_only, agree.top,
    TopSet.pathsOf_only]

theorem Agree.countEndpoint_eq {target : EndpointTarget} (agree : Agree target.router engine other)
    (record : AccessRecord) (path : String) (metrics : Metrics) :
    countEndpoint target record path (engine.rowObserved target record path) metrics =
      countEndpoint target record path (other.rowObserved target record path) metrics := by
  have sameRow : (engine.rowObserved target record path).unnumbered =
      (other.rowObserved target record path).unnumbered := by
    rw [rowObserved, rowObserved, ← EndpointStats.rowAfter_only, ← EndpointStats.rowAfter_only]
    exact congrArg (EndpointStats.rowAfter · _ _ _) agree.stats
  have withoutNumber : ∀ stat : EndpointStat,
      countEndpoint target record path stat metrics =
        countEndpoint target record path stat.unnumbered metrics := fun _ => rfl
  rw [withoutNumber, sameRow, ← withoutNumber]

theorem Agree.fallenLabels_eq {traffic : Traffic} (agree : Agree router engine other)
    (within : engine.Within traffic) (withinToo : other.Within traffic) {next nextToo : TopSet}
    (same : next.only router = nextToo.only router) :
    (engine.fallenLabels next).filter (ofRouter router) =
      (other.fallenLabels nextToo).filter (ofRouter router) := by
  rw [within.filter_fallenLabels, withinToo.filter_fallenLabels, agree.top, agree.info, same]

theorem Agree.metrics_step {traffic : Traffic} (agree : Agree router engine other)
    (numbered : engine.stats.Numbered) (numberedToo : other.stats.Numbered)
    (within : engine.Within traffic) (withinToo : other.Within traffic) (apart : traffic.Apart)
    (same : engine.metrics.only router = other.metrics.only router) {step : EngineStep}
    (allowed : traffic.Allows step) (concerned : step.concerns router = true) :
    (engine.step step).metrics.only router = (other.step step).metrics.only router := by
  cases step with
  | observe target record path topCount =>
      obtain rfl : target.router = router := by simpa [EngineStep.concerns] using concerned
      rw [Engine.step, Engine.step, within.only_observe apart _ allowed,
        withinToo.only_observe apart _ allowed, if_pos rfl, if_pos rfl, agree.movedLabels_eq, same]
      simp only [agree.contains path, agree.countEndpoint_eq]
  | refreshTop =>
      have after := agree.refreshTop numbered numberedToo
      rw [Engine.step, Engine.step, within.only_refreshTop apart, withinToo.only_refreshTop apart,
        same, agree.fallenLabels_eq within withinToo after.top]
  | forgetRouter forgotten =>
      obtain rfl : forgotten = router := by simpa [EngineStep.concerns] using concerned
      rw [Engine.step, Engine.step, within.only_forgetRouter apart,
        withinToo.only_forgetRouter apart, if_pos rfl, if_pos rfl, agree.forgottenLabels_eq, same]
  | resetEndpointSeries => exact congrArg Metrics.resetEndpointSeries same
  | scrape => exact congrArg Metrics.resetErrorRates same
  | observeOverhead record => exact same
  | countLine outcome => exact same

theorem Within.metrics_step_of_unconcerned {traffic : Traffic} (within : engine.Within traffic)
    (apart : traffic.Apart) {step : EngineStep} (allowed : traffic.Allows step)
    (unconcerned : step.concerns router = false) :
    (engine.step step).metrics.only router = engine.metrics.only router := by
  obtain ⟨target, record, path, topCount, rfl, different⟩ | ⟨forgotten, rfl, different⟩ :=
    EngineStep.unconcerned_cases unconcerned
  · rw [Engine.step, within.only_observe apart _ allowed, if_neg different]
  · rw [Engine.step, within.only_forgetRouter apart, if_neg different]

end Agree

theorem run_within {traffic : Traffic} {steps : List EngineStep}
    (allowed : ∀ step ∈ steps, traffic.Allows step) : (run steps).Within traffic := by
  induction steps using List.reverseRecOn with
  | nil =>
      exact ⟨by simp [run, info?], by simp [run, EndpointStats.keys], by simp [run],
        by simp [run, Metrics.gauges, SeriesMap.labelSets], by simp [run, SeriesMap.labelSets],
        by simp [run, SeriesMap.labelSets]⟩
  | append_singleton steps step ih =>
      rw [run_concat]
      exact (ih fun earlier member => allowed earlier (List.mem_append_left _ member)).step
        (allowed step (by simp))

theorem Within.not_writesOver {traffic : Traffic} {engine : Engine} (within : engine.Within traffic)
    (separate : traffic.Separate) {target : EndpointTarget} {record : AccessRecord} {path : String}
    (sends : traffic.Sends target path record) (topCount : Nat) :
    ¬engine.WritesOver target record path topCount := by
  rintro ⟨_, namespaceName, ingress, other, _, left, foreign, sameSlot, _⟩
  have shown := ((mem_labelSets_remember target topCount).mp left).1
  have isGauge := within.metrics.gauges _ (by simp [Metrics.gauges]) _ shown
  have own := separate isGauge ⟨target, path, record, sends, rfl⟩ sameSlot
  simp only [EndpointTarget.gauge, List.cons.injEq, and_true] at own
  exact foreign (by rw [own.1, own.2.1, own.2.2, traffic.keyed target sends.1])

/-- Where no two endpoints share a slot, every latency is that of the row that its label values
name. -/
theorem run_fresh {traffic : Traffic} (separate : traffic.Separate) {steps : List EngineStep}
    (allowed : ∀ step ∈ steps, traffic.Allows step) : (run steps).Fresh := by
  have isKeyed : ∀ step, traffic.Allows step → step.IsKeyed := by
    intro step allowed
    cases step with
    | observe target record path topCount => exact traffic.keyed target allowed.1
    | _ => exact trivial
  induction steps using List.reverseRecOn with
  | nil => exact fresh_new
  | append_singleton steps step ih =>
      have allowedBefore : ∀ earlier ∈ steps, traffic.Allows earlier := fun earlier member =>
        allowed earlier (List.mem_append_left _ member)
      have allowedStep : traffic.Allows step := allowed step (by simp)
      have shown : (run steps).Shown :=
        run_shown fun earlier member => isKeyed earlier (allowedBefore earlier member)
      rw [run_concat, (ih allowedBefore).step_iff shown step (isKeyed step allowedStep)]
      rintro target record path topCount rfl
      exact (run_within allowedBefore).not_writesOver separate allowedStep topCount

theorem run_metrics_only {traffic : Traffic} (apart : traffic.Apart) {steps : List EngineStep}
    (allowed : ∀ step ∈ steps, traffic.Allows step) (router : String) :
    (run steps).metrics.only router =
      (run (steps.filter (·.concerns router))).metrics.only router := by
  induction steps using List.reverseRecOn with
  | nil => rfl
  | append_singleton steps step ih =>
      have allowedBefore : ∀ earlier ∈ steps, traffic.Allows earlier := fun earlier member =>
        allowed earlier (List.mem_append_left _ member)
      have allowedStep : traffic.Allows step := allowed step (by simp)
      have within := run_within allowedBefore
      rw [run_concat, List.filter_append]
      cases concerned : step.concerns router with
      | true =>
          have withinToo : (run (steps.filter (·.concerns router))).Within traffic :=
            run_within fun earlier member => allowedBefore earlier (List.mem_of_mem_filter member)
          rw [List.filter_cons_of_pos concerned, List.filter_nil, run_concat]
          exact (run_agree steps router).metrics_step (run_numbered _) (run_numbered _) within
            withinToo apart (ih allowedBefore) allowedStep concerned
      | false =>
          rw [List.filter_cons_of_neg (by simp [concerned]), List.filter_nil, List.append_nil,
            within.metrics_step_of_unconcerned apart allowedStep concerned, ih allowedBefore]

theorem observe_endpointRequests (engine : Engine) (target : EndpointTarget) (record : AccessRecord)
    (path : String) (topCount : Nat) :
    (engine.observe target record path topCount).metrics.endpointRequests =
      if ⟨target.router, path⟩ ∈ engine.top.endpoints then
        engine.metrics.endpointRequests.increment (target.series path record)
      else engine.metrics.endpointRequests := by
  rw [observe_metrics]
  dsimp only
  split
  · rw [countEndpoint_eq, Metrics.removeLatencies_eq]
    rfl
  · rw [Metrics.removeLatencies_eq]
    rfl

theorem refreshTop_endpointRequests (engine : Engine) :
    engine.refreshTop.metrics.endpointRequests = engine.metrics.endpointRequests := by
  rw [refreshTop_metrics, Metrics.removeLatencies_eq]

section Together

variable (target other : EndpointTarget) (record otherRecord : AccessRecord)
  (path otherPath : String)

theorem mem_top_of_alone {steps : List EngineStep}
    (alone : steps.filter (·.concerns target.router) =
      [.observe target record path 1, .refreshTop]) :
    ⟨target.router, path⟩ ∈ (run steps).top.endpoints := by
  rw [(run_agree steps target.router).contains path, alone]
  let engine : Engine := ({} : Engine).observe target record path 1
  have limit : engine.limit target.router = 1 := by
    rw [Engine.limit, info?_observe, if_pos rfl]
    rfl
  have rows : engine.stats.rows =
      [(⟨target.router, path⟩, ({} : Engine).rowObserved target record path)] := by
    rw [observe_stats, EndpointStats.rows_record]
    rfl
  have shown : ⟨target.router, path⟩ ∈
      ((TopSet.compute engine.stats.rows engine.limit).only target.router).endpoints := by
    have requested : 0 < (({} : Engine).rowObserved target record path).totalRequests :=
      Nat.succ_pos _
    rw [TopSet.only_compute, rows, limit]
    simp [TopSet.candidates, requested]
  exact (TopSet.mem_only.mp shown).1

theorem run_alone_endpointRequests :
    (run [.observe target record path 1, .refreshTop,
      .observe target record path 1]).metrics.endpointRequests =
        ⟨[(target.series path record, 1)]⟩ := by
  let steps : List EngineStep := [.observe target record path 1, .refreshTop]
  have inTop : ⟨target.router, path⟩ ∈ (run steps).top.endpoints :=
    mem_top_of_alone target record path (by simp [steps, EngineStep.concerns])
  have begun : (run steps).metrics.endpointRequests = {} := by
    simp [steps, run, Engine.step, refreshTop_endpointRequests, observe_endpointRequests]
  calc ((run steps).observe target record path 1).metrics.endpointRequests
      = (run steps).metrics.endpointRequests.increment (target.series path record) := by
        rw [observe_endpointRequests, if_pos inTop]
    _ = ⟨[(target.series path record, 1)]⟩ := by
        rw [begun]
        rfl

variable {target other record otherRecord path otherPath}

theorem run_together_endpointRequests (foreign : target.router ≠ other.router)
    (same : SeriesMap.slot (target.series path record) =
      SeriesMap.slot (other.series otherPath otherRecord)) :
    (run [.observe target record path 1, .observe other otherRecord otherPath 1, .refreshTop,
      .observe target record path 1,
      .observe other otherRecord otherPath 1]).metrics.endpointRequests =
        ⟨[(target.series path record, 2)]⟩ := by
  let steps : List EngineStep :=
    [.observe target record path 1, .observe other otherRecord otherPath 1, .refreshTop]
  have inTop : ⟨target.router, path⟩ ∈ (run steps).top.endpoints :=
    mem_top_of_alone target record path (by simp [steps, EngineStep.concerns, foreign.symm])
  have inTopToo : ⟨other.router, otherPath⟩ ∈ (run steps).top.endpoints :=
    mem_top_of_alone other otherRecord otherPath (by simp [steps, EngineStep.concerns, foreign])
  have begun : (run steps).metrics.endpointRequests = {} := by
    simp [steps, run, Engine.step, refreshTop_endpointRequests, observe_endpointRequests]
  calc (((run steps).observe target record path 1).observe other otherRecord otherPath
        1).metrics.endpointRequests
      = ((run steps).metrics.endpointRequests.increment (target.series path record)).increment
          (other.series otherPath otherRecord) := by
        rw [observe_endpointRequests, observe_top, if_pos inTopToo, observe_endpointRequests,
          if_pos inTop]
    _ = SeriesMap.increment ⟨[(target.series path record, 1)]⟩
          (other.series otherPath otherRecord) := by
        rw [begun]
        rfl
    _ = ⟨[(target.series path record, 2)]⟩ := by
        simp [SeriesMap.increment, SeriesMap.update, same]

end Together

theorem apart_of_isolated {traffic : Traffic}
    (isolated : ∀ steps, (∀ step ∈ steps, traffic.Allows step) → ∀ router,
      (run steps).metrics.only router =
        (run (steps.filter (·.concerns router))).metrics.only router) : traffic.Apart := by
  intro target path record other otherPath otherRecord sends sendsToo same
  by_contra foreign
  -- Both endpoints are in the top set by the time that each of them is requested once more.
  let steps : List EngineStep :=
    [.observe target record path 1, .observe other otherRecord otherPath 1, .refreshTop,
      .observe target record path 1, .observe other otherRecord otherPath 1]
  have allowed : ∀ step ∈ steps, traffic.Allows step := by
    simp [steps, Traffic.Allows, sends, sendsToo]
  have alone : steps.filter (·.concerns target.router) =
      [.observe target record path 1, .refreshTop, .observe target record path 1] := by
    simp [steps, EngineStep.concerns, Ne.symm foreign]
  have counts := congrArg Metrics.endpointRequests (isolated steps allowed target.router)
  rw [alone] at counts
  simp only [Metrics.only, steps, run_together_endpointRequests foreign same,
    run_alone_endpointRequests, SeriesMap.restrict] at counts
  simp [Traffic.ofRouter_series sends.1] at counts

/-- Whatever is requested of other routers and forgotten of them, the rows of a router are the same
apart from their numbers, and so are its endpoints in the top set. Its series are the same in all
that the traffic may bring exactly if no label values of different routers have the same slot. -/
theorem run_isolated_iff (traffic : Traffic) :
    (∀ steps router,
      (run steps).stats.only router =
          (run (steps.filter (·.concerns router))).stats.only router ∧
        (run steps).top.only router =
          (run (steps.filter (·.concerns router))).top.only router) ∧
      ((∀ steps, (∀ step ∈ steps, traffic.Allows step) → ∀ router,
          (run steps).metrics.only router =
            (run (steps.filter (·.concerns router))).metrics.only router) ↔
        traffic.Apart) := by
  refine ⟨?_, apart_of_isolated, ?_⟩
  · intro steps router
    exact ⟨(run_agree steps router).stats, (run_agree steps router).top⟩
  · intro apart steps allowed router
    exact run_metrics_only apart allowed router

/-- What another router has requested is counted for this one. -/
theorem sharedText_not_isolated :
    (∀ step ∈ sharedText, step.IsKeyed) ∧
      (run sharedText).metrics.endpointRequests.series =
        [(["shop", "sweb", "/a", "GET", "200"], 2)] ∧
      (run (sharedText.filter (·.concerns "shop-sweb"))).metrics.endpointRequests.series =
        [(["shop", "sweb", "/a", "GET", "200"], 1)] ∧
      (run sharedText).metrics.only "shop-sweb" ≠
        (run (sharedText.filter (·.concerns "shop-sweb"))).metrics.only "shop-sweb" := by
  have together : (run sharedText).metrics.endpointRequests.series =
      [(["shop", "sweb", "/a", "GET", "200"], 2)] := by
    decide +kernel
  have alone : (run (sharedText.filter (·.concerns "shop-sweb"))).metrics.endpointRequests.series =
      [(["shop", "sweb", "/a", "GET", "200"], 1)] := by
    decide +kernel
  refine ⟨sharedText_isKeyed, together, alone, ?_⟩
  intro same
  have own : ofRouter "shop-sweb" ["shop", "sweb", "/a", "GET", "200"] = true := by
    decide +kernel
  have counts := congrArg (·.endpointRequests.series) same
  simp [Metrics.only, SeriesMap.restrict, together, alone, own] at counts

end Engine

end IngressMeter
