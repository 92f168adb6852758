import IngressMeter.Proofs.Metrics.Freshness

/-!
What the series of single endpoints count. A request is projected if its endpoint is in the top set
when it is observed, and each series counts the projected requests since the last reset whose label
values have the slot of its own. So the counts are those of the requests that a series names exactly
if no two projected requests with different label values share a slot.
-/

namespace IngressMeter

/-- What a count looks like in a family of series, which does not show that nothing was counted. -/
def shownCount (count : Nat) : Option Nat := if count = 0 then none else some count

@[simp] theorem getD_shownCount (count : Nat) : (shownCount count).getD 0 = count := by
  rw [shownCount]
  split
  · rename_i nothing
    exact nothing.symm
  · rfl

theorem shownCount_eq_none {count : Nat} : shownCount count = none ↔ count = 0 := by
  simp [shownCount]

namespace SeriesMap

variable {α : Type} {family : SeriesMap α} {weight : α → Nat} {written : List (List String)}

theorem Separate.lookup_eq_get? (separate : family.Separate) {labels : List String}
    (shown : labels ∈ family.labelSets) : family.series.lookup labels = family.get? labels := by
  obtain ⟨value, member⟩ := mem_labelSets.mp shown
  rw [(separate.get?_eq_some_iff shown value).mpr member]
  exact Entries.lookup_of_mem separate.labelSets_nodup member

structure Counts (family : SeriesMap α) (weight : α → Nat) (written : List (List String)) :
    Prop where
  separate : family.Separate
  named : ∀ labels ∈ family.labelSets, labels ∈ written
  counted : ∀ labels, (family.get? labels).map weight =
    shownCount (written.countP fun other => slot other = slot labels)

theorem counts_empty : ({} : SeriesMap α).Counts weight [] where
  separate := separate_empty
  named := by simp [labelSets]
  counted := by simp [get?, shownCount]

theorem Counts.update (counts : family.Counts weight written) (labels : List String) {start : α}
    {change : α → α} (fresh : weight start = 0)
    (grows : ∀ value, weight (change value) = weight value + 1) :
    (family.update labels start change).Counts weight (written ++ [labels]) := by
  refine ⟨counts.separate.update labels start change, ?_, ?_⟩
  · intro shown member
    rcases mem_labelSets_update member with before | isNew
    · exact List.mem_append_left _ (counts.named shown before)
    · rw [isNew]
      exact List.mem_append_right _ List.mem_cons_self
  · intro asked
    have before : weight ((family.get? labels).getD start) =
        written.countP fun other => slot other = slot labels := by
      have same := congrArg (·.getD 0) (counts.counted labels)
      simp only [getD_shownCount] at same
      rw [← same]
      cases family.get? labels with
      | none => exact fresh
      | some value => rfl
    rw [get?_update, List.countP_append]
    by_cases here : slot asked = slot labels
    · rw [if_pos here, Option.map_some, grows, before, here]
      simp [shownCount]
    · rw [if_neg here, counts.counted asked]
      simp [Ne.symm here]

theorem Counts.observeIn {family : SeriesMap Histogram} (counts : family.Counts (·.count) written)
    (labels : List String) (amount : Float) :
    (Metrics.observeIn family labels amount).Counts (·.count) (written ++ [labels]) := by
  rw [Metrics.observeIn]
  exact counts.update labels rfl fun _ => rfl

theorem Counts.exists_shown (counts : family.Counts weight written) {labels : List String}
    (member : labels ∈ written) : ∃ shown ∈ family.labelSets, slot shown = slot labels := by
  have counted := counts.counted labels
  cases found : family.get? labels with
  | none =>
      rw [found, Option.map_none, eq_comm, shownCount_eq_none, List.countP_eq_zero] at counted
      exact absurd (decide_eq_true rfl) (counted labels member)
  | some value => exact exists_shown_of_get? found

/-- The counts are those of the label values as they stand exactly if no two of those that were
written share a slot. -/
theorem Counts.exact_iff (counts : family.Counts weight written) :
    (∀ labels, (family.series.lookup labels).map weight = shownCount (written.count labels)) ↔
      ∀ first ∈ written, ∀ second ∈ written, slot first = slot second → first = second := by
  constructor
  · intro exact first isFirst second isSecond sameText
    have shown : ∀ labels ∈ written, labels ∈ family.labelSets := by
      intro labels member
      by_contra missing
      have absent := exact labels
      rw [Entries.lookup_eq_none.mpr missing, Option.map_none, eq_comm, shownCount_eq_none,
        List.count_eq_zero] at absent
      exact absent member
    exact List.inj_on_of_nodup_map counts.separate (shown first isFirst) (shown second isSecond)
      sameText
  · intro apart labels
    by_cases member : labels ∈ written
    · have sameCount : (written.countP fun other => slot other = slot labels) =
          written.count labels := by
        rw [List.count]
        apply List.countP_congr
        intro other isOther
        simp only [decide_eq_true_eq, beq_iff_eq]
        exact ⟨apart other isOther labels member, fun same => congrArg slot same⟩
      obtain ⟨shown, isShown, sameText⟩ := counts.exists_shown member
      obtain rfl : shown = labels := apart shown (counts.named shown isShown) labels member sameText
      rw [counts.separate.lookup_eq_get? isShown, counts.counted, sameCount]
    · have missing : labels ∉ family.labelSets := fun shown => member (counts.named labels shown)
      rw [Entries.lookup_eq_none.mpr missing, List.count_eq_zero.mpr member]
      rfl

theorem Counts.eq_nil (counts : family.Counts weight []) : family.series = [] := by
  rw [List.eq_nil_iff_forall_not_mem]
  intro entry member
  exact List.not_mem_nil (counts.named _ (List.mem_map_of_mem member))

end SeriesMap

structure Projection where
  target : EndpointTarget
  path : String
  record : AccessRecord

namespace Projection

def gauge (request : Projection) : List String := request.target.gauge request.path

def series (request : Projection) : List String := request.target.series request.path request.record

end Projection

def EngineStep.keepsSeries : EngineStep → Bool
  | resetEndpointSeries => false
  | _ => true

def EngineStep.isObserve : EngineStep → Bool
  | observe .. => true
  | _ => false

namespace Engine

def projected (engine : Engine) : EngineStep → List Projection
  | .observe target record path _ =>
    if engine.top.contains ⟨target.router, path⟩ then [⟨target, path, record⟩] else []
  | _ => []

def projections : Engine → List EngineStep → List Projection
  | _, [] => []
  | engine, step :: rest => engine.projected step ++ (engine.step step).projections rest

theorem projections_eq_gather (engine : Engine) (steps : List EngineStep) :
    engine.projections steps = engine.gather projected steps := by
  induction steps generalizing engine with
  | nil => rfl
  | cons step rest ih => rw [projections, ih, gather]

def projectionsSinceReset (steps : List EngineStep) : List Projection :=
  (run (steps.rdropWhile (·.keepsSeries))).projections (steps.rtakeWhile (·.keepsSeries))

theorem projectionsSinceReset_eq (steps : List EngineStep) :
    projectionsSinceReset steps = gatherSince projected (·.keepsSeries) steps :=
  projections_eq_gather _ _

theorem projectionsSinceReset_concat (steps : List EngineStep) (step : EngineStep) :
    projectionsSinceReset (steps ++ [step]) =
      if step.keepsSeries then projectionsSinceReset steps ++ (run steps).projected step
      else [] := by
  rw [projectionsSinceReset_eq, projectionsSinceReset_eq, gatherSince_concat]

structure CountsProjections (engine : Engine) (requests : List Projection) : Prop where
  counters : engine.metrics.endpointRequests.Counts id (requests.map (·.series))
  durations : engine.metrics.endpointDuration.Counts (·.count) (requests.map (·.series))
  latencies : ∀ labels ∈ engine.metrics.avgLatency.labelSets, ∃ request ∈ requests,
    request.gauge = labels

theorem countsProjections_new : ({} : Engine).CountsProjections [] where
  counters := SeriesMap.counts_empty
  durations := SeriesMap.counts_empty
  latencies := by simp [SeriesMap.labelSets]

variable {engine : Engine} {requests : List Projection}

theorem CountsProjections.of_metrics (counts : engine.CountsProjections requests) {after : Engine}
    (same : after.metrics = engine.metrics) : after.CountsProjections requests := by
  refine ⟨?_, ?_, ?_⟩
  · rw [same]
    exact counts.counters
  · rw [same]
    exact counts.durations
  · rw [same]
    exact counts.latencies

theorem CountsProjections.removeLatencies (counts : engine.CountsProjections requests)
    {after : Engine} {removed : List (List String)}
    (metrics : after.metrics = removed.foldl Metrics.removeLatency engine.metrics) :
    after.CountsProjections requests := by
  rw [Metrics.removeLatencies_eq] at metrics
  refine ⟨?_, ?_, ?_⟩
  · rw [metrics]
    exact counts.counters
  · rw [metrics]
    exact counts.durations
  · intro labels member
    rw [metrics] at member
    exact counts.latencies labels (SeriesMap.mem_labelSets_removeAll.mp member).1

theorem CountsProjections.observe (counts : engine.CountsProjections requests)
    (target : EndpointTarget) (record : AccessRecord) (path : String) (topCount : Nat) :
    (engine.observe target record path topCount).CountsProjections
      (requests ++ engine.projected (.observe target record path topCount)) := by
  let kept : Engine := { engine with
    metrics := (engine.movedLabels target).foldl Metrics.removeLatency
      (countRequest target record engine.metrics) }
  have keeps : kept.CountsProjections requests := by
    let counted : Engine := { engine with metrics := countRequest target record engine.metrics }
    have before : counted.CountsProjections requests :=
      ⟨counts.counters, counts.durations, counts.latencies⟩
    exact before.removeLatencies rfl
  have metrics := engine.observe_metrics target record path topCount
  dsimp only at metrics
  by_cases inTop : ⟨target.router, path⟩ ∈ engine.top.endpoints
  · rw [if_pos inTop, countEndpoint_eq] at metrics
    have isProjected : engine.projected (.observe target record path topCount) =
        [⟨target, path, record⟩] := if_pos (TopSet.contains_iff.mpr inTop)
    rw [isProjected]
    refine ⟨?_, ?_, ?_⟩
    · rw [metrics, List.map_append]
      exact keeps.counters.update _ rfl fun _ => rfl
    · rw [metrics, List.map_append]
      exact keeps.durations.observeIn _ _
    · intro labels member
      rw [metrics] at member
      rcases SeriesMap.mem_labelSets_update member with before | isNew
      · obtain ⟨request, isRequest, same⟩ := keeps.latencies labels before
        exact ⟨request, List.mem_append_left _ isRequest, same⟩
      · exact ⟨⟨target, path, record⟩, List.mem_append_right _ List.mem_cons_self, isNew.symm⟩
  · rw [if_neg inTop] at metrics
    have notProjected : engine.projected (.observe target record path topCount) = [] :=
      if_neg (mt TopSet.contains_iff.mp inTop)
    rw [notProjected, List.append_nil]
    exact keeps.of_metrics metrics

theorem projected_of_not_observe {step : EngineStep} (other : step.isObserve = false) :
    engine.projected step = [] := by
  cases step with
  | observe => contradiction
  | _ => rfl

theorem CountsProjections.step (counts : engine.CountsProjections requests) (step : EngineStep) :
    (engine.step step).CountsProjections
      (if step.keepsSeries then requests ++ engine.projected step else []) := by
  have unprojected : step.isObserve = false → step.keepsSeries = true →
      (if step.keepsSeries then requests ++ engine.projected step else []) = requests := by
    intro other keeps
    rw [if_pos keeps, projected_of_not_observe other, List.append_nil]
  cases step with
  | observe target record path topCount => exact counts.observe target record path topCount
  | resetEndpointSeries => exact ⟨SeriesMap.counts_empty, SeriesMap.counts_empty, nofun⟩
  | refreshTop =>
      rw [unprojected rfl rfl]
      exact counts.removeLatencies engine.refreshTop_metrics
  | forgetRouter router =>
      rw [unprojected rfl rfl]
      exact counts.removeLatencies (engine.forgetRouter_metrics router)
  | observeOverhead record =>
      rw [unprojected rfl rfl]
      exact ⟨counts.counters, counts.durations, counts.latencies⟩
  | countLine outcome =>
      rw [unprojected rfl rfl]
      exact ⟨counts.counters, counts.durations, counts.latencies⟩
  | scrape =>
      rw [unprojected rfl rfl]
      exact ⟨counts.counters, counts.durations, counts.latencies⟩

theorem run_countsProjections (steps : List EngineStep) :
    (run steps).CountsProjections (projectionsSinceReset steps) := by
  induction steps using List.reverseRecOn with
  | nil => exact countsProjections_new
  | append_singleton steps step ih =>
      rw [run_concat, projectionsSinceReset_concat]
      exact ih.step step

theorem CountsProjections.latencyFamilies (counts : engine.CountsProjections requests)
    (sound : engine.LatencySound) {family : Metrics → SeriesMap Float}
    (isFamily : family ∈ Metrics.latencyFamilies) {labels : List String}
    (shown : labels ∈ (family engine.metrics).labelSets) :
    ∃ request ∈ requests, request.gauge = labels := by
  rw [sound.paired.labelSets_eq isFamily] at shown
  exact counts.latencies labels shown

/-- Whether each series counts the requests that have its own label values. -/
structure CountsExactly (engine : Engine) (requests : List Projection) : Prop where
  counters : ∀ labels, engine.metrics.endpointRequests.series.lookup labels =
    shownCount ((requests.map (·.series)).count labels)
  durations : ∀ labels, (engine.metrics.endpointDuration.series.lookup labels).map (·.count) =
    shownCount ((requests.map (·.series)).count labels)

theorem CountsProjections.exact_iff (counts : engine.CountsProjections requests) :
    engine.CountsExactly requests ↔
      ∀ first ∈ requests, ∀ second ∈ requests,
        SeriesMap.slot first.series = SeriesMap.slot second.series →
          first.series = second.series := by
  have counters := counts.counters.exact_iff
  have durations := counts.durations.exact_iff
  simp only [List.forall_mem_map] at counters durations
  constructor
  · intro exact
    rw [← durations]
    exact exact.durations
  · intro apart
    refine ⟨fun labels => ?_, durations.mpr apart⟩
    have counted := counters.mpr apart labels
    rwa [Option.map_id_apply] at counted

theorem projectionsSinceReset_reset (steps : List EngineStep) {later : List EngineStep}
    (others : ∀ step ∈ later, step.isObserve = false) :
    projectionsSinceReset (steps ++ .resetEndpointSeries :: later) = [] := by
  induction later using List.reverseRecOn with
  | nil => rw [projectionsSinceReset_concat]; rfl
  | append_singleton later step ih =>
      have isOther := others step (List.mem_append_right _ List.mem_cons_self)
      rw [← List.cons_append, ← List.append_assoc, projectionsSinceReset_concat,
        ih fun earlier member => others earlier (List.mem_append_left _ member),
        projected_of_not_observe isOther, List.append_nil, ite_self]

/-- In every run the series of an endpoint counts the requests since the last reset that were
observed while their endpoint was in the top set and whose label values have the slot of its own,
and each latency stands under the label values of one of them. So the counts are those of the
requests that a series names exactly if no two such requests with different label values share a
slot. A reset leaves nothing, and only requests bring series back. -/
theorem run_counts_projections (steps : List EngineStep) :
    let engine := run steps
    let requests := projectionsSinceReset steps
    (∀ labels,
      let count := requests.countP fun request =>
        SeriesMap.slot request.series = SeriesMap.slot labels
      engine.metrics.endpointRequests.get? labels = shownCount count ∧
        (engine.metrics.endpointDuration.get? labels).map (·.count) = shownCount count) ∧
      (∀ family ∈ Metrics.latencyFamilies, ∀ labels ∈ (family engine.metrics).labelSets,
        ∃ request ∈ requests, request.gauge = labels) ∧
      (engine.CountsExactly requests ↔
        ∀ first ∈ requests, ∀ second ∈ requests,
          SeriesMap.slot first.series = SeriesMap.slot second.series →
            first.series = second.series) ∧
      ∀ later : List EngineStep, (∀ step ∈ later, step.isObserve = false) →
        let metrics := (run (steps ++ .resetEndpointSeries :: later)).metrics
        metrics.endpointRequests.series = [] ∧ metrics.endpointDuration.series = [] ∧
          ∀ family ∈ Metrics.latencyFamilies, (family metrics).labelSets = [] := by
  intro engine requests
  have counts : engine.CountsProjections requests := run_countsProjections steps
  refine ⟨?_, ?_, counts.exact_iff, ?_⟩
  · intro labels count
    have counted : (requests.map (·.series)).countP (fun other =>
        SeriesMap.slot other = SeriesMap.slot labels) = count := List.countP_map
    have counter := counts.counters.counted labels
    rw [Option.map_id_apply] at counter
    rw [← counted]
    exact ⟨counter, counts.durations.counted labels⟩
  · intro family isFamily labels shown
    exact counts.latencyFamilies (run_latencySound steps) isFamily shown
  · intro later others metrics
    have after := run_countsProjections (steps ++ .resetEndpointSeries :: later)
    have sound := run_latencySound (steps ++ .resetEndpointSeries :: later)
    rw [projectionsSinceReset_reset steps others] at after
    refine ⟨after.counters.eq_nil, after.durations.eq_nil, fun family isFamily => ?_⟩
    rw [List.eq_nil_iff_forall_not_mem]
    intro labels shown
    obtain ⟨request, isRequest, _⟩ := after.latencyFamilies sound isFamily shown
    exact List.not_mem_nil isRequest

/-- A request for one endpoint is counted for another with the same slot. -/
theorem sharedText_miscounted :
    (projectionsSinceReset sharedText).map (·.series) =
        [["shop", "sweb", "/a", "GET", "200"], ["shops", "web", "/a", "GET", "200"]] ∧
      (run sharedText).metrics.endpointRequests.series =
        [(["shop", "sweb", "/a", "GET", "200"], 2)] ∧
      ¬(run sharedText).CountsExactly (projectionsSinceReset sharedText) := by
  have requests : (projectionsSinceReset sharedText).map (·.series) =
      [["shop", "sweb", "/a", "GET", "200"], ["shops", "web", "/a", "GET", "200"]] := by
    decide +kernel
  have series : (run sharedText).metrics.endpointRequests.series =
      [(["shop", "sweb", "/a", "GET", "200"], 2)] := by
    decide +kernel
  refine ⟨requests, series, ?_⟩
  intro exact
  have counted := exact.counters ["shop", "sweb", "/a", "GET", "200"]
  rw [requests, series] at counted
  revert counted
  decide +kernel

end Engine

end IngressMeter
