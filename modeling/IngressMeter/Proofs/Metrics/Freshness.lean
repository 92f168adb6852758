import IngressMeter.Proofs.Metrics.Measures

/-!
How current the latencies are. A series shows the row, as it is now, of an endpoint in the top set
whose label values have the slot of its own. Of endpoints that share a slot each writes over what the
other shows, so the latencies are those of the endpoint that they name exactly as long as no request
changes them for another.
-/

namespace IngressMeter

def EndpointTarget.IsKeyed (target : EndpointTarget) : Prop :=
  target.router = targetKey target.namespaceName target.ingress

def EngineStep.IsKeyed : EngineStep → Prop
  | observe target _ _ _ => target.IsKeyed
  | _ => True

namespace Engine

/-- Whether all latencies are those of the rows that their label values name. -/
def Fresh (engine : Engine) : Prop :=
  ∀ namespaceName ingress path value,
    (([namespaceName, ingress, path], value) ∈ engine.metrics.avgLatency.series →
      ∃ stat, engine.stats.get? ⟨targetKey namespaceName ingress, path⟩ = some stat ∧
        value = stat.avgDuration) ∧
    (([namespaceName, ingress, path], value) ∈ engine.metrics.maxLatency.series →
      ∃ stat, engine.stats.get? ⟨targetKey namespaceName ingress, path⟩ = some stat ∧
        value = stat.maxDuration)

def ShowsRow (engine : Engine) (labels : List String) (key : EndpointKey) : Prop :=
  ∃ info stat, engine.info? key.router = some info ∧ key ∈ engine.top.endpoints ∧
    SeriesMap.slot labels = SeriesMap.slot (gaugeValues info key.path) ∧
    engine.stats.get? key = some stat ∧
    engine.metrics.avgLatency.get? labels = some stat.avgDuration ∧
    engine.metrics.maxLatency.get? labels = some stat.maxDuration

/-- Whether a request changes the latencies that stand under the label values of another endpoint,
of the same target or not, with which its own endpoint shares a slot. -/
def WritesOver (engine : Engine) (target : EndpointTarget) (record : AccessRecord) (path : String)
    (topCount : Nat) : Prop :=
  engine.top.contains ⟨target.router, path⟩ = true ∧
    ∃ namespaceName ingress other stat,
      [namespaceName, ingress, other] ∈
        (engine.rememberRouter target topCount).metrics.avgLatency.labelSets ∧
      (⟨targetKey namespaceName ingress, other⟩ : EndpointKey) ≠ ⟨target.router, path⟩ ∧
      SeriesMap.slot [namespaceName, ingress, other] =
        SeriesMap.slot [target.namespaceName, target.ingress, path] ∧
      engine.stats.get? ⟨targetKey namespaceName ingress, other⟩ = some stat ∧
      (stat.avgDuration ≠ (engine.rowObserved target record path).avgDuration ∨
        stat.maxDuration ≠ (engine.rowObserved target record path).maxDuration)

structure Shown (engine : Engine) : Prop where
  keyed : engine.Keyed
  named : ∀ namespaceName ingress path,
    [namespaceName, ingress, path] ∈ engine.metrics.avgLatency.labelSets →
      ⟨targetKey namespaceName ingress, path⟩ ∈ engine.stats.keys
  current : ∀ labels ∈ engine.metrics.avgLatency.labelSets, ∃ key, engine.ShowsRow labels key

theorem shown_new : ({} : Engine).Shown where
  keyed := .new
  named := by simp [SeriesMap.labelSets]
  current := by simp [SeriesMap.labelSets]

theorem fresh_new : ({} : Engine).Fresh := by
  simp [Fresh]

variable {engine : Engine}

theorem Keyed.labels_eq (keyed : engine.Keyed) {namespaceName ingress path : String}
    (shown : [namespaceName, ingress, path] ∈ engine.metrics.avgLatency.labelSets) :
    ∃ info, engine.info? (targetKey namespaceName ingress) = some info ∧
      ⟨targetKey namespaceName ingress, path⟩ ∈ engine.top.endpoints ∧
      [namespaceName, ingress, path] = gaugeValues info path := by
  obtain ⟨router, info, shownPath, known, inTop, same⟩ := keyed.latencies.shown _ shown
  have labels := same
  simp only [gaugeValues, List.cons.injEq, and_true] at labels
  obtain ⟨rfl, rfl, rfl⟩ := labels
  rw [keyed.keyed router info known]
  exact ⟨info, known, inTop, same⟩

theorem LatencySound.fresh_iff (sound : engine.LatencySound) : engine.Fresh ↔
    ∀ namespaceName ingress path,
      [namespaceName, ingress, path] ∈ engine.metrics.avgLatency.labelSets →
      ∃ stat, engine.stats.get? ⟨targetKey namespaceName ingress, path⟩ = some stat ∧
        engine.metrics.avgLatency.get? [namespaceName, ingress, path] = some stat.avgDuration ∧
        engine.metrics.maxLatency.get? [namespaceName, ingress, path] = some stat.maxDuration := by
  have separate := sound.paired.separate
  have separateToo : engine.metrics.maxLatency.Separate := by
    rw [SeriesMap.Separate, ← sound.paired.same]
    exact separate
  constructor
  · intro fresh namespaceName ingress path shown
    have shownToo := sound.paired.same ▸ shown
    obtain ⟨average, isAverage⟩ := SeriesMap.mem_labelSets.mp shown
    obtain ⟨longest, isLongest⟩ := SeriesMap.mem_labelSets.mp shownToo
    obtain ⟨stat, isRow, rfl⟩ := (fresh namespaceName ingress path average).1 isAverage
    obtain ⟨again, sameRow, rfl⟩ := (fresh namespaceName ingress path longest).2 isLongest
    rw [isRow, Option.some.injEq] at sameRow
    subst again
    exact ⟨stat, isRow, (separate.get?_eq_some_iff shown _).mpr isAverage,
      (separateToo.get?_eq_some_iff shownToo _).mpr isLongest⟩
  · intro current namespaceName ingress path value
    constructor
    · intro member
      have shown := SeriesMap.mem_labelSets.mpr ⟨value, member⟩
      obtain ⟨stat, isRow, average, _⟩ := current namespaceName ingress path shown
      rw [(separate.get?_eq_some_iff shown value).mpr member, Option.some.injEq] at average
      exact ⟨stat, isRow, average⟩
    · intro member
      have shownToo := SeriesMap.mem_labelSets.mpr ⟨value, member⟩
      have shown := sound.paired.same ▸ shownToo
      obtain ⟨stat, isRow, _, longest⟩ := current namespaceName ingress path shown
      rw [(separateToo.get?_eq_some_iff shownToo value).mpr member, Option.some.injEq] at longest
      exact ⟨stat, isRow, longest⟩

theorem countEndpoint_maxLatency (target : EndpointTarget) (record : AccessRecord) (path : String)
    (stat : EndpointStat) (metrics : Metrics) :
    (countEndpoint target record path stat metrics).maxLatency =
      metrics.maxLatency.set [target.namespaceName, target.ingress, path] stat.maxDuration := by
  rw [countEndpoint_eq]
  rfl

section Observe

variable (target : EndpointTarget) (record : AccessRecord) (path : String) (topCount : Nat)

theorem observe_avgLatency :
    (engine.observe target record path topCount).metrics.avgLatency =
      let kept := (engine.movedLabels target).foldl SeriesMap.remove engine.metrics.avgLatency
      if ⟨target.router, path⟩ ∈ engine.top.endpoints then
        kept.set [target.namespaceName, target.ingress, path]
          (engine.rowObserved target record path).avgDuration
      else kept := by
  rw [observe_metrics]
  dsimp only
  split
  · rw [countEndpoint_avgLatency, Metrics.removeLatencies_eq]
    rfl
  · rw [Metrics.removeLatencies_eq]
    rfl

theorem observe_maxLatency :
    (engine.observe target record path topCount).metrics.maxLatency =
      let kept := (engine.movedLabels target).foldl SeriesMap.remove engine.metrics.maxLatency
      if ⟨target.router, path⟩ ∈ engine.top.endpoints then
        kept.set [target.namespaceName, target.ingress, path]
          (engine.rowObserved target record path).maxDuration
      else kept := by
  rw [observe_metrics]
  dsimp only
  split
  · rw [countEndpoint_maxLatency, Metrics.removeLatencies_eq]
    rfl
  · rw [Metrics.removeLatencies_eq]
    rfl

def Writes (engine : Engine) (target : EndpointTarget) (path : String) (labels : List String) :
    Prop :=
  ⟨target.router, path⟩ ∈ engine.top.endpoints ∧
    SeriesMap.slot labels = SeriesMap.slot [target.namespaceName, target.ingress, path]

theorem latencies_of_writes {labels : List String} (writes : engine.Writes target path labels) :
    let after := engine.observe target record path topCount
    after.metrics.avgLatency.get? labels =
        some (engine.rowObserved target record path).avgDuration ∧
      after.metrics.maxLatency.get? labels =
        some (engine.rowObserved target record path).maxDuration := by
  simp only [observe_avgLatency, observe_maxLatency, if_pos writes.1, SeriesMap.get?_set,
    if_pos writes.2, and_self]

theorem latencies_of_not_writes {labels : List String}
    (shown : labels ∈
      (engine.observe target record path topCount).metrics.avgLatency.labelSets)
    (elsewhere : ¬engine.Writes target path labels) :
    let after := engine.observe target record path topCount
    labels ∈ engine.metrics.avgLatency.labelSets ∧
      (∀ moved ∈ engine.movedLabels target, SeriesMap.slot labels ≠ SeriesMap.slot moved) ∧
      after.metrics.avgLatency.get? labels = engine.metrics.avgLatency.get? labels ∧
      after.metrics.maxLatency.get? labels = engine.metrics.maxLatency.get? labels := by
  rw [observe_avgLatency] at shown
  simp only [observe_avgLatency, observe_maxLatency]
  dsimp only at shown
  by_cases inTop : ⟨target.router, path⟩ ∈ engine.top.endpoints
  · have other : SeriesMap.slot labels ≠
        SeriesMap.slot [target.namespaceName, target.ingress, path] :=
      fun same => elsewhere ⟨inTop, same⟩
    rw [if_pos inTop] at shown
    rcases SeriesMap.mem_labelSets_update shown with kept | written
    · obtain ⟨before, left⟩ := SeriesMap.mem_labelSets_removeAll.mp kept
      refine ⟨before, left, ?_⟩
      simp only [if_pos inTop, SeriesMap.get?_set, if_neg other, SeriesMap.get?_removeAll left,
        and_self]
    · exact absurd (congrArg SeriesMap.slot written) other
  · rw [if_neg inTop] at shown
    obtain ⟨before, left⟩ := SeriesMap.mem_labelSets_removeAll.mp shown
    refine ⟨before, left, ?_⟩
    simp only [if_neg inTop, SeriesMap.get?_removeAll left, and_self]

theorem get?_observe (key : EndpointKey) :
    (engine.observe target record path topCount).stats.get? key =
      if key = ⟨target.router, path⟩ then some (engine.rowObserved target record path)
      else engine.stats.get? key := by
  rw [observe_stats]
  exact EndpointStats.get?_record _ _ _ _ key

theorem mem_labelSets_remember {labels : List String} :
    labels ∈ (engine.rememberRouter target topCount).metrics.avgLatency.labelSets ↔
      labels ∈ engine.metrics.avgLatency.labelSets ∧
        ∀ moved ∈ engine.movedLabels target, SeriesMap.slot labels ≠ SeriesMap.slot moved := by
  rw [rememberRouter_metrics, Metrics.removeLatencies_eq]
  exact SeriesMap.mem_labelSets_removeAll

theorem mem_labelSets_observe {labels : List String}
    (shown : labels ∈
      (engine.observe target record path topCount).metrics.avgLatency.labelSets) :
    labels ∈ (engine.rememberRouter target topCount).metrics.avgLatency.labelSets ∨
      labels = [target.namespaceName, target.ingress, path] := by
  rw [mem_labelSets_remember, ← SeriesMap.mem_labelSets_removeAll]
  rw [observe_avgLatency] at shown
  dsimp only at shown
  split at shown
  · exact SeriesMap.mem_labelSets_update shown
  · exact Or.inl shown

theorem mem_labelSets_observe_of_remember {labels : List String}
    (kept : labels ∈ (engine.rememberRouter target topCount).metrics.avgLatency.labelSets) :
    labels ∈ (engine.observe target record path topCount).metrics.avgLatency.labelSets := by
  rw [mem_labelSets_remember, ← SeriesMap.mem_labelSets_removeAll] at kept
  rw [observe_avgLatency]
  dsimp only
  split
  · rw [SeriesMap.set, SeriesMap.labelSets_update]
    split
    · exact kept
    · exact List.mem_append_left _ kept
  · exact kept

theorem labels_of_left {labels : List String} {info : RouterInfo} {other : String}
    (left : ∀ moved ∈ engine.movedLabels target, SeriesMap.slot labels ≠ SeriesMap.slot moved)
    (known : engine.info? target.router = some info)
    (inTop : ⟨target.router, other⟩ ∈ engine.top.endpoints)
    (sameSlot : SeriesMap.slot labels = SeriesMap.slot (gaugeValues info other)) :
    SeriesMap.slot labels = SeriesMap.slot [target.namespaceName, target.ingress, other] := by
  have kept : ¬(info.namespaceName ≠ target.namespaceName ∨ info.ingress ≠ target.ingress) := by
    intro moved
    refine left (gaugeValues info other) ?_ sameSlot
    simp only [movedLabels, known, if_pos moved]
    exact List.mem_map_of_mem (TopSet.mem_pathsOf.mpr inTop)
  push Not at kept
  rw [sameSlot, gaugeValues, kept.1, kept.2]

theorem Shown.observe (shown : engine.Shown) (isKeyed : target.IsKeyed) :
    (engine.observe target record path topCount).Shown := by
  refine ⟨shown.keyed.observe target record path topCount isKeyed, ?_, ?_⟩
  · intro namespaceName ingress other isShown
    rw [observe_stats, EndpointStats.mem_keys_record]
    rcases mem_labelSets_observe target record path topCount isShown with before | written
    · exact Or.inl (shown.named _ _ _ ((mem_labelSets_remember target topCount).mp before).1)
    · simp only [List.cons.injEq, and_true] at written
      obtain ⟨rfl, rfl, rfl⟩ := written
      exact Or.inr (by rw [isKeyed])
  · intro labels isShown
    by_cases writes : engine.Writes target path labels
    · have latencies := latencies_of_writes target record path topCount writes
      refine ⟨⟨target.router, path⟩, infoOf target topCount,
        engine.rowObserved target record path, ?_, by simpa using writes.1, writes.2, ?_,
        latencies⟩
      · rw [info?_observe, if_pos rfl]
      · rw [get?_observe, if_pos rfl]
    · obtain ⟨before, left, average, longest⟩ :=
        latencies_of_not_writes target record path topCount isShown writes
      obtain ⟨key, info, stat, known, inTop, sameSlot, isRow, isAverage, isLongest⟩ :=
        shown.current labels before
      have notWritten : key ≠ ⟨target.router, path⟩ := by
        rintro rfl
        exact writes ⟨inTop, labels_of_left target left known inTop sameSlot⟩
      have row : (engine.observe target record path topCount).stats.get? key = some stat := by
        rw [get?_observe, if_neg notWritten, isRow]
      rw [← average] at isAverage
      rw [← longest] at isLongest
      by_cases own : key.router = target.router
      · refine ⟨key, infoOf target topCount, stat, ?_, by simpa using inTop, ?_, row, isAverage,
          isLongest⟩
        · rw [info?_observe, if_pos own]
        · obtain ⟨router, other⟩ := key
          obtain rfl : router = target.router := own
          exact labels_of_left target left known inTop sameSlot
      · refine ⟨key, info, stat, ?_, by simpa using inTop, sameSlot, row, isAverage, isLongest⟩
        rw [info?_observe, if_neg own, known]

/-- A request leaves the latencies fresh exactly if it does not write over those of another
endpoint. -/
theorem Fresh.observe_iff (fresh : engine.Fresh) (shown : engine.Shown)
    (isKeyed : target.IsKeyed) :
    (engine.observe target record path topCount).Fresh ↔
      ¬engine.WritesOver target record path topCount := by
  have keyedAfter := shown.keyed.observe target record path topCount isKeyed
  have current := shown.keyed.latencies.fresh_iff.mp fresh
  rw [keyedAfter.latencies.fresh_iff]
  constructor
  · rintro currentAfter ⟨inTop, namespaceName, ingress, other, stat, kept, foreign, sameSlot, isRow,
      differs⟩
    have writes : engine.Writes target path [namespaceName, ingress, other] :=
      ⟨TopSet.contains_iff.mp inTop, sameSlot⟩
    obtain ⟨average, longest⟩ := latencies_of_writes target record path topCount writes
    obtain ⟨again, isRowAfter, isAverage, isLongest⟩ := currentAfter namespaceName ingress other
      (mem_labelSets_observe_of_remember target record path topCount kept)
    rw [get?_observe, if_neg foreign, isRow, Option.some.injEq] at isRowAfter
    subst again
    rw [average, Option.some.injEq] at isAverage
    rw [longest, Option.some.injEq] at isLongest
    rcases differs with differs | differs
    · exact differs isAverage.symm
    · exact differs isLongest.symm
  · intro notOver namespaceName ingress other isShown
    by_cases writes : engine.Writes target path [namespaceName, ingress, other]
    · obtain ⟨average, longest⟩ := latencies_of_writes target record path topCount writes
      rw [average, longest, get?_observe]
      by_cases own : (⟨targetKey namespaceName ingress, other⟩ : EndpointKey) =
          ⟨target.router, path⟩
      · rw [if_pos own]
        exact ⟨_, rfl, rfl, rfl⟩
      · have kept := (mem_labelSets_observe target record path topCount isShown).resolve_right
          fun same => own (by
            simp only [List.cons.injEq, and_true] at same
            rw [same.1, same.2.1, same.2.2, isKeyed])
        obtain ⟨stat, isRow, _⟩ := current namespaceName ingress other
          ((mem_labelSets_remember target topCount).mp kept).1
        rw [if_neg own]
        refine ⟨stat, isRow, ?_⟩
        by_contra differs
        refine notOver ⟨TopSet.contains_iff.mpr writes.1, namespaceName, ingress, other, stat, kept,
          own, writes.2, isRow, ?_⟩
        by_contra same
        push Not at same
        exact differs ⟨by rw [same.1], by rw [same.2]⟩
    · obtain ⟨before, _, average, longest⟩ :=
        latencies_of_not_writes target record path topCount isShown writes
      rw [average, longest, get?_observe, if_neg]
      · exact current namespaceName ingress other before
      · -- What is shown of the endpoint stands under its own labels, so it was written.
        intro same
        obtain ⟨info, known, inTop, labels⟩ := keyedAfter.labels_eq isShown
        simp only [EndpointKey.mk.injEq] at same
        obtain ⟨own, rfl⟩ := same
        rw [own, info?_observe, if_pos rfl, Option.some.injEq] at known
        subst info
        rw [own, observe_top] at inTop
        exact writes ⟨inTop, by rw [labels, gaugeValues, infoOf]⟩

end Observe

/-- Whether a state is left of another by removing latencies, where an endpoint whose latency was
not removed stands as it did. -/
structure LeftOf (engine after : Engine) (removed : List (List String)) : Prop where
  average : after.metrics.avgLatency = removed.foldl SeriesMap.remove engine.metrics.avgLatency
  longest : after.metrics.maxLatency = removed.foldl SeriesMap.remove engine.metrics.maxLatency
  kept : ∀ key info, engine.info? key.router = some info → key ∈ engine.top.endpoints →
    (∀ labels ∈ removed, SeriesMap.slot (gaugeValues info key.path) ≠ SeriesMap.slot labels) →
    after.info? key.router = some info ∧ key ∈ after.top.endpoints ∧
      after.stats.get? key = engine.stats.get? key

section Left

variable {after : Engine} {removed : List (List String)} (isLeft : engine.LeftOf after removed)

include isLeft

theorem LeftOf.mem_labelSets {labels : List String} :
    labels ∈ after.metrics.avgLatency.labelSets ↔
      labels ∈ engine.metrics.avgLatency.labelSets ∧
        ∀ moved ∈ removed, SeriesMap.slot labels ≠ SeriesMap.slot moved := by
  rw [isLeft.average]
  exact SeriesMap.mem_labelSets_removeAll

theorem LeftOf.row (keyed : engine.Keyed) {namespaceName ingress path : String}
    (shown : [namespaceName, ingress, path] ∈ after.metrics.avgLatency.labelSets) :
    after.stats.get? ⟨targetKey namespaceName ingress, path⟩ =
      engine.stats.get? ⟨targetKey namespaceName ingress, path⟩ := by
  obtain ⟨before, left⟩ := isLeft.mem_labelSets.mp shown
  obtain ⟨info, known, inTop, labels⟩ := keyed.labels_eq before
  rw [labels] at left
  exact (isLeft.kept _ info known inTop left).2.2

theorem LeftOf.fresh (keyed : engine.Keyed) (keyedAfter : after.Keyed) (fresh : engine.Fresh) :
    after.Fresh := by
  have current := keyed.latencies.fresh_iff.mp fresh
  rw [keyedAfter.latencies.fresh_iff]
  intro namespaceName ingress path shown
  obtain ⟨before, left⟩ := isLeft.mem_labelSets.mp shown
  rw [isLeft.row keyed shown, isLeft.average, isLeft.longest, SeriesMap.get?_removeAll left,
    SeriesMap.get?_removeAll left]
  exact current namespaceName ingress path before

theorem LeftOf.shown (shown : engine.Shown) (keyedAfter : after.Keyed) : after.Shown := by
  refine ⟨keyedAfter, ?_, ?_⟩
  · intro namespaceName ingress path isShown
    have named := shown.named _ _ _ (isLeft.mem_labelSets.mp isShown).1
    by_contra missing
    rw [← EndpointStats.get?_eq_none, isLeft.row shown.keyed isShown,
      EndpointStats.get?_eq_none] at missing
    exact missing named
  · intro labels isShown
    obtain ⟨before, left⟩ := isLeft.mem_labelSets.mp isShown
    obtain ⟨key, info, stat, known, inTop, sameSlot, isRow, average, longest⟩ :=
      shown.current labels before
    obtain ⟨knownAfter, inTopAfter, sameRow⟩ := isLeft.kept key info known inTop (sameSlot ▸ left)
    refine ⟨key, info, stat, knownAfter, inTopAfter, sameSlot, sameRow.trans isRow, ?_, ?_⟩
    · rw [isLeft.average, SeriesMap.get?_removeAll left, average]
    · rw [isLeft.longest, SeriesMap.get?_removeAll left, longest]

end Left

theorem leftOf_refreshTop :
    engine.LeftOf engine.refreshTop (engine.fallenLabels engine.refreshTop.top) := by
  refine ⟨by rw [refreshTop_metrics, Metrics.removeLatencies_eq],
    by rw [refreshTop_metrics, Metrics.removeLatencies_eq], ?_⟩
  intro key info known inTop left
  refine ⟨known, ?_, rfl⟩
  by_contra fallen
  refine left (gaugeValues info key.path) ?_ rfl
  rw [fallenLabels, List.mem_filterMap]
  refine ⟨key, List.mem_filter.mpr ⟨inTop, ?_⟩, by simp [labelsOf, known]⟩
  simpa [← TopSet.contains_iff] using fallen

theorem leftOf_forgetRouter (keyed : engine.Keyed) (forgotten : String) :
    engine.LeftOf (engine.forgetRouter forgotten) (engine.forgottenLabels forgotten) := by
  refine ⟨by rw [forgetRouter_metrics, Metrics.removeLatencies_eq],
    by rw [forgetRouter_metrics, Metrics.removeLatencies_eq], ?_⟩
  intro key info known inTop left
  have other : key.router ≠ forgotten := by
    rintro rfl
    refine left (gaugeValues info key.path) ?_ rfl
    rw [forgottenLabels, known]
    exact List.mem_map_of_mem (TopSet.mem_pathsOf.mpr inTop)
  refine ⟨by rw [info?_forgetRouter, if_neg other, known], by simpa using inTop, ?_⟩
  rw [forgetRouter_stats]
  split
  · exact keyed.kept.rows.get?_removeRouter other
  · rfl

theorem leftOf_resetEndpointSeries (sound : engine.LatencySound) :
    engine.LeftOf engine.resetEndpointSeries engine.metrics.avgLatency.labelSets where
  average := (SeriesMap.removeAll_labelSets _).symm
  longest := by
    rw [sound.paired.same]
    exact (SeriesMap.removeAll_labelSets _).symm
  kept := fun _ _ known inTop _ => ⟨known, inTop, rfl⟩

/-- Whatever is no request removes latencies at most. -/
theorem Keyed.exists_leftOf (keyed : engine.Keyed) (step : EngineStep)
    (noRequest : ∀ target record path topCount, step ≠ .observe target record path topCount) :
    ∃ removed, engine.LeftOf (engine.step step) removed := by
  cases step with
  | observe target record path topCount => exact absurd rfl (noRequest target record path topCount)
  | observeOverhead record => exact ⟨[], rfl, rfl, fun _ _ known inTop _ => ⟨known, inTop, rfl⟩⟩
  | countLine outcome => exact ⟨[], rfl, rfl, fun _ _ known inTop _ => ⟨known, inTop, rfl⟩⟩
  | refreshTop => exact ⟨_, leftOf_refreshTop⟩
  | forgetRouter router => exact ⟨_, leftOf_forgetRouter keyed router⟩
  | resetEndpointSeries => exact ⟨_, leftOf_resetEndpointSeries keyed.latencies⟩
  | scrape => exact ⟨[], rfl, rfl, fun _ _ known inTop _ => ⟨known, inTop, rfl⟩⟩

theorem Keyed.step (keyed : engine.Keyed) (step : EngineStep) (isKeyed : step.IsKeyed) :
    (engine.step step).Keyed := by
  cases step with
  | observe target record path topCount => exact keyed.observe target record path topCount isKeyed
  | observeOverhead record => exact keyed.of_step (.observeOverhead record) rfl
  | countLine outcome => exact keyed.of_step (.countLine outcome) rfl
  | refreshTop => exact keyed.of_step .refreshTop rfl
  | forgetRouter router => exact keyed.forgetRouter router
  | resetEndpointSeries => exact keyed.of_step .resetEndpointSeries rfl
  | scrape => exact keyed.of_step .scrape rfl

theorem Shown.step (shown : engine.Shown) (step : EngineStep) (isKeyed : step.IsKeyed) :
    (engine.step step).Shown := by
  by_cases request : ∃ target record path topCount, step = .observe target record path topCount
  · obtain ⟨target, record, path, topCount, rfl⟩ := request
    exact shown.observe target record path topCount isKeyed
  · push Not at request
    obtain ⟨removed, isLeft⟩ := shown.keyed.exists_leftOf step request
    exact isLeft.shown shown (shown.keyed.step step isKeyed)

theorem Fresh.step_iff (fresh : engine.Fresh) (shown : engine.Shown) (step : EngineStep)
    (isKeyed : step.IsKeyed) :
    (engine.step step).Fresh ↔ ∀ target record path topCount,
      step = .observe target record path topCount →
        ¬engine.WritesOver target record path topCount := by
  by_cases request : ∃ target record path topCount, step = .observe target record path topCount
  · obtain ⟨target, record, path, topCount, rfl⟩ := request
    rw [Engine.step, fresh.observe_iff target record path topCount shown isKeyed]
    constructor
    · rintro harmless _ _ _ _ ⟨⟩
      exact harmless
    · exact fun harmless => harmless target record path topCount rfl
  · push Not at request
    obtain ⟨removed, isLeft⟩ := shown.keyed.exists_leftOf step request
    have after := isLeft.fresh shown.keyed (shown.keyed.step step isKeyed) fresh
    exact iff_of_true after fun target record path topCount same =>
      absurd same (request target record path topCount)

theorem run_concat (steps : List EngineStep) (step : EngineStep) :
    run (steps ++ [step]) = (run steps).step step :=
  List.foldl_concat _ _ _ _

theorem run_shown {steps : List EngineStep} (isKeyed : ∀ step ∈ steps, step.IsKeyed) :
    (run steps).Shown := by
  induction steps using List.reverseRecOn with
  | nil => exact shown_new
  | append_singleton steps step ih =>
      rw [run_concat]
      exact (ih fun step member => isKeyed step (by simp [member])).step step
        (isKeyed step (by simp))

/-- Where each target is observed under the key of its labels, a latency stands for an endpoint that
has a row and shows the row, as it is now, of one in the top set. Through a run the latencies are
those of the rows that their label values name exactly as long as no request writes over those of
another endpoint. -/
theorem run_fresh_iff (steps : List EngineStep) (isKeyed : ∀ step ∈ steps, step.IsKeyed) :
    (∀ namespaceName ingress path,
      [namespaceName, ingress, path] ∈ (run steps).metrics.avgLatency.labelSets →
        ∃ stat, (run steps).stats.get? ⟨targetKey namespaceName ingress, path⟩ = some stat) ∧
      (∀ labels ∈ (run steps).metrics.avgLatency.labelSets,
        ∃ key, (run steps).ShowsRow labels key) ∧
      ((∀ earlier, earlier <+: steps → (run earlier).Fresh) ↔
        ∀ earlier target record path topCount,
          earlier ++ [.observe target record path topCount] <+: steps →
            ¬(run earlier).WritesOver target record path topCount) := by
  have shown : ∀ earlier, earlier <+: steps → (run earlier).Shown := fun earlier started =>
    run_shown fun step member => isKeyed step (started.subset member)
  refine ⟨?_, (shown steps (List.prefix_refl steps)).current, ?_, ?_⟩
  · intro namespaceName ingress path isShown
    exact Entries.exists_lookup
      ((shown steps (List.prefix_refl steps)).named namespaceName ingress path isShown)
  · intro fresh earlier target record path topCount started
    have before := fresh earlier ((List.prefix_append _ _).trans started)
    have after := fresh _ started
    rw [run_concat] at after
    have harmless := (before.step_iff (shown earlier ((List.prefix_append _ _).trans started)) _
      (isKeyed _ (started.subset (by simp)))).mp after
    exact harmless target record path topCount rfl
  · intro harmless earlier started
    induction earlier using List.reverseRecOn with
    | nil => exact fresh_new
    | append_singleton earlier step ih =>
        have began := (List.prefix_append _ _).trans started
        rw [run_concat]
        refine ((ih began).step_iff (shown earlier began) step
          (isKeyed step (started.subset (by simp)))).mpr ?_
        rintro target record path topCount rfl
        exact harmless earlier target record path topCount started

-- Two paths of one target that share a slot.
example : SeriesMap.slot ["shop", "web", "/MDKe7mR0z7C"] =
    SeriesMap.slot ["shop", "web", "/r8Vt5Sue6UH"] := by
  decide

def sharedText : List EngineStep :=
  let sweb : EndpointTarget := ⟨"shop-sweb", "shop", "sweb", .ingress, "shop-sweb@kubernetes"⟩
  let web : EndpointTarget := ⟨"shops-web", "shops", "web", .ingress, "shops-web@kubernetes"⟩
  let request (milliseconds : Float) : AccessRecord :=
    { method := "GET", path := "/a", originStatus := 200, durationMs := milliseconds }
  [.observe sweb (request 100) "/a" 20, .observe web (request 300) "/a" 20, .refreshTop,
    .observe sweb (request 100) "/a" 20, .observe web (request 300) "/a" 20]

theorem sharedText_isKeyed : ∀ step ∈ sharedText, step.IsKeyed := by
  have sweb : targetKey "shop" "sweb" = "shop-sweb" := by decide +kernel
  have web : targetKey "shops" "web" = "shops-web" := by decide +kernel
  simp [sharedText, EngineStep.IsKeyed, EndpointTarget.IsKeyed, sweb, web]

theorem run_fresh_iff_sharedText :
    (∀ step ∈ sharedText, step.IsKeyed) ∧
      ∀ labels ∈ (run sharedText).metrics.avgLatency.labelSets,
        ∃ key, (run sharedText).ShowsRow labels key :=
  ⟨sharedText_isKeyed, (run_fresh_iff sharedText sharedText_isKeyed).2.1⟩

/-- The series of one endpoint shows the average of another with the same slot. -/
theorem sharedText_not_fresh :
    (∀ step ∈ sharedText, step.IsKeyed) ∧
      (run sharedText).metrics.avgLatency.series = [(["shop", "sweb", "/a"], 0.3)] ∧
      ((run sharedText).stats.get? ⟨targetKey "shop" "sweb", "/a"⟩).map (·.avgDuration) =
        some 0.1 ∧
      ¬(run sharedText).Fresh := by
  have series : (run sharedText).metrics.avgLatency.series = [(["shop", "sweb", "/a"], 0.3)] := by
    decide +kernel
  have row : ((run sharedText).stats.get? ⟨targetKey "shop" "sweb", "/a"⟩).map (·.avgDuration) =
      some 0.1 := by
    decide +kernel
  refine ⟨sharedText_isKeyed, series, row, ?_⟩
  intro fresh
  obtain ⟨stat, isRow, shown⟩ := (fresh "shop" "sweb" "/a" 0.3).1 (by simp [series])
  rw [isRow, Option.map_some, ← shown, Option.some.injEq] at row
  revert row
  decide +kernel

end Engine

end IngressMeter
