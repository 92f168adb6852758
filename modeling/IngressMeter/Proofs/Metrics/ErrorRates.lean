import IngressMeter.Proofs.Metrics.Exposition
import IngressMeter.Proofs.Metrics.Forgetting
import IngressMeter.Proofs.Metrics.Projection
import Mathlib.Data.List.Find

/-!
What a scrape reads of errors. A request is reported if its endpoint is in the top set when it is
observed and has failed requests then. The three families of error rates are what the reports since
the last scrape write to them, so they show the endpoints of these reports with their last rates
exactly if no two of them with different label values share a slot.
-/

namespace IngressMeter

namespace SeriesMap

variable {α : Type}

def written (entries : List (List String × α)) : SeriesMap α :=
  entries.foldl (fun family entry => family.set entry.1 entry.2) {}

theorem written_concat (entries : List (List String × α)) (last : List String × α) :
    written (entries ++ [last]) = (written entries).set last.1 last.2 :=
  List.foldl_concat _ _ _ _

theorem separate_written (entries : List (List String × α)) : (written entries).Separate := by
  induction entries using List.reverseRecOn with
  | nil => exact separate_empty
  | append_singleton entries last ih =>
      rw [written_concat]
      exact ih.update _ _ _

theorem mem_of_mem_labelSets_written {entries : List (List String × α)} {labels : List String}
    (shown : labels ∈ (written entries).labelSets) : ∃ entry ∈ entries, entry.1 = labels := by
  induction entries using List.reverseRecOn with
  | nil => simp [written, labelSets] at shown
  | append_singleton entries last ih =>
      rw [written_concat] at shown
      rcases mem_labelSets_update shown with before | isNew
      · obtain ⟨entry, isEntry, same⟩ := ih before
        exact ⟨entry, List.mem_append_left _ isEntry, same⟩
      · exact ⟨last, List.mem_append_right _ List.mem_cons_self, isNew.symm⟩

theorem get?_written (entries : List (List String × α)) (labels : List String) :
    (written entries).get? labels =
      (entries.reverse.find? fun entry => slot entry.1 = slot labels).map (·.2) := by
  induction entries using List.reverseRecOn with
  | nil => rfl
  | append_singleton entries last ih =>
      rw [written_concat, get?_set, ih, List.reverse_append, List.reverse_singleton,
        List.singleton_append, List.find?_cons]
      by_cases here : slot last.1 = slot labels
      · simp [here]
      · simp [here, Ne.symm here]

theorem exists_shown_of_written {entries : List (List String × α)} {entry : List String × α}
    (isEntry : entry ∈ entries) :
    ∃ shown ∈ (written entries).labelSets, slot shown = slot entry.1 := by
  cases found : (written entries).get? entry.1 with
  | none =>
      rw [get?_written, Option.map_eq_none_iff, List.find?_eq_none] at found
      exact absurd (decide_eq_true rfl) (found entry (List.mem_reverse.mpr isEntry))
  | some value => exact exists_shown_of_get? found

/-- Each list of label values shows what was written to it last exactly if no two that were written
share a slot. -/
theorem written_exact_iff (entries : List (List String × α)) :
    (∀ labels, (written entries).series.lookup labels =
        (entries.reverse.find? fun entry => entry.1 = labels).map (·.2)) ↔
      ∀ first ∈ entries, ∀ second ∈ entries, slot first.1 = slot second.1 → first.1 = second.1 := by
  constructor
  · intro exact first isFirst second isSecond sameText
    have shown : ∀ entry ∈ entries, entry.1 ∈ (written entries).labelSets := by
      intro entry isEntry
      by_contra missing
      have absent := exact entry.1
      rw [Entries.lookup_eq_none.mpr missing, eq_comm, Option.map_eq_none_iff,
        List.find?_eq_none] at absent
      exact absent entry (List.mem_reverse.mpr isEntry) (decide_eq_true rfl)
    exact List.inj_on_of_nodup_map (separate_written entries) (shown first isFirst)
      (shown second isSecond) sameText
  · intro apart labels
    by_cases isWritten : ∃ entry ∈ entries, entry.1 = labels
    · obtain ⟨entry, isEntry, rfl⟩ := isWritten
      have sameEntry : (entries.reverse.find? fun other => slot other.1 = slot entry.1) =
          entries.reverse.find? fun other => other.1 = entry.1 := by
        refine List.find?_congr fun other isOther => decide_eq_decide.mpr ?_
        exact ⟨apart other (List.mem_reverse.mp isOther) entry isEntry, congrArg slot⟩
      obtain ⟨shown, isShown, sameText⟩ := exists_shown_of_written isEntry
      obtain ⟨other, isOther, rfl⟩ := mem_of_mem_labelSets_written isShown
      rw [apart other isOther entry isEntry sameText] at isShown
      rw [(separate_written entries).lookup_eq_get? isShown, get?_written, sameEntry]
    · have unshown : labels ∉ (written entries).labelSets :=
        fun shown => isWritten (mem_of_mem_labelSets_written shown)
      have unwritten : (entries.reverse.find? fun entry => entry.1 = labels) = none := by
        rw [List.find?_eq_none]
        intro entry isEntry same
        exact isWritten ⟨entry, List.mem_reverse.mp isEntry, of_decide_eq_true same⟩
      rw [Entries.lookup_eq_none.mpr unshown, unwritten]
      rfl

end SeriesMap

structure ErrorRate where
  name : String
  family : Metrics → SeriesMap Float
  value : EndpointStat → Float

namespace ErrorRate

def ofAny : ErrorRate :=
  ⟨Metrics.fullName "endpoint_error_rate", (·.errorRate), (·.errorRate)⟩

def ofClients : ErrorRate :=
  ⟨Metrics.fullName "endpoint_client_error_rate", (·.clientErrorRate), (·.clientErrorRate)⟩

def ofServers : ErrorRate :=
  ⟨Metrics.fullName "endpoint_server_error_rate", (·.serverErrorRate), (·.serverErrorRate)⟩

end ErrorRate

def errorRates : List ErrorRate := [.ofAny, .ofClients, .ofServers]

structure ErrorReport where
  target : EndpointTarget
  path : String
  row : EndpointStat

def ErrorReport.gauge (report : ErrorReport) : List String := report.target.gauge report.path

namespace ErrorRate

variable {rate : ErrorRate}

theorem ofAny_mem : ofAny ∈ errorRates := List.mem_cons_self

theorem eq_of_mem (isRate : rate ∈ errorRates) :
    rate = ofAny ∨ rate = ofClients ∨ rate = ofServers := by
  simpa [errorRates] using isRate

def line (rate : ErrorRate) (entry : List String × Float) : String :=
  Exposition.sampleLine rate.name (Exposition.sortPairs (Metrics.gaugeLabels.zip entry.1))
    (Decimal.render entry.2)

def shown (rate : ErrorRate) (reports : List ErrorReport) : SeriesMap Float :=
  SeriesMap.written (reports.map fun report => (report.gauge, rate.value report.row))

theorem labelSets_shown (rate other : ErrorRate) (reports : List ErrorReport) :
    (rate.shown reports).labelSets = (other.shown reports).labelSets := by
  induction reports using List.reverseRecOn with
  | nil => rfl
  | append_singleton reports last ih =>
      rw [shown, shown, List.map_append, List.map_append, List.map_singleton, List.map_singleton,
        SeriesMap.written_concat, SeriesMap.written_concat]
      exact SeriesMap.labelSets_set_congr ih _ _ _

theorem get?_shown (rate : ErrorRate) (reports : List ErrorReport) (labels : List String) :
    (rate.shown reports).get? labels =
      (reports.reverse.find? fun report =>
        SeriesMap.slot report.gauge = SeriesMap.slot labels).map fun report =>
          rate.value report.row := by
  rw [shown, SeriesMap.get?_written, ← List.map_reverse, List.find?_map, Option.map_map]
  rfl

theorem shown_exact_iff (rate : ErrorRate) (reports : List ErrorReport) :
    (∀ labels, (rate.shown reports).series.lookup labels =
        (reports.reverse.find? fun report => report.gauge = labels).map fun report =>
          rate.value report.row) ↔
      ∀ first ∈ reports, ∀ second ∈ reports,
        SeriesMap.slot first.gauge = SeriesMap.slot second.gauge → first.gauge = second.gauge := by
  have exact := SeriesMap.written_exact_iff
    (reports.map fun report => (report.gauge, rate.value report.row))
  simp only [List.forall_mem_map, ← List.map_reverse, List.find?_map, Option.map_map] at exact
  exact exact

theorem family_mem (isRate : rate ∈ errorRates) : rate.family ∈ Metrics.errorFamilies :=
  List.mem_map_of_mem (f := ErrorRate.family) isRate

theorem isName_of_mem_families (metrics : Metrics) :
    ∀ family ∈ metrics.families, Exposition.IsName family.name := by
  have areNames : ∀ name ∈ ({} : Metrics).families.map (·.name), Exposition.IsName name := by
    decide +kernel
  intro family isFamily
  exact areNames family.name (List.mem_map_of_mem (f := (·.name)) isFamily)

theorem exists_own_family (isRate : rate ∈ errorRates) (metrics : Metrics) :
    rate.name ≠ "#" ∧
      ∃ help, metrics.families.filter (fun family => rate.name ∈ family.sampleNames) =
        [⟨rate.name, help,
          .gauge (Exposition.label Metrics.gaugeLabels (rate.family metrics))⟩] := by
  rcases eq_of_mem isRate with rfl | rfl | rfl <;> exact ⟨by decide, _, rfl⟩

theorem linesNamed_render (isRate : rate ∈ errorRates) (metrics : Metrics) :
    (Exposition.linesNamed rate.name metrics.render).Perm
      ((rate.family metrics).series.map rate.line) := by
  obtain ⟨noComment, help, isOwn⟩ := exists_own_family isRate metrics
  rw [Metrics.render, Exposition.linesNamed_lines_gauge (isName_of_mem_families metrics) noComment
    isOwn]
  refine ((List.mergeSort_perm _ _).map _).trans ?_
  rw [List.map_map]
  rfl

theorem family_countEndpoint (isRate : rate ∈ errorRates) (target : EndpointTarget)
    (record : AccessRecord) (path : String) (stat : EndpointStat) (metrics : Metrics) :
    rate.family (Engine.countEndpoint target record path stat metrics) =
      if 0 < stat.errorCount then
        (rate.family metrics).set (target.gauge path) (rate.value stat)
      else rate.family metrics := by
  rw [Engine.countEndpoint_eq]
  rcases eq_of_mem isRate with rfl | rfl | rfl <;> rfl

theorem family_kept (isRate : rate ∈ errorRates) (removed : List (List String))
    (target : EndpointTarget) (record : AccessRecord) (metrics : Metrics) :
    rate.family (removed.foldl Metrics.removeLatency (Engine.countRequest target record metrics)) =
      rate.family metrics := by
  rw [Metrics.errorFamilies_removeAll (family_mem isRate)]
  rcases eq_of_mem isRate with rfl | rfl | rfl <;> rfl

end ErrorRate

def EngineStep.keepsRates : EngineStep → Bool
  | scrape => false
  | _ => true

namespace Engine

def reported (engine : Engine) : EngineStep → List ErrorReport
  | .observe target record path topCount =>
    let key : EndpointKey := ⟨target.router, path⟩
    match (engine.observe target record path topCount).stats.get? key with
    | some row => if engine.top.contains key ∧ 0 < row.errorCount then [⟨target, path, row⟩] else []
    | none => []
  | _ => []

def reportsSinceScrape (steps : List EngineStep) : List ErrorReport :=
  gatherSince reported (·.keepsRates) steps

variable {engine : Engine} {rate : ErrorRate} {reports : List ErrorReport}

theorem reported_observe (target : EndpointTarget) (record : AccessRecord) (path : String)
    (topCount : Nat) :
    engine.reported (.observe target record path topCount) =
      let row := engine.rowObserved target record path
      if ⟨target.router, path⟩ ∈ engine.top.endpoints ∧ 0 < row.errorCount then
        [⟨target, path, row⟩]
      else [] := by
  simp only [reported, get?_observe, if_pos, TopSet.contains_iff]

theorem rates_observe (isRate : rate ∈ errorRates)
    (shows : rate.family engine.metrics = rate.shown reports) (target : EndpointTarget)
    (record : AccessRecord) (path : String) (topCount : Nat) :
    rate.family (engine.observe target record path topCount).metrics =
      rate.shown (reports ++ engine.reported (.observe target record path topCount)) := by
  rw [observe_metrics, reported_observe]
  dsimp only
  by_cases inTop : ⟨target.router, path⟩ ∈ engine.top.endpoints
  · rw [if_pos inTop, ErrorRate.family_countEndpoint isRate, ErrorRate.family_kept isRate, shows]
    by_cases failed : 0 < (engine.rowObserved target record path).errorCount
    · rw [if_pos failed, if_pos ⟨inTop, failed⟩, ErrorRate.shown, ErrorRate.shown, List.map_append,
        List.map_singleton, SeriesMap.written_concat]
      rfl
    · rw [if_neg failed, if_neg fun both => failed both.2, List.append_nil]
  · rw [if_neg inTop, if_neg fun both => inTop both.1, List.append_nil,
      ErrorRate.family_kept isRate, shows]

theorem rates_of_not_observe (isRate : rate ∈ errorRates) {step : EngineStep}
    (other : step.isObserve = false) (keeps : step.keepsRates = true) :
    rate.family (engine.step step).metrics = rate.family engine.metrics := by
  cases step with
  | observe => contradiction
  | scrape => contradiction
  | refreshTop =>
      rw [Engine.step, refreshTop_metrics,
        Metrics.errorFamilies_removeAll (ErrorRate.family_mem isRate)]
  | forgetRouter router =>
      rw [Engine.step, forgetRouter_metrics,
        Metrics.errorFamilies_removeAll (ErrorRate.family_mem isRate)]
  | observeOverhead record =>
      rcases ErrorRate.eq_of_mem isRate with rfl | rfl | rfl <;> rfl
  | countLine outcome =>
      rcases ErrorRate.eq_of_mem isRate with rfl | rfl | rfl <;> rfl
  | resetEndpointSeries =>
      rcases ErrorRate.eq_of_mem isRate with rfl | rfl | rfl <;> rfl

theorem reported_of_not_observe {step : EngineStep} (other : step.isObserve = false) :
    engine.reported step = [] := by
  cases step with
  | observe => contradiction
  | _ => rfl

theorem rates_step (isRate : rate ∈ errorRates)
    (shows : rate.family engine.metrics = rate.shown reports) (step : EngineStep) :
    rate.family (engine.step step).metrics =
      rate.shown (if step.keepsRates then reports ++ engine.reported step else []) := by
  cases step with
  | observe target record path topCount => exact rates_observe isRate shows _ _ _ _
  | scrape => rcases ErrorRate.eq_of_mem isRate with rfl | rfl | rfl <;> rfl
  | _ =>
      change _ = rate.shown (reports ++ engine.reported _)
      rw [rates_of_not_observe isRate rfl rfl, reported_of_not_observe rfl, List.append_nil, shows]

theorem run_rates (isRate : rate ∈ errorRates) (steps : List EngineStep) :
    rate.family (run steps).metrics = rate.shown (reportsSinceScrape steps) := by
  induction steps using List.reverseRecOn with
  | nil => rcases ErrorRate.eq_of_mem isRate with rfl | rfl | rfl <;> rfl
  | append_singleton steps step ih =>
      rw [run_concat, reportsSinceScrape, gatherSince_concat]
      exact rates_step isRate ih step

/-- Whether the error rates are those of the endpoints that were reported, each as it was reported
last. -/
def ShowsReports (engine : Engine) (reports : List ErrorReport) : Prop :=
  ∀ rate ∈ errorRates, ∀ labels, (rate.family engine.metrics).series.lookup labels =
    (reports.reverse.find? fun report => report.gauge = labels).map fun report =>
      rate.value report.row

theorem run_showsReports_iff (steps : List EngineStep) :
    (run steps).ShowsReports (reportsSinceScrape steps) ↔
      ∀ first ∈ reportsSinceScrape steps, ∀ second ∈ reportsSinceScrape steps,
        SeriesMap.slot first.gauge = SeriesMap.slot second.gauge → first.gauge = second.gauge := by
  constructor
  · intro shows
    rw [← ErrorRate.ofAny.shown_exact_iff, ← run_rates ErrorRate.ofAny_mem]
    exact shows .ofAny ErrorRate.ofAny_mem
  · intro apart rate isRate
    rw [run_rates isRate]
    exact (rate.shown_exact_iff _).mpr apart

/-- In every run a scrape reads one line for each series of an error rate. The three families show
the same label values, all of them those of requests since the last scrape that were observed while
their endpoint was in the top set and that left it with failed requests, and each series has the
rate of the row as the last of these requests left it whose label values have the slot of its own. So
the rates are those of the endpoints that the series name exactly if no two such requests with
different label values share a slot. Right behind a scrape there are none. -/
theorem run_reports_errors (steps : List EngineStep) :
    let engine := run steps
    let reports := reportsSinceScrape steps
    (∀ rate ∈ errorRates,
      (Exposition.linesNamed rate.name engine.scrape.2).Perm
          ((rate.family engine.metrics).series.map rate.line) ∧
        (rate.family engine.metrics).labelSets = engine.metrics.errorRate.labelSets ∧
        (∀ labels ∈ (rate.family engine.metrics).labelSets,
          ∃ report ∈ reports, report.gauge = labels) ∧
        (∀ labels, (rate.family engine.metrics).get? labels =
          (reports.reverse.find? fun report =>
            SeriesMap.slot report.gauge = SeriesMap.slot labels).map fun report =>
              rate.value report.row) ∧
        (rate.family engine.scrape.1.metrics).series = [] ∧
        Exposition.linesNamed rate.name engine.scrape.1.scrape.2 = []) ∧
      (engine.ShowsReports reports ↔
        ∀ first ∈ reports, ∀ second ∈ reports,
          SeriesMap.slot first.gauge = SeriesMap.slot second.gauge →
            first.gauge = second.gauge) := by
  intro engine reports
  refine ⟨?_, run_showsReports_iff steps⟩
  intro rate isRate
  have shows : rate.family engine.metrics = rate.shown reports := run_rates isRate steps
  have showsAny : engine.metrics.errorRate = ErrorRate.ofAny.shown reports :=
    run_rates ErrorRate.ofAny_mem steps
  have nothing : rate.family engine.scrape.1.metrics = {} := rates_step isRate shows .scrape
  refine ⟨ErrorRate.linesNamed_render isRate _, ?labels, ?reported, ?values, ?gone, ?unread⟩
  case labels => rw [shows, showsAny, rate.labelSets_shown .ofAny]
  case reported =>
    intro labels shown
    rw [shows] at shown
    obtain ⟨entry, isEntry, same⟩ := SeriesMap.mem_of_mem_labelSets_written shown
    obtain ⟨report, isReport, rfl⟩ := List.mem_map.mp isEntry
    exact ⟨report, isReport, same⟩
  case values =>
    intro labels
    rw [shows, rate.get?_shown]
  case gone => rw [nothing]
  case unread =>
    have unread := ErrorRate.linesNamed_render isRate engine.scrape.1.metrics
    rw [nothing] at unread
    exact unread.eq_nil

def failedSharedText : List EngineStep :=
  let sweb : EndpointTarget := ⟨"shop-sweb", "shop", "sweb", .ingress, "shop-sweb@kubernetes"⟩
  let web : EndpointTarget := ⟨"shops-web", "shops", "web", .ingress, "shops-web@kubernetes"⟩
  let request (status : Nat) : AccessRecord :=
    { method := "GET", path := "/a", originStatus := status, durationMs := 100 }
  [.observe sweb (request 200) "/a" 20, .observe web (request 500) "/a" 20, .refreshTop,
    .observe sweb (request 500) "/a" 20, .observe web (request 500) "/a" 20]

/-- An endpoint is missing that shares its slot with another, which has its rate. -/
theorem failedSharedText_misreported :
    (reportsSinceScrape failedSharedText).map (fun report => (report.gauge, report.row.errorRate)) =
        [(["shop", "sweb", "/a"], 0.5), (["shops", "web", "/a"], 1)] ∧
      Exposition.linesNamed ErrorRate.ofAny.name (run failedSharedText).scrape.2 =
        [ErrorRate.ofAny.line (["shop", "sweb", "/a"], 1)] ∧
      ¬(run failedSharedText).ShowsReports (reportsSinceScrape failedSharedText) := by
  have reported : (reportsSinceScrape failedSharedText).map
      (fun report => (report.gauge, report.row.errorRate)) =
        [(["shop", "sweb", "/a"], 0.5), (["shops", "web", "/a"], 1)] := by
    decide +kernel
  have series : (run failedSharedText).metrics.errorRate.series = [(["shop", "sweb", "/a"], 1)] := by
    decide +kernel
  have last : ((reportsSinceScrape failedSharedText).reverse.find? fun report =>
      report.gauge = ["shops", "web", "/a"]).map (·.row.errorRate) = some 1 := by
    decide +kernel
  refine ⟨reported, ?_, ?_⟩
  · have lines := ErrorRate.linesNamed_render ErrorRate.ofAny_mem
      (run failedSharedText).metrics
    rw [show ErrorRate.ofAny.family = (·.errorRate) from rfl, series] at lines
    exact lines.eq_singleton
  · intro shows
    have shown : (run failedSharedText).metrics.errorRate.series.lookup ["shops", "web", "/a"] =
        ((reportsSinceScrape failedSharedText).reverse.find? fun report =>
          report.gauge = ["shops", "web", "/a"]).map (·.row.errorRate) :=
      shows .ofAny ErrorRate.ofAny_mem _
    rw [series, last] at shown
    revert shown
    decide +kernel

end Engine

end IngressMeter
