import IngressMeter.Metrics.Schedule
import IngressMeter.Proofs.Service.Line

/-!
Every line is counted once, and every recorded one once for its target and once for the row of its
endpoint. Over any run the counts therefore agree, whatever becomes of the rules, the top set and
the series meanwhile.
-/

namespace IngressMeter

inductive TrafficStep where
  | line (now : Nat) (line : LogLine)
  | changeStore (store : RulesStore)
  | task (task : PeriodicTask)
  | scrape
  | forgetRouter (router : String)

def TrafficStep.isLine : TrafficStep → Bool
  | line _ _ => true
  | _ => false

def TrafficStep.isForget : TrafficStep → Bool
  | forgetRouter _ => true
  | _ => false

namespace Processor

def step (processor : Processor) (service : Service) : TrafficStep → Service
  | .line now line => (processor.processLine now service line).1
  | .changeStore store => { service with store }
  | .task task => { service with engine := task.run service.engine }
  | .scrape => { service with engine := service.engine.scrape.1 }
  | .forgetRouter router => { service with engine := service.engine.forgetRouter router }

def run (processor : Processor) (steps : List TrafficStep) : Service :=
  steps.foldl processor.step {}

end Processor

namespace Outcome

def all : List Outcome :=
  .recorded :: List.map .dropped [.transportError, .notAccessLog, .parseError, .unconfigured,
    .kindMismatch, .disabled, .ignoredRouter, .notAllowed, .ignoredPath, .notWhitelisted]

theorem mem_all (outcome : Outcome) : outcome ∈ all := by
  cases outcome with
  | recorded => decide
  | dropped reason => cases reason <;> decide

/-- Each outcome has a series of its own. -/
theorem slot_label_inj {first second : Outcome} :
    SeriesMap.slot [first.label] = SeriesMap.slot [second.label] ↔ first = second := by
  have nodup : (all.map fun outcome => SeriesMap.slot [outcome.label]).Nodup := by
    decide +kernel
  constructor
  · exact List.inj_on_of_nodup_map nodup first.mem_all second.mem_all
  · exact congrArg fun outcome : Outcome => SeriesMap.slot [outcome.label]

end Outcome

namespace Metrics

def withLine (metrics : Metrics) (outcome : String) : Metrics :=
  { metrics with lines := metrics.lines.increment [outcome] }

def lineCount (metrics : Metrics) (outcome : String) : Nat :=
  (metrics.lines.get? [outcome]).getD 0

def recordedLines (metrics : Metrics) : Nat := metrics.lineCount Outcome.recorded.label

theorem lineCount_withLine (metrics : Metrics) (counted outcome : Outcome) :
    (metrics.withLine counted.label).lineCount outcome.label =
      metrics.lineCount outcome.label + if outcome = counted then 1 else 0 := by
  rw [lineCount, withLine, SeriesMap.increment, SeriesMap.get?_update]
  by_cases same : outcome = counted
  · rw [if_pos (Outcome.slot_label_inj.mpr same), if_pos same, same]
    rfl
  · rw [if_neg (mt Outcome.slot_label_inj.mp same), if_neg same, Nat.add_zero]
    rfl

theorem recordedLines_withDropped (metrics : Metrics) (reason : DropReason) :
    (metrics.withLine reason.label).recordedLines = metrics.recordedLines := by
  have counted := metrics.lineCount_withLine (.dropped reason) .recorded
  rw [if_neg Outcome.noConfusion] at counted
  exact counted

theorem recordedLines_withRecorded (metrics : Metrics) :
    (metrics.withLine Outcome.recorded.label).recordedLines = metrics.recordedLines + 1 := by
  rw [recordedLines, lineCount_withLine, if_pos rfl]
  rfl

end Metrics

structure Tally (format : LogFormat) (lineCount : Nat) (metrics : Metrics) : Prop where
  lines : metrics.lines.Separate
  requests : metrics.requests.Separate
  durations : metrics.requestDuration.Separate
  lineTotal : metrics.lines.total id = lineCount
  requestTotal : metrics.requests.total id = metrics.recordedLines
  durationTotal : metrics.requestDuration.total (·.count) = metrics.recordedLines
  overheadCount : metrics.overhead.count = if format = .json then metrics.recordedLines else 0

namespace Tally

variable {format : LogFormat} {lineCount : Nat} {metrics : Metrics}

theorem start (format : LogFormat) : Tally format 0 {} := by
  refine ⟨SeriesMap.separate_empty, SeriesMap.separate_empty, SeriesMap.separate_empty, rfl, rfl,
    rfl, ?_⟩
  cases format <;> rfl

theorem of_coarse_eq {other : Metrics} (tally : Tally format lineCount metrics)
    (same : other.coarse = metrics.coarse) : Tally format lineCount other := by
  have ofCoarse : Tally format lineCount metrics.coarse :=
    ⟨tally.lines, tally.requests, tally.durations, tally.lineTotal, tally.requestTotal,
      tally.durationTotal, tally.overheadCount⟩
  rw [← same] at ofCoarse
  exact ⟨ofCoarse.lines, ofCoarse.requests, ofCoarse.durations, ofCoarse.lineTotal,
    ofCoarse.requestTotal, ofCoarse.durationTotal, ofCoarse.overheadCount⟩

theorem withDropped (tally : Tally format lineCount metrics) (reason : DropReason) :
    Tally format (lineCount + 1) (metrics.withLine reason.label) where
  lines := tally.lines.update _ _ _
  requests := tally.requests
  durations := tally.durations
  lineTotal := by rw [← tally.lineTotal]; exact SeriesMap.total_increment tally.lines _
  requestTotal := by rw [metrics.recordedLines_withDropped]; exact tally.requestTotal
  durationTotal := by rw [metrics.recordedLines_withDropped]; exact tally.durationTotal
  overheadCount := by rw [metrics.recordedLines_withDropped]; exact tally.overheadCount

theorem withRecorded (tally : Tally format lineCount metrics) (target : EndpointTarget)
    (record : AccessRecord) :
    Tally format (lineCount + 1) (Metrics.withLine
      { Engine.countRequest target record metrics with
        overhead := Processor.observedOverhead record metrics.overhead format }
      Outcome.recorded.label) where
  lines := tally.lines.update _ _ _
  requests := tally.requests.update _ _ _
  durations := tally.durations.update _ _ _
  lineTotal := by rw [← tally.lineTotal]; exact SeriesMap.total_increment tally.lines _
  requestTotal := by
    rw [Metrics.recordedLines_withRecorded]
    exact (SeriesMap.total_increment tally.requests _).trans (congrArg (· + 1) tally.requestTotal)
  durationTotal := by
    rw [Metrics.recordedLines_withRecorded]
    exact (Metrics.total_observeIn tally.durations _ _).trans (congrArg (· + 1) tally.durationTotal)
  overheadCount := by
    have before := tally.overheadCount
    rw [Metrics.recordedLines_withRecorded]
    cases format with
    | common => exact before
    | json => exact congrArg (· + 1) before

end Tally

namespace Processor

variable (processor : Processor)

theorem tally_step {service : Service} {lineCount : Nat}
    (tally : Tally processor.format lineCount service.engine.metrics) (step : TrafficStep) :
    Tally processor.format (lineCount + if step.isLine then 1 else 0)
      (processor.step service step).engine.metrics := by
  cases step with
  | line now line =>
      simp only [TrafficStep.isLine, if_true, Processor.step]
      rcases processor.processLine_cases now service line with
        ⟨reason, done⟩ | ⟨record, rules, _, done⟩
      · rw [done]
        exact tally.withDropped reason
      · rw [done]
        refine (tally.withRecorded (targetOf rules record) record).of_coarse_eq ?_
        exact congrArg (fun metrics : Metrics => metrics.withLine Outcome.recorded.label)
          (processor.count_coarse rules record service.engine)
  | changeStore store => exact tally
  | task task =>
      cases task with
      | refreshTop => exact tally.of_coarse_eq service.engine.refreshTop_coarse
      | resetEndpointSeries => exact tally.of_coarse_eq rfl
  | scrape => exact tally.of_coarse_eq rfl
  | forgetRouter router => exact tally.of_coarse_eq (service.engine.forgetRouter_coarse router)

theorem run_tally (steps : List TrafficStep) :
    Tally processor.format (steps.countP TrafficStep.isLine)
      (processor.run steps).engine.metrics := by
  induction steps using List.reverseRecOn with
  | nil => exact Tally.start processor.format
  | append_singleton steps step ih =>
      rw [run, List.foldl_concat, List.countP_append, List.countP_singleton]
      exact processor.tally_step ih step

theorem recordedLines_count (rules : TargetRules) (record : AccessRecord) (engine : Engine) :
    (processor.count rules record engine).metrics.recordedLines =
      engine.metrics.recordedLines := by
  have same := congrArg Metrics.recordedLines (processor.count_coarse rules record engine)
  exact same

structure RowTally (engine : Engine) : Prop where
  rows : engine.stats.Sound
  total : engine.stats.requestCount = engine.metrics.recordedLines

theorem rowTally_step {service : Service} (tally : RowTally service.engine) {step : TrafficStep}
    (remembers : step.isForget = false) : RowTally (processor.step service step).engine := by
  cases step with
  | line now line =>
      rw [Processor.step]
      rcases processor.processLine_cases now service line with
        ⟨reason, done⟩ | ⟨record, rules, _, done⟩
      · rw [done]
        refine ⟨tally.rows, tally.total.trans ?_⟩
        exact (service.engine.metrics.recordedLines_withDropped reason).symm
      · have stats := processor.count_stats rules record service.engine
        have lines : ((processor.count rules record service.engine).countLine
            Outcome.recorded.label).metrics.recordedLines =
            service.engine.metrics.recordedLines + 1 := by
          rw [← processor.recordedLines_count rules record service.engine]
          exact Metrics.recordedLines_withRecorded _
        rw [done]
        constructor
        · rw [Engine.countLine, stats]
          exact tally.rows.record _ _ _
        · rw [lines, Engine.countLine, stats, tally.rows.requestCount_record, tally.total]
  | changeStore store => exact tally
  | task task =>
      cases task with
      | refreshTop =>
          have same := congrArg Metrics.recordedLines service.engine.refreshTop_coarse
          exact ⟨tally.rows, tally.total.trans same.symm⟩
      | resetEndpointSeries => exact ⟨tally.rows, tally.total⟩
  | scrape => exact ⟨tally.rows, tally.total⟩
  | forgetRouter router => contradiction

theorem run_rowTally {steps : List TrafficStep}
    (remembers : ∀ step ∈ steps, step.isForget = false) :
    RowTally (processor.run steps).engine := by
  induction steps using List.reverseRecOn with
  | nil => exact ⟨EndpointStats.sound_empty, rfl⟩
  | append_singleton steps step ih =>
      rw [run, List.foldl_concat]
      have earlier := ih fun step member => remembers step (List.mem_append_left _ member)
      exact processor.rowTally_step earlier (remembers step (by simp))

section Outcome

variable {now : Nat} {service : Service} {line : LogLine}

theorem processLine_dropped {reason : DropReason}
    (dropped : (processor.processLine now service line).2 = .dropped reason) :
    (processor.processLine now service line).1.engine =
      { service.engine with metrics := service.engine.metrics.withLine reason.label } := by
  rcases processor.processLine_cases now service line with ⟨other, done⟩ | ⟨_, _, _, done⟩
  · obtain rfl : other = reason := by
      simpa [done] using dropped
    rw [done]
    rfl
  · simp [done] at dropped

theorem processLine_recorded_iff :
    (processor.processLine now service line).2 = .recorded ↔
      ∃ record rules, processor.Admits service line record rules := by
  constructor
  · intro recorded
    rcases processor.processLine_cases now service line with
      ⟨_, done⟩ | ⟨record, rules, admits, _⟩
    · simp [done] at recorded
    · exact ⟨record, rules, admits⟩
  · rintro ⟨record, rules, admits⟩
    rw [admits.processLine]

variable {processor} in
theorem Admits.get?_processLine {record : AccessRecord} {rules : TargetRules}
    (admits : processor.Admits service line record rules) (key : EndpointKey) :
    (processor.processLine now service line).1.engine.stats.get? key =
      if key = rowKey rules record then
        some (service.engine.stats.rowAfter key record.durationSeconds record.originStatus)
      else service.engine.stats.get? key := by
  rw [admits.processLine, Engine.countLine, processor.count_stats rules record service.engine,
    EndpointStats.get?_record]
  by_cases same : key = rowKey rules record
  · rw [if_pos same, if_pos same, same]
  · rw [if_neg same, if_neg same]

end Outcome

/-- In every state that a new service comes to, the counts of lines, requests and rows agree. The
next line is recorded exactly if a record is read from it that rules let pass; it changes the row of
its endpoint then, and otherwise nothing but the count of its outcome. -/
theorem run_counts_every_line (steps : List TrafficStep) :
    let service := processor.run steps
    let metrics := service.engine.metrics
    metrics.lines.total id = steps.countP TrafficStep.isLine ∧
      metrics.requests.total id = metrics.lineCount Outcome.recorded.label ∧
      metrics.requestDuration.total (·.count) = metrics.lineCount Outcome.recorded.label ∧
      metrics.overhead.count =
        (if processor.format = .json then metrics.lineCount Outcome.recorded.label else 0) ∧
      ((∀ step ∈ steps, step.isForget = false) →
        service.engine.stats.requestCount = metrics.lineCount Outcome.recorded.label) ∧
      ∀ now line,
        let done := processor.processLine now service line
        (∀ reason, done.2 = .dropped reason →
          done.1.engine = { service.engine with
            metrics := { metrics with lines := metrics.lines.increment [reason.label] } } ∧
          ∀ outcome : Outcome, done.1.engine.metrics.lineCount outcome.label =
            metrics.lineCount outcome.label + if outcome = .dropped reason then 1 else 0) ∧
        (done.2 = .recorded ↔ ∃ record rules, processor.Admits service line record rules) ∧
        ∀ record rules, processor.Admits service line record rules →
          ∀ key, done.1.engine.stats.get? key =
            if key = ⟨rules.key, rules.normalizePath record.path⟩ then
              some (service.engine.stats.rowAfter key record.durationSeconds record.originStatus)
            else service.engine.stats.get? key := by
  intro service metrics
  have tally := processor.run_tally steps
  refine ⟨tally.lineTotal, tally.requestTotal, tally.durationTotal, tally.overheadCount, ?_, ?_⟩
  · intro remembers
    exact (processor.run_rowTally remembers).total
  · intro now line done
    refine ⟨?_, processor.processLine_recorded_iff, fun _ _ admits => admits.get?_processLine⟩
    intro reason dropped
    simp only [done, processor.processLine_dropped dropped]
    exact ⟨rfl, metrics.lineCount_withLine (.dropped reason)⟩

def allowingWeb : Processor where
  format := .common
  mode := .allowList (ServiceConfig.compile { allowedServices := [⟨"web", "shop"⟩] })

def webRequest : LogLine where
  text := "10.0.0.1 - - [10/Oct/2024:13:55:36 +0000] \"GET /a HTTP/1.1\" 200 5 \"-\" \"-\" 1 " ++
    "\"shop-web-0123456789ab@kubernetescrd\" \"http://b\" 20ms"

theorem run_counts_every_line_webRequest :
    let service := allowingWeb.run [.line 1 webRequest, .line 2 { text := "?" }]
    service.engine.metrics.lines.total id = 2 ∧
      service.engine.stats.requestCount = 1 ∧
      ∃ record rules, allowingWeb.Admits service webRequest record rules ∧
        (allowingWeb.processLine 3 service webRequest).1.engine.stats.get?
            ⟨rules.key, rules.normalizePath record.path⟩ =
          some (service.engine.stats.rowAfter ⟨rules.key, rules.normalizePath record.path⟩
            record.durationSeconds record.originStatus) := by
  intro service
  obtain ⟨lines, _, _, _, rows, next⟩ :=
    allowingWeb.run_counts_every_line [.line 1 webRequest, .line 2 { text := "?" }]
  have counted : service.engine.metrics.lineCount Outcome.recorded.label = 1 := by decide +kernel
  have recorded : (allowingWeb.processLine 3 service webRequest).2 = .recorded := by
    decide +kernel
  obtain ⟨_, admitted, row⟩ := next 3 webRequest
  obtain ⟨record, rules, admits⟩ := admitted.mp recorded
  refine ⟨lines, ?_, record, rules, admits, ?_⟩
  · exact (rows (by simp [TrafficStep.isForget])).trans counted
  · rw [row record rules admits, if_pos rfl]

end Processor

end IngressMeter
