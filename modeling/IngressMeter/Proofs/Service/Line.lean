import IngressMeter.Service
import IngressMeter.Proofs.Metrics.Steps

/-!
What becomes of one line. It is dropped and changes nothing but the count of its outcome, or a
record is read from it and counted under rules that let it pass.
-/

namespace IngressMeter.Processor

section ProcessLine

variable (processor : Processor)

theorem rulesFor_ok {store : RulesStore} {record : AccessRecord} {rules : TargetRules}
    (found : processor.rulesFor store record = .ok rules) :
    processor.resolve store record.routerName = .ok rules ∧
      rules.isIgnored record.path.toList = false ∧
      rules.isWhitelisted record.path.toList = true := by
  rw [rulesFor] at found
  split at found
  · contradiction
  · rename_i candidate resolved
    split at found
    · contradiction
    · rename_i notIgnored
      split at found
      · contradiction
      · rename_i whitelisted
        cases found
        exact ⟨resolved, by simpa using notIgnored, by simpa using whitelisted⟩

theorem processText_cases (service : Service) (text : String) :
    (∃ reason, processor.processText service text = (service, .dropped reason)) ∨
      ∃ record rules, processor.format.parse text = .ok record ∧
        processor.rulesFor service.store record = .ok rules ∧
        processor.processText service text =
          ({ service with engine := processor.count rules record service.engine }, .recorded) := by
  rw [processText]
  cases parsed : processor.format.parse text with
  | error error => exact Or.inl ⟨_, rfl⟩
  | ok record =>
      simp only [processRecord]
      cases found : processor.rulesFor service.store record with
      | error reason => exact Or.inl ⟨reason, rfl⟩
      | ok rules => exact Or.inr ⟨record, rules, rfl, found, rfl⟩

/-- A record is read from a line, and there are rules that let it pass. -/
structure Admits (service : Service) (line : LogLine) (record : AccessRecord)
    (rules : TargetRules) : Prop where
  delivered : line.isError = false
  parsed : processor.format.parse line.text = .ok record
  resolved : processor.resolve service.store record.routerName = .ok rules
  notIgnored : rules.isIgnored record.path.toList = false
  whitelisted : rules.isWhitelisted record.path.toList = true

variable {processor} in
theorem Admits.rulesFor {service : Service} {line : LogLine} {record : AccessRecord}
    {rules : TargetRules} (admits : processor.Admits service line record rules) :
    processor.rulesFor service.store record = .ok rules := by
  simp [Processor.rulesFor, admits.resolved, admits.notIgnored, admits.whitelisted]

variable (now : Nat) (service : Service) (line : LogLine)

theorem processLine_cases :
    (∃ reason, processor.processLine now service line =
      ({ service with
          health := service.health.markProcessed now
          engine := service.engine.countLine reason.label }, .dropped reason)) ∨
      ∃ record rules, processor.Admits service line record rules ∧
        processor.processLine now service line =
          ({ service with
              health := service.health.markProcessed now
              engine := (processor.count rules record service.engine).countLine
                Outcome.recorded.label }, .recorded) := by
  rw [processLine]
  cases failed : line.isError with
  | true => exact Or.inl ⟨.transportError, rfl⟩
  | false =>
      rcases processor.processText_cases
          { service with health := service.health.markProcessed now } line.text with
        ⟨reason, dropped⟩ | ⟨record, rules, parsed, found, recorded⟩
      · refine Or.inl ⟨reason, ?_⟩
        simp [dropped, Outcome.label]
      · obtain ⟨resolved, notIgnored, whitelisted⟩ := processor.rulesFor_ok found
        refine Or.inr ⟨record, rules, ⟨failed, parsed, resolved, notIgnored, whitelisted⟩, ?_⟩
        simp [recorded]

variable {processor service line} in
theorem Admits.processLine {record : AccessRecord} {rules : TargetRules}
    (admits : processor.Admits service line record rules) :
    processor.processLine now service line =
      ({ service with
          health := service.health.markProcessed now
          engine := (processor.count rules record service.engine).countLine
            Outcome.recorded.label }, .recorded) := by
  simp [Processor.processLine, Processor.processText, Processor.processRecord, admits.delivered,
    admits.parsed, admits.rulesFor]

@[simp] theorem processLine_store :
    (processor.processLine now service line).1.store = service.store := by
  rcases processor.processLine_cases now service line with ⟨_, done⟩ | ⟨_, _, _, done⟩
  · rw [done]
  · rw [done]

end ProcessLine

section Count

variable (processor : Processor) (rules : TargetRules) (record : AccessRecord) (engine : Engine)

def rowKey (rules : TargetRules) (record : AccessRecord) : EndpointKey :=
  ⟨rules.key, rules.normalizePath record.path⟩

theorem count_stats :
    (processor.count rules record engine).stats =
      (engine.stats.record (rowKey rules record) record.durationSeconds record.originStatus).1 := by
  rw [count]
  cases processor.format <;> exact Engine.observe_stats _ _ _ _ _

def observedOverhead (record : AccessRecord) (overhead : Histogram) : LogFormat → Histogram
  | .json => overhead.observe record.overheadSeconds
  | .common => overhead

theorem count_coarse :
    (processor.count rules record engine).metrics.coarse =
      { (Engine.countRequest (targetOf rules record) record engine.metrics).coarse with
        overhead := observedOverhead record engine.metrics.overhead processor.format } := by
  have observed := engine.observe_coarse (targetOf rules record) record
    (rules.normalizePath record.path) rules.topCount
  rw [count]
  cases processor.format with
  | common => exact observed
  | json =>
      have overhead : (engine.observe (targetOf rules record) record
          (rules.normalizePath record.path) rules.topCount).metrics.overhead =
          engine.metrics.overhead := by
        have same := congrArg Metrics.overhead observed
        exact same
      simp only [Engine.observeOverhead, observedOverhead, overhead]
      exact congrArg
        (fun metrics : Metrics =>
          { metrics with overhead := engine.metrics.overhead.observe record.overheadSeconds })
        observed

end Count

end IngressMeter.Processor
