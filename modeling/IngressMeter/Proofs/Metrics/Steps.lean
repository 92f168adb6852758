import IngressMeter.Metrics.Engine
import IngressMeter.Proofs.Metrics.Series
import IngressMeter.Proofs.Metrics.TopSet
import Mathlib.Data.List.DropRight

/-!
The operations of the engine as steps of one machine, and what each of them does to the parts of its
state: the routers it remembers, the rows, the top set and the families of series.
-/

namespace IngressMeter

inductive EngineStep where
  | observe (target : EndpointTarget) (record : AccessRecord) (path : String) (topCount : Nat)
  | observeOverhead (record : AccessRecord)
  | countLine (outcome : String)
  | refreshTop
  | forgetRouter (router : String)
  | resetEndpointSeries
  | scrape

namespace EndpointTarget

def gauge (target : EndpointTarget) (path : String) : List String :=
  [target.namespaceName, target.ingress, path]

def series (target : EndpointTarget) (path : String) (record : AccessRecord) : List String :=
  target.gauge path ++ [record.method, toString record.originStatus]

end EndpointTarget

namespace Engine

def step (engine : Engine) : EngineStep → Engine
  | .observe target record path topCount => engine.observe target record path topCount
  | .observeOverhead record => engine.observeOverhead record
  | .countLine outcome => engine.countLine outcome
  | .refreshTop => engine.refreshTop
  | .forgetRouter router => engine.forgetRouter router
  | .resetEndpointSeries => engine.resetEndpointSeries
  | .scrape => engine.scrape.1

def run (steps : List EngineStep) : Engine := steps.foldl step {}

section Gather

variable {β : Type} (gives : Engine → EngineStep → List β)

def gather (engine : Engine) : List EngineStep → List β
  | [] => []
  | step :: rest => gives engine step ++ (engine.step step).gather rest

theorem gather_concat (engine : Engine) (steps : List EngineStep) (step : EngineStep) :
    engine.gather gives (steps ++ [step]) =
      engine.gather gives steps ++ gives (steps.foldl Engine.step engine) step := by
  induction steps generalizing engine with
  | nil => simp [gather]
  | cons first rest ih =>
      rw [List.cons_append, gather, ih, gather, List.append_assoc]
      rfl

/-- What the steps of a run give behind the last one that starts anew. -/
def gatherSince (keeps : EngineStep → Bool) (steps : List EngineStep) : List β :=
  (run (steps.rdropWhile keeps)).gather gives (steps.rtakeWhile keeps)

theorem gatherSince_concat (keeps : EngineStep → Bool) (steps : List EngineStep)
    (step : EngineStep) :
    gatherSince gives keeps (steps ++ [step]) =
      if keeps step then gatherSince gives keeps steps ++ gives (run steps) step else [] := by
  by_cases kept : keeps step = true
  · have whole : (steps.rtakeWhile keeps).foldl Engine.step (run (steps.rdropWhile keeps)) =
        run steps := by
      rw [run, run, ← List.foldl_append, List.rdropWhile_append_rtakeWhile]
    rw [gatherSince, List.rdropWhile_concat_pos _ _ _ kept, List.rtakeWhile_concat_pos _ _ _ kept,
      gather_concat, whole, if_pos kept]
    rfl
  · rw [gatherSince, List.rtakeWhile_concat_neg _ _ _ kept, if_neg kept]
    rfl

end Gather

def remembered (engine : Engine) : List String := engine.routers.map (·.1)

theorem info?_eq_none {engine : Engine} {router : String} :
    engine.info? router = none ↔ router ∉ engine.remembered := Entries.lookup_eq_none

theorem mem_remembered_of_info {engine : Engine} {router : String} {info : RouterInfo}
    (known : engine.info? router = some info) : router ∈ engine.remembered :=
  List.mem_map.mpr ⟨(router, info), Entries.mem_of_lookup known, rfl⟩

theorem removeLatencies_eq_foldl (info : RouterInfo) (paths : List String) (metrics : Metrics) :
    removeLatencies info paths metrics =
      (paths.map (gaugeValues info)).foldl Metrics.removeLatency metrics := by
  rw [removeLatencies, List.foldl_map]

section Remember

variable (engine : Engine) (target : EndpointTarget) (topCount : Nat)

def infoOf : RouterInfo := ⟨target.namespaceName, target.ingress, topCount⟩

/-- The label values under which nothing is written any more once the target is remembered. -/
def movedLabels : List (List String) :=
  match engine.info? target.router with
  | none => []
  | some info =>
    if info.namespaceName ≠ target.namespaceName ∨ info.ingress ≠ target.ingress then
      (engine.top.pathsOf target.router).map (gaugeValues info)
    else []

@[simp] theorem rememberRouter_stats :
    (engine.rememberRouter target topCount).stats = engine.stats := by
  rw [rememberRouter]
  cases engine.info? target.router <;> rfl

@[simp] theorem rememberRouter_top : (engine.rememberRouter target topCount).top = engine.top := by
  rw [rememberRouter]
  cases engine.info? target.router <;> rfl

theorem rememberRouter_metrics :
    (engine.rememberRouter target topCount).metrics =
      (engine.movedLabels target).foldl Metrics.removeLatency engine.metrics := by
  rw [rememberRouter, movedLabels]
  cases engine.info? target.router with
  | none => rfl
  | some info =>
      by_cases moved : info.namespaceName ≠ target.namespaceName ∨ info.ingress ≠ target.ingress
      · simp only [removeLatencies_eq_foldl, Bool.or_eq_true, decide_eq_true_eq, if_pos moved]
      · simp only [Bool.or_eq_true, decide_eq_true_eq, if_neg moved, List.foldl_nil]

theorem remembered_rememberRouter :
    (engine.rememberRouter target topCount).remembered =
      if target.router ∈ engine.remembered then engine.remembered
      else engine.remembered ++ [target.router] := by
  rw [rememberRouter]
  cases found : engine.info? target.router with
  | none =>
      rw [if_neg (info?_eq_none.mp found)]
      simp [remembered]
  | some info =>
      rw [if_pos (mem_remembered_of_info found)]
      exact Entries.map_changeWhere Prod.fst (fun entry => (entry.1, infoOf target topCount))
        (fun _ => rfl) (fun entry => entry.1 = target.router) engine.routers

theorem info?_rememberRouter (router : String) :
    (engine.rememberRouter target topCount).info? router =
      if router = target.router then some (infoOf target topCount) else engine.info? router := by
  rw [rememberRouter]
  cases found : engine.info? target.router with
  | none =>
      simp only [info?, List.lookup_append]
      by_cases same : router = target.router
      · rw [info?] at found
        simp [same, found, infoOf]
      · simp [List.lookup_cons, beq_eq_false_iff_ne.mpr same, same]
  | some info =>
      simp only [info?, Entries.lookup_replace]
      by_cases same : router = target.router
      · rw [info?] at found
        simp [same, found, infoOf]
      · rw [if_neg same, if_neg same]

end Remember

section Observe

variable (engine : Engine) (target : EndpointTarget) (record : AccessRecord) (path : String)
  (topCount : Nat)

def rowObserved : EndpointStat :=
  engine.stats.rowAfter ⟨target.router, path⟩ record.durationSeconds record.originStatus

@[simp] theorem observe_stats :
    (engine.observe target record path topCount).stats =
      (engine.stats.record ⟨target.router, path⟩ record.durationSeconds record.originStatus).1 := by
  simp [observe]

@[simp] theorem observe_top : (engine.observe target record path topCount).top = engine.top := by
  simp [observe]

@[simp] theorem observe_routers :
    (engine.observe target record path topCount).routers =
      (engine.rememberRouter target topCount).routers := by
  simp only [observe, rememberRouter, info?]
  cases engine.routers.lookup target.router <;> rfl

/-- An observed request counts for its target first. Its endpoint is written last, after the labels
that its target does not have any more are removed. -/
theorem observe_metrics :
    (engine.observe target record path topCount).metrics =
      let kept := (engine.movedLabels target).foldl Metrics.removeLatency
        (countRequest target record engine.metrics)
      if ⟨target.router, path⟩ ∈ engine.top.endpoints then
        countEndpoint target record path (engine.rowObserved target record path) kept
      else kept := by
  simp only [observe, rememberRouter_metrics, rememberRouter_top, rememberRouter_stats,
    EndpointStats.record_stat, TopSet.contains_iff]
  rfl

theorem countEndpoint_eq (stat : EndpointStat) (metrics : Metrics) :
    countEndpoint target record path stat metrics = { metrics with
      endpointRequests := metrics.endpointRequests.increment (target.series path record)
      endpointDuration := Metrics.observeIn metrics.endpointDuration (target.series path record)
        record.durationSeconds
      avgLatency := metrics.avgLatency.set (target.gauge path) stat.avgDuration
      maxLatency := metrics.maxLatency.set (target.gauge path) stat.maxDuration
      errorRate := if 0 < stat.errorCount then
        metrics.errorRate.set (target.gauge path) stat.errorRate else metrics.errorRate
      clientErrorRate := if 0 < stat.errorCount then
        metrics.clientErrorRate.set (target.gauge path) stat.clientErrorRate
        else metrics.clientErrorRate
      serverErrorRate := if 0 < stat.errorCount then
        metrics.serverErrorRate.set (target.gauge path) stat.serverErrorRate
        else metrics.serverErrorRate } := by
  simp only [countEndpoint]
  split <;> rfl

@[simp] theorem coarse_countEndpoint (stat : EndpointStat) (metrics : Metrics) :
    (countEndpoint target record path stat metrics).coarse = metrics.coarse := by
  rw [countEndpoint_eq]
  rfl

theorem observe_coarse :
    (engine.observe target record path topCount).metrics.coarse =
      (countRequest target record engine.metrics).coarse := by
  rw [observe_metrics]
  dsimp only
  split <;> simp

end Observe

def labelsOf (engine : Engine) (key : EndpointKey) : Option (List String) :=
  (engine.info? key.router).map fun info => gaugeValues info key.path

def fallenLabels (engine : Engine) (next : TopSet) : List (List String) :=
  (engine.top.endpoints.filter fun key => !next.contains key).filterMap engine.labelsOf

theorem dropFallen_eq (engine : Engine) (next : TopSet) :
    engine.dropFallen next =
      (engine.fallenLabels next).foldl Metrics.removeLatency engine.metrics := by
  rw [dropFallen, fallenLabels, List.foldl_filterMap, List.foldl_filter]
  congr 1
  funext metrics key
  cases next.contains key with
  | true => rfl
  | false =>
      simp only [labelsOf]
      cases engine.info? key.router <;> rfl

theorem refreshTop_metrics (engine : Engine) :
    engine.refreshTop.metrics =
      (engine.fallenLabels engine.refreshTop.top).foldl Metrics.removeLatency engine.metrics :=
  dropFallen_eq engine engine.refreshTop.top

@[simp] theorem refreshTop_coarse (engine : Engine) :
    engine.refreshTop.metrics.coarse = engine.metrics.coarse := by
  rw [refreshTop_metrics, Metrics.coarse_removeLatencies]

def forgottenLabels (engine : Engine) (router : String) : List (List String) :=
  match engine.info? router with
  | none => []
  | some info => (engine.top.pathsOf router).map (gaugeValues info)

section Forget

variable (engine : Engine) (router : String)

theorem forgetRouter_metrics :
    (engine.forgetRouter router).metrics =
      (engine.forgottenLabels router).foldl Metrics.removeLatency engine.metrics := by
  rw [forgetRouter, forgottenLabels]
  cases engine.info? router with
  | none => rfl
  | some info => exact removeLatencies_eq_foldl info _ _

theorem forgetRouter_stats :
    (engine.forgetRouter router).stats =
      if router ∈ engine.remembered then engine.stats.removeRouter router else engine.stats := by
  rw [forgetRouter]
  cases found : engine.info? router with
  | none => rw [if_neg (info?_eq_none.mp found)]
  | some info => rw [if_pos (mem_remembered_of_info found)]

@[simp] theorem forgetRouter_top : (engine.forgetRouter router).top = engine.top := by
  rw [forgetRouter]
  cases engine.info? router <;> rfl

@[simp] theorem forgetRouter_coarse :
    (engine.forgetRouter router).metrics.coarse = engine.metrics.coarse := by
  rw [forgetRouter_metrics, Metrics.coarse_removeLatencies]

theorem info?_forgetRouter (other : String) :
    (engine.forgetRouter router).info? other =
      if other = router then none else engine.info? other := by
  rw [forgetRouter]
  cases found : engine.info? router with
  | none =>
      by_cases same : other = router
      · rw [if_pos same, same, found]
      · rw [if_neg same]
  | some info =>
      simp only [info?]
      exact Entries.lookup_filter_ne engine.routers router other

theorem remembered_forgetRouter :
    (engine.forgetRouter router).remembered =
      engine.remembered.filter fun other => other ≠ router := by
  rw [forgetRouter]
  cases found : engine.info? router with
  | none =>
      refine (List.filter_eq_self.mpr ?_).symm
      intro other member
      have different : other ≠ router := by
        intro same
        exact info?_eq_none.mp found (same ▸ member)
      simpa using different
  | some info =>
      simp only [remembered, List.filter_map]
      rfl

end Forget

end Engine

end IngressMeter
