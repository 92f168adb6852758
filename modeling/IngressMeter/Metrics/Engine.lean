import IngressMeter.AccessLog.Record
import IngressMeter.Metrics.Families
import IngressMeter.Metrics.TopSet
import IngressMeter.Rules.Basic

/-!
The measuring engine. Each request counts for its target and for the row of its endpoint. Endpoints
in the top set have series of their own; which endpoints these are is decided anew from time to
time, so that there are never more than the targets allow.
-/

namespace IngressMeter

structure EndpointTarget where
  router : String
  namespaceName : String
  ingress : String
  kind : TargetKind
  app : String

structure RouterInfo where
  namespaceName : String
  ingress : String
  topCount : Nat
  deriving DecidableEq, Repr

structure Engine where
  metrics : Metrics := {}
  stats : EndpointStats := {}
  top : TopSet := {}
  routers : List (String × RouterInfo) := []

namespace Engine

def info? (engine : Engine) (router : String) : Option RouterInfo := engine.routers.lookup router

def gaugeValues (info : RouterInfo) (path : String) : List String :=
  [info.namespaceName, info.ingress, path]

def removeLatencies (info : RouterInfo) (paths : List String) (metrics : Metrics) : Metrics :=
  paths.foldl (fun metrics path => metrics.removeLatency (gaugeValues info path)) metrics

/-- Remembers the labels of a target. Latencies under other labels would not be written any more and
are removed. -/
def rememberRouter (engine : Engine) (target : EndpointTarget) (topCount : Nat) : Engine :=
  let current : RouterInfo := ⟨target.namespaceName, target.ingress, topCount⟩
  match engine.info? target.router with
  | none => { engine with routers := engine.routers ++ [(target.router, current)] }
  | some info =>
    let moved := info.namespaceName ≠ target.namespaceName || info.ingress ≠ target.ingress
    { engine with
      metrics :=
        if moved then removeLatencies info (engine.top.pathsOf target.router) engine.metrics
        else engine.metrics
      routers := engine.routers.map fun entry =>
        if entry.1 = target.router then (entry.1, current) else entry }

def countRequest (target : EndpointTarget) (record : AccessRecord) (metrics : Metrics) : Metrics :=
  let labels :=
    [record.method, toString record.originStatus, target.app, target.namespaceName,
      target.kind.label]
  { metrics with
    requests := metrics.requests.increment labels
    requestDuration := Metrics.observeIn metrics.requestDuration labels record.durationSeconds }

def setErrorRates (labels : List String) (stat : EndpointStat) (metrics : Metrics) : Metrics :=
  { metrics with
    errorRate := metrics.errorRate.set labels stat.errorRate
    clientErrorRate := metrics.clientErrorRate.set labels stat.clientErrorRate
    serverErrorRate := metrics.serverErrorRate.set labels stat.serverErrorRate }

def countEndpoint (target : EndpointTarget) (record : AccessRecord) (path : String)
    (stat : EndpointStat) (metrics : Metrics) : Metrics :=
  let gauge := [target.namespaceName, target.ingress, path]
  let labels := gauge ++ [record.method, toString record.originStatus]
  let metrics := { metrics with
    endpointRequests := metrics.endpointRequests.increment labels
    endpointDuration := Metrics.observeIn metrics.endpointDuration labels record.durationSeconds
    avgLatency := metrics.avgLatency.set gauge stat.avgDuration
    maxLatency := metrics.maxLatency.set gauge stat.maxDuration }
  if 0 < stat.errorCount then setErrorRates gauge stat metrics else metrics

def observe (engine : Engine) (target : EndpointTarget) (record : AccessRecord) (path : String)
    (topCount : Nat) : Engine :=
  let counted := { engine with metrics := countRequest target record engine.metrics }
  let remembered := counted.rememberRouter target topCount
  let key : EndpointKey := ⟨target.router, path⟩
  let (stats, stat) := remembered.stats.record key record.durationSeconds record.originStatus
  { remembered with
    stats
    metrics :=
      if remembered.top.contains key then
        countEndpoint target record path stat remembered.metrics
      else remembered.metrics }

def observeOverhead (engine : Engine) (record : AccessRecord) : Engine :=
  { engine with
    metrics := { engine.metrics with
      overhead := engine.metrics.overhead.observe record.overheadSeconds } }

def countLine (engine : Engine) (outcome : String) : Engine :=
  { engine with
    metrics := { engine.metrics with lines := engine.metrics.lines.increment [outcome] } }

def limit (engine : Engine) (router : String) : Nat :=
  match engine.info? router with
  | some info => info.topCount
  | none => defaultTopCount

def dropFallen (engine : Engine) (next : TopSet) : Metrics :=
  engine.top.endpoints.foldl
    (fun metrics key =>
      if next.contains key then metrics
      else
        match engine.info? key.router with
        | some info => metrics.removeLatency (gaugeValues info key.path)
        | none => metrics)
    engine.metrics

def refreshTop (engine : Engine) : Engine :=
  let next := TopSet.compute engine.stats.rows engine.limit
  { engine with metrics := engine.dropFallen next, top := next }

def forgetRouter (engine : Engine) (router : String) : Engine :=
  match engine.info? router with
  | none => engine
  | some info =>
    { engine with
      metrics := removeLatencies info (engine.top.pathsOf router) engine.metrics
      stats := engine.stats.removeRouter router
      routers := engine.routers.filter (·.1 ≠ router) }

def trackedPaths (engine : Engine) (router : String) : Nat := engine.stats.pathCount router

def resetEndpointSeries (engine : Engine) : Engine :=
  { engine with metrics := engine.metrics.resetEndpointSeries }

def resetErrorRates (engine : Engine) : Engine :=
  { engine with metrics := engine.metrics.resetErrorRates }

def render (engine : Engine) : List String := engine.metrics.render

/-- What a scrape reads. The error rates begin anew behind it. -/
def scrape (engine : Engine) : Engine × List String := (engine.resetErrorRates, engine.render)

end Engine

end IngressMeter
