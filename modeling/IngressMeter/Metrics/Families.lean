import IngressMeter.Metrics.Exposition

/-!
Everything that is measured: all requests by target, method and status, those of the slowest
endpoints on their own, the time spent in the proxy itself, and the lines that were read.
-/

namespace IngressMeter

def latencyBounds : List Float := [0.005, 0.01, 0.025, 0.05, 0.1, 0.25, 0.5, 1, 2.5, 5, 10, 30]

def overheadBounds : List Float := [0.0001, 0.0005, 0.001, 0.0025, 0.005, 0.01, 0.025, 0.05, 0.1]

structure Metrics where
  requests : SeriesMap Nat := {}
  requestDuration : SeriesMap Histogram := {}
  overhead : Histogram := .start overheadBounds
  endpointRequests : SeriesMap Nat := {}
  endpointDuration : SeriesMap Histogram := {}
  avgLatency : SeriesMap Float := {}
  maxLatency : SeriesMap Float := {}
  errorRate : SeriesMap Float := {}
  clientErrorRate : SeriesMap Float := {}
  serverErrorRate : SeriesMap Float := {}
  lines : SeriesMap Nat := {}

namespace Metrics

def requestLabels : List String :=
  ["request_method", "response_code", "app", "namespace", "target_kind"]

def endpointLabels : List String :=
  ["namespace", "ingress", "request_path", "request_method", "response_code"]

def gaugeLabels : List String := ["namespace", "ingress", "request_path"]

def lineLabels : List String := ["outcome"]

def resetErrorRates (metrics : Metrics) : Metrics :=
  { metrics with errorRate := {}, clientErrorRate := {}, serverErrorRate := {} }

def resetEndpointSeries (metrics : Metrics) : Metrics :=
  { metrics with avgLatency := {}, maxLatency := {}, endpointDuration := {}, endpointRequests := {} }

def removeLatency (metrics : Metrics) (labels : List String) : Metrics :=
  { metrics with
    avgLatency := metrics.avgLatency.remove labels
    maxLatency := metrics.maxLatency.remove labels }

def observeIn (family : SeriesMap Histogram) (labels : List String) (amount : Float) :
    SeriesMap Histogram :=
  family.update labels (.start latencyBounds) (·.observe amount)

def fullName (name : String) : String := "traefik_officer_" ++ name

def counterFamily (name help : String) (labels : List String) (series : SeriesMap Nat) :
    Exposition.Family :=
  ⟨fullName name, help, .counter (Exposition.label labels series)⟩

def histogramFamily (name help : String) (labels : List String) (series : SeriesMap Histogram) :
    Exposition.Family :=
  ⟨fullName name, help, .histogram (Exposition.label labels series)⟩

def gaugeFamily (name help : String) (series : SeriesMap Float) : Exposition.Family :=
  ⟨fullName name, help, .gauge (Exposition.label gaugeLabels series)⟩

def families (metrics : Metrics) : List Exposition.Family :=
  [ counterFamily "requests_total" "Requests seen in the access log" requestLabels metrics.requests,
    histogramFamily "request_duration_seconds" "Request duration in seconds" requestLabels
      metrics.requestDuration,
    ⟨fullName "traefik_overhead_seconds", "Time spent in Traefik itself, per request",
      .histogram [([], metrics.overhead)]⟩,
    counterFamily "endpoint_requests_total" "Requests per top-N endpoint" endpointLabels
      metrics.endpointRequests,
    histogramFamily "endpoint_request_duration_seconds" "Request duration per top-N endpoint"
      endpointLabels metrics.endpointDuration,
    gaugeFamily "endpoint_avg_latency_seconds" "Average latency of a top-N endpoint"
      metrics.avgLatency,
    gaugeFamily "endpoint_max_latency_seconds" "Maximum latency of a top-N endpoint"
      metrics.maxLatency,
    gaugeFamily "endpoint_error_rate" "Share of requests answered with status >= 400"
      metrics.errorRate,
    gaugeFamily "endpoint_client_error_rate" "Share of requests answered with status 4xx"
      metrics.clientErrorRate,
    gaugeFamily "endpoint_server_error_rate" "Share of requests answered with status >= 500"
      metrics.serverErrorRate,
    counterFamily "lines_total" "Log lines processed, by outcome" lineLabels metrics.lines]

def render (metrics : Metrics) : List String := Exposition.lines metrics.families

def familyNames (metrics : Metrics) : List String :=
  (Exposition.shown metrics.families).map (·.name)

end Metrics

end IngressMeter
