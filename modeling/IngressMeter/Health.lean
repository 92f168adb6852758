/-!
How the service is doing, as it tells when asked. Times are seconds of a clock that never goes back.
-/

namespace IngressMeter

inductive HealthStatus where
  | starting
  | healthy
  | degraded
  | error
  deriving DecidableEq, Repr

def HealthStatus.label : HealthStatus → String
  | starting => "starting"
  | healthy => "healthy"
  | degraded => "degraded"
  | error => "error"

/-- A time span with its largest unit first: `1h2m3s`, `4m0s`, `12s`. -/
def spanText (seconds : Nat) : String :=
  let hours := seconds / 3600
  let minutes := seconds % 3600 / 60
  let rest := toString (seconds % 60) ++ "s"
  if 0 < hours then toString hours ++ "h" ++ toString minutes ++ "m" ++ rest
  else if 0 < minutes then toString minutes ++ "m" ++ rest
  else rest

abbrev Components := List (String × String)

def Components.set (components : Components) (name status : String) : Components :=
  if components.any (·.1 = name) then
    components.map fun entry => if entry.1 = name then (name, status) else entry
  else components ++ [(name, status)]

structure Health where
  status : HealthStatus := .starting
  components : Components := [("service", "initializing")]
  error : Option String := none
  started : Nat := 0
  lastProcessed : Nat := 0
  /-- Without lines for longer than this the service counts as degraded. -/
  staleAfter : Nat := 300

structure HealthReport where
  status : HealthStatus
  uptime : String
  components : Components
  error : Option String
  deriving DecidableEq, Repr

def HealthReport.isHealthy (report : HealthReport) : Bool := report.status = .healthy

namespace Health

def setReady (health : Health) : Health :=
  { health with
    status := .healthy
    components := health.components.set "service" "running" }

/-- Notes what a component says of itself. An error counts for the whole service. -/
def updateComponent (health : Health) (name status : String) (error : Option String) : Health :=
  let noted := { health with components := health.components.set name status }
  match error with
  | some text => { noted with status := .error, error := some text }
  | none => if noted.status = .error then noted else { noted with status := .healthy }

def markProcessed (health : Health) (now : Nat) : Health := { health with lastProcessed := now }

def isStale (health : Health) (now : Nat) : Bool := health.staleAfter < now - health.lastProcessed

def report (health : Health) (now : Nat) : HealthReport :=
  let uptime := spanText (now - health.started)
  let said (status : String) := health.components.set "log_processing" status
  if health.isStale now then
    if health.status = .healthy then
      { status := .degraded, uptime, components := said "stale"
        error := some ("No logs processed in the last " ++ spanText health.staleAfter) }
    else { status := health.status, uptime, components := said "stale", error := health.error }
  else { status := health.status, uptime, components := said "active", error := health.error }

end Health

end IngressMeter
