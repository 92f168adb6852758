import IngressMeter.Service

/-!
The two pages that the service offers: the measurements and its health.
-/

namespace IngressMeter

inductive PageBody where
  | empty
  | exposition (lines : List String)
  | report (report : HealthReport)

def HealthReport.members (report : HealthReport) : List (String × Json) :=
  let error := match report.error with
    | some text => [("error", Json.text text)]
    | none => []
  [ ("status", .text report.status.label),
    ("components",
      .ofMembers (report.components.map fun (name, status) => (name, Json.text status)))] ++ error

structure PageAnswer where
  status : Nat
  contentType : Option String := none
  allow : Option String := none
  body : PageBody := .empty

namespace Routes

def expositionType : String := "text/plain; version=0.0.4; charset=utf-8"

def pathOf (target : String) : String := String.ofList (target.toList.takeWhile (· ≠ '?'))

def metricsPage (service : Service) : Service × PageAnswer :=
  let (engine, lines) := service.engine.scrape
  ({ service with engine },
    { status := 200, contentType := some expositionType, body := .exposition lines })

def healthPage (service : Service) (now : Nat) : Service × PageAnswer :=
  let report := service.health.report now
  (service,
    { status := if report.isHealthy then 200 else 503
      contentType := some "application/json"
      body := .report report })

def forMethod (method : String) (answer : PageAnswer) : PageAnswer :=
  if method = "HEAD" then { answer with body := .empty } else answer

def respond (service : Service) (now : Nat) (method target : String) : Service × PageAnswer :=
  let page? := match pathOf target with
    | "/metrics" => some (fun (service : Service) => metricsPage service)
    | "/health" => some (fun (service : Service) => healthPage service now)
    | _ => none
  match page? with
  | none => (service, { status := 404 })
  | some page =>
    if method = "GET" || method = "HEAD" then
      let (service, answer) := page service
      (service, forMethod method answer)
    else (service, { status := 405, allow := some "GET,HEAD" })

end Routes

end IngressMeter
