import IngressMeter.Cluster.Answer
import IngressMeter.Cluster.Request
import IngressMeter.Resource.Metadata

/-!
The election of the one replica that writes to the cluster. Its lease is an object of the cluster
that names the holder. Who finds the lease without a holder or not renewed in time takes it over;
the cluster refuses to write a lease that was changed since it was read.
-/

namespace IngressMeter

structure LeaseSpec where
  holder : Option String := none
  durationSeconds : Option Int := none
  acquired : Option Timestamp := none
  renewed : Option Timestamp := none
  transitions : Option Int := none
  preferredHolder : Option String := none
  strategy : Option String := none
  deriving DecidableEq, Repr

structure Lease where
  metadata : Json
  spec : Option LeaseSpec

namespace LeaseSpec

open Json in
def ofJson? (json : Json) : Option LeaseSpec := do
  let members ← json.toMembers?
  return {
    holder := ← lastOf? members "holderIdentity" toText?
    durationSeconds := ← lastOf? members "leaseDurationSeconds" toInt32?
    acquired := ← lastOf? members "acquireTime" toTimestamp?
    renewed := ← lastOf? members "renewTime" toTimestamp?
    transitions := ← lastOf? members "leaseTransitions" toInt32?
    preferredHolder := ← lastOf? members "preferredHolder" toText?
    strategy := ← lastOf? members "strategy" toText? }

def timeJson (time : Timestamp) : Json := .text time.toMicroText

def toJson (spec : LeaseSpec) : Json :=
  Json.ofOptions [
    ("acquireTime", spec.acquired.map timeJson),
    ("holderIdentity", spec.holder.map Json.text),
    ("leaseDurationSeconds", spec.durationSeconds.map Json.ofInt),
    ("leaseTransitions", spec.transitions.map Json.ofInt),
    ("preferredHolder", spec.preferredHolder.map Json.text),
    ("renewTime", spec.renewed.map timeJson),
    ("strategy", spec.strategy.map Json.text)]

end LeaseSpec

namespace Lease

def version : String := "coordination.k8s.io/v1"

def kind : String := "Lease"

def ofJson? (json : Json) : Option Lease := do
  let members ← json.toMembers?
  if !Form.isKind version kind members then none
  else
    return {
      metadata := (← Json.lastOf? members "metadata" ObjectMeta.form).getD (.object [])
      spec := ← Json.lastOf? members "spec" LeaseSpec.ofJson? }

def toJson (lease : Lease) : Json :=
  Json.ofOptions [
    ("apiVersion", some (.text version)),
    ("kind", some (.text kind)),
    ("metadata", some lease.metadata),
    ("spec", lease.spec.map LeaseSpec.toJson)]

end Lease

def leaseName : String := "traefik-officer-operator-lock"

def leaseSeconds : Int := 15

def leaseExpired (renewed : Option Timestamp) (durationSeconds : Option Int) (now : Timestamp) :
    Bool :=
  match renewed with
  | none => true
  | some renewed => renewed.nanos + durationSeconds.getD leaseSeconds * 1000000000 < now.nanos

inductive LeaseWrite where
  | create (lease : Lease)
  | replace (lease : Lease)

inductive WriteAnswer where
  | accepted
  /-- The lease was changed since it was read. -/
  | conflict
  | failed
  deriving DecidableEq, Repr

structure Elector where
  identity : String
  deriving DecidableEq, Repr

namespace Elector

def wrapInt32 (value : Int) : Int := Int.bmod value (powerOfTwo 32)

def founded (elector : Elector) (now : Timestamp) : Lease where
  metadata := .ofMembers [("name", .text leaseName)]
  spec := some {
    holder := some elector.identity
    durationSeconds := some leaseSeconds
    acquired := some now
    renewed := some now
    transitions := some 0 }

def renew (now : Timestamp) (spec : LeaseSpec) : LeaseSpec := { spec with renewed := some now }

def takeOver (elector : Elector) (now : Timestamp) (spec : LeaseSpec) : LeaseSpec :=
  { spec with
    holder := some elector.identity
    durationSeconds := some leaseSeconds
    acquired := some now
    renewed := some now
    transitions := some (wrapInt32 (spec.transitions.getD 0 + 1)) }

def isFree (spec : LeaseSpec) (now : Timestamp) : Bool :=
  spec.holder.isNone || leaseExpired spec.renewed spec.durationSeconds now

def decide (elector : Elector) (read : Option Lease) (now : Timestamp) : Option LeaseWrite :=
  match read with
  | none => some (.create (elector.founded now))
  | some lease =>
    let spec := lease.spec.getD {}
    if spec.holder = some elector.identity then
      some (.replace { lease with spec := some (renew now spec) })
    else if isFree spec now then
      some (.replace { lease with spec := some (elector.takeOver now spec) })
    else none

def leads (answer : Option WriteAnswer) : Bool := answer = some .accepted

end Elector

namespace LeaseWrite

def lease : LeaseWrite → Lease
  | create lease => lease
  | replace lease => lease

def request (write : LeaseWrite) (leases : Collection) : ApiRequest :=
  match write with
  | create lease => leases.create lease.toJson
  | replace lease => leases.replace leaseName lease.toJson

end LeaseWrite

/-- The lease that an answer holds, or its absence; `none` if the attempt fails. -/
def readLease? : ApiAnswer → Option (Option Lease)
  | .never => none
  | .answer code body =>
    match ApiAnswer.content code body with
    | .error error => if error.reason = "NotFound" then some none else none
    | .ok text => ((Json.ofText? text).bind Lease.ofJson?).map some

def WriteAnswer.ofAnswer : ApiAnswer → WriteAnswer
  | .never => failed
  | .answer code body =>
    match ApiAnswer.content code body with
    | .error error => if error.code = 409 then conflict else failed
    | .ok text => if ((Json.ofText? text).bind Lease.ofJson?).isSome then accepted else failed

end IngressMeter
