import IngressMeter.Cluster.Lease
import IngressMeter.Proofs.Decimal.Reading
import Mathlib.Data.List.Infix

/-!
Many electors and one lease. An attempt reads the lease and writes it later; in between the others
may do what they like. The interface of the cluster is whatever keeps the lease, gives every version
of it a name of its own and refuses a write that is not based on the version that is stored.
-/

namespace IngressMeter

def Timestamp.inMicros (time : Timestamp) : Timestamp :=
  { time with nanos := time.nanos - time.nanos % 1000 }

def LeaseSpec.inMicros (spec : LeaseSpec) : LeaseSpec :=
  { spec with
    acquired := spec.acquired.map Timestamp.inMicros
    renewed := spec.renewed.map Timestamp.inMicros }

theorem LeaseSpec.inMicros_inMicros (spec : LeaseSpec) : spec.inMicros.inMicros = spec.inMicros := by
  have idempotent (time : Timestamp) : time.inMicros.inMicros = time.inMicros := by
    simp only [Timestamp.inMicros, Timestamp.mk.injEq, and_true]
    omega
  simp [inMicros, Option.map_map, Function.comp_def, idempotent]

def Lease.resourceVersion? (lease : Lease) : Option String :=
  (Form.member? lease.metadata "resourceVersion").bind Json.toText?

structure LeaseApi (State : Type) where
  stored : State → Option Lease
  write : State → LeaseWrite → State × WriteAnswer
  revision : State → Nat
  versionText : Nat → String

namespace LeaseApi

variable {State : Type}

/-- What the electors rely on. A write that could be accepted may still fail. -/
structure Lawful (api : LeaseApi State) : Prop where
  distinct : Function.Injective api.versionText
  versioned : ∀ state lease, api.stored state = some lease →
    lease.resourceVersion? = some (api.versionText (api.revision state))
  precise : ∀ state lease, api.stored state = some lease →
    lease.spec.map LeaseSpec.inMicros = lease.spec
  createExisting : ∀ state lease new, api.stored state = some lease →
    (api.write state (.create new)).2 = .conflict
  replaceStale : ∀ state lease new, api.stored state = some lease →
    new.resourceVersion? ≠ lease.resourceVersion? → (api.write state (.replace new)).2 = .conflict
  accepted : ∀ state write, (api.write state write).2 = .accepted →
    api.revision state < api.revision (api.write state write).1 ∧
      ∃ lease, api.stored (api.write state write).1 = some lease ∧
        lease.spec = write.lease.spec.map LeaseSpec.inMicros
  refused : ∀ state write, (api.write state write).2 ≠ .accepted →
    api.revision (api.write state write).1 = api.revision state ∧
      api.stored (api.write state write).1 = api.stored state

variable (api : LeaseApi State)

def spec? (state : State) : Option LeaseSpec := (api.stored state).map fun lease => lease.spec.getD {}

def holder? (state : State) : Option String := (api.spec? state).bind (·.holder)

theorem Lawful.inMicros_spec? {api : LeaseApi State} (lawful : api.Lawful) {state : State}
    {spec : LeaseSpec} (found : api.spec? state = some spec) : spec.inMicros = spec := by
  obtain ⟨lease, isStored, rfl⟩ := Option.map_eq_some_iff.mp found
  have precise := lawful.precise state lease isStored
  cases isSpec : lease.spec with
  | none => rfl
  | some spec =>
      rw [isSpec] at precise
      exact Option.some.inj precise

def transitions (state : State) : Int := ((api.spec? state).bind (·.transitions)).getD 0

end LeaseApi

structure LeaseStore where
  spec? : Option (Option LeaseSpec) := none
  version : Nat := 0

namespace LeaseStore

def versionText (version : Nat) : String := String.ofList (Decimal.natDigits version)

def lease? (store : LeaseStore) : Option Lease :=
  store.spec?.map fun spec =>
    { metadata := .ofMembers [("resourceVersion", .text (versionText store.version))]
      spec := spec.map LeaseSpec.inMicros }

def put (store : LeaseStore) (lease : Lease) : LeaseStore where
  spec? := some lease.spec
  version := store.version + 1

def write (store : LeaseStore) : LeaseWrite → LeaseStore × WriteAnswer
  | .create new => if store.spec?.isNone then (store.put new, .accepted) else (store, .conflict)
  | .replace new =>
    if store.spec?.isNone then (store, .failed)
    else if new.resourceVersion? = some (versionText store.version) then (store.put new, .accepted)
    else (store, .conflict)

def api : LeaseApi LeaseStore where
  stored := lease?
  write := write
  revision := version
  versionText := versionText

theorem resourceVersion_lease? {store : LeaseStore} {lease : Lease}
    (found : store.lease? = some lease) :
    lease.resourceVersion? = some (versionText store.version) := by
  obtain ⟨spec, _, rfl⟩ := Option.map_eq_some_iff.mp found
  rfl

theorem lawful : api.Lawful where
  distinct := by
    intro first second same
    have sameDigits := congrArg (fun text => Decimal.digits? text.toList) same
    simpa [api, versionText, Decimal.digits?_natDigits] using sameDigits
  versioned := fun _ _ found => resourceVersion_lease? found
  precise := by
    intro store lease found
    obtain ⟨spec, _, rfl⟩ := Option.map_eq_some_iff.mp found
    simp [Option.map_map, Function.comp_def, LeaseSpec.inMicros_inMicros]
  createExisting := by
    intro store lease new found
    obtain ⟨spec, isSpec, _⟩ := Option.map_eq_some_iff.mp found
    simp [api, write, isSpec]
  replaceStale := by
    intro store lease new found stale
    rw [resourceVersion_lease? found] at stale
    obtain ⟨spec, isSpec, _⟩ := Option.map_eq_some_iff.mp found
    simp [api, write, isSpec, stale]
  accepted := by
    intro store write accepted
    have isPut : store.write write = (store.put write.lease, .accepted) := by
      revert accepted
      cases write <;> simp only [api, LeaseStore.write] <;> grind [LeaseWrite.lease]
    simp only [api, isPut]
    exact ⟨Nat.lt_succ_self _, _, rfl, rfl⟩
  refused := by
    intro store write notAccepted
    have isKept : (store.write write).1 = store := by
      revert notAccepted
      cases write <;> simp only [api, LeaseStore.write] <;> grind
    simp only [api, isKept, and_self]

end LeaseStore

structure LeaseAttempt where
  elector : Elector
  now : Timestamp
  read : Option Lease
  /-- Whether the attempt succeeded. There is no result while its write is under way. -/
  result : Option Bool := none

namespace LeaseAttempt

def wanted (attempt : LeaseAttempt) : Option LeaseWrite :=
  attempt.elector.decide attempt.read attempt.now

def start (elector : Elector) (now : Timestamp) (read : Option Lease) : LeaseAttempt :=
  let attempt : LeaseAttempt := { elector, now, read }
  if attempt.wanted.isNone then { attempt with result := some (Elector.leads none) } else attempt

def finish (attempt : LeaseAttempt) (answer : WriteAnswer) : LeaseAttempt :=
  { attempt with result := some (Elector.leads (some answer)) }

def readVersion (attempt : LeaseAttempt) : Option (Option String) :=
  attempt.read.map (·.resourceVersion?)

end LeaseAttempt

structure Election (State : Type) where
  server : State
  attempts : List LeaseAttempt := []

inductive ElectionStep where
  | read (elector : Elector) (now : Timestamp)
  | write (index : Nat)

namespace Election

variable {State : Type}

/-- Whether the attempt of a number is this one and has made its elector the leader. -/
def LeadsBy (election : Election State) (index : Nat) (attempt : LeaseAttempt) : Prop :=
  election.attempts[index]? = some attempt ∧ attempt.result = some true

def Leads (election : Election State) (index : Nat) : Prop :=
  ∃ attempt, election.LeadsBy index attempt

def underWay? (election : Election State) (index : Nat) : Option (LeaseAttempt × LeaseWrite) :=
  (election.attempts[index]?.filter fun attempt => attempt.result.isNone).bind fun attempt =>
    attempt.wanted.map (attempt, ·)

variable (api : LeaseApi State)

def step (election : Election State) : ElectionStep → Election State
  | .read elector now =>
    { election with
      attempts := election.attempts ++ [.start elector now (api.stored election.server)] }
  | .write index =>
    match election.underWay? index with
    | none => election
    | some (attempt, write) =>
      let (server, answer) := api.write election.server write
      { server, attempts := election.attempts.set index (attempt.finish answer) }

def run (server : State) (steps : List ElectionStep) : Election State :=
  steps.foldl (step api) { server }

theorem run_concat (server : State) (steps : List ElectionStep) (step : ElectionStep) :
    run api server (steps ++ [step]) = (run api server steps).step api step :=
  List.foldl_concat _ _ _ _

structure Accepts (election : Election State) (step : ElectionStep) (index : Nat)
    (attempt : LeaseAttempt) (write : LeaseWrite) : Prop where
  isWrite : step = .write index
  underWay : election.underWay? index = some (attempt, write)
  accepted : (api.write election.server write).2 = .accepted

end Election

namespace Elector

/-- What an elector writes: a first lease, its own lease renewed, or a free lease taken over. The
metadata of a lease that was read stay, and with them its version. -/
theorem decide_cases {elector : Elector} {read : Option Lease} {now : Timestamp} {write : LeaseWrite}
    (decided : elector.decide read now = some write) :
    (read = none ∧ write = .create (elector.founded now)) ∨
      ∃ lease spec, read = some lease ∧ write = .replace { lease with spec := some spec } ∧
        let old := lease.spec.getD {}
        (old.holder = some elector.identity ∧ spec = renew now old ∨
          old.holder ≠ some elector.identity ∧ isFree old now = true ∧
            spec = elector.takeOver now old) := by
  cases read with
  | none => exact Or.inl ⟨rfl, (Option.some.inj decided).symm⟩
  | some lease =>
      refine Or.inr ⟨lease, ?_⟩
      simp only [decide] at decided
      split at decided
      · rename_i ours
        exact ⟨_, rfl, (Option.some.inj decided).symm, Or.inl ⟨ours, rfl⟩⟩
      · rename_i notOurs
        split at decided
        · rename_i free
          exact ⟨_, rfl, (Option.some.inj decided).symm, Or.inr ⟨notOurs, free, rfl⟩⟩
        · contradiction

theorem wrapInt32_eq_self {value : Int} (lower : -powerOfTwo 31 ≤ value)
    (upper : value < powerOfTwo 31) : wrapInt32 value = value := by
  have half : (powerOfTwo 31 : Int) = 2147483648 := rfl
  have whole : powerOfTwo 32 = 4294967296 := rfl
  rw [half] at lower upper
  rw [wrapInt32, whole, Int.bmod_eq_of_le] <;> omega

end Elector

namespace LeaseAttempt

variable {State : Type} {api : LeaseApi State}

def Fits (api : LeaseApi State) (state : State) (attempt : LeaseAttempt) : Prop :=
  match attempt.read with
  | none => attempt.result = some true → (api.stored state).isSome = true
  | some lease =>
    (api.stored state).isSome = true ∧ ∃ revision ≤ api.revision state,
      lease.resourceVersion? = some (api.versionText revision) ∧
        (revision = api.revision state →
          api.stored state = some lease ∧ attempt.result ≠ some true)

theorem read_start (elector : Elector) (now : Timestamp) (read : Option Lease) :
    (start elector now read).read = read := by
  simp only [start]
  split <;> rfl

theorem result_start (elector : Elector) (now : Timestamp) (read : Option Lease) :
    (start elector now read).result ≠ some true := by
  simp only [start]
  split <;> simp [Elector.leads]

theorem result_finish (attempt : LeaseAttempt) (answer : WriteAnswer) :
    (attempt.finish answer).result = some true ↔ answer = .accepted := by
  simp [finish, Elector.leads]

theorem readVersion_finish (attempt : LeaseAttempt) (answer : WriteAnswer) :
    (attempt.finish answer).readVersion = attempt.readVersion := rfl

variable (lawful : api.Lawful) {state : State} {attempt : LeaseAttempt}

include lawful

theorem fits_start (elector : Elector) (now : Timestamp) :
    (start elector now (api.stored state)).Fits api state := by
  have notLeading := result_start elector now (api.stored state)
  rw [Fits, read_start]
  cases found : api.stored state with
  | none =>
      rw [found] at notLeading
      exact fun leads => absurd leads notLeading
  | some lease =>
      rw [found] at notLeading
      exact ⟨rfl, api.revision state, le_rfl, lawful.versioned state lease found,
        fun _ => ⟨rfl, notLeading⟩⟩

namespace Fits

variable (fits : attempt.Fits api state)

include fits

theorem write (write : LeaseWrite) {later : LeaseAttempt} (sameRead : later.read = attempt.read)
    (leads : later.result = some true →
      attempt.result = some true ∨ (api.write state write).2 = .accepted) :
    later.Fits api (api.write state write).1 := by
  rw [Fits, sameRead]
  rw [Fits] at fits
  by_cases accepted : (api.write state write).2 = .accepted
  · obtain ⟨newer, lease, isStored, _⟩ := lawful.accepted state write accepted
    rw [isStored]
    cases read : attempt.read with
    | none => exact fun _ => rfl
    | some lease =>
        rw [read] at fits
        obtain ⟨_, revision, notNewer, version, _⟩ := fits
        exact ⟨rfl, revision, notNewer.trans newer.le, version, fun same => by omega⟩
  · obtain ⟨sameRevision, sameStored⟩ := lawful.refused state write accepted
    have leads : later.result = some true → attempt.result = some true :=
      fun result => (leads result).resolve_right accepted
    rw [sameRevision, sameStored]
    cases read : attempt.read with
    | none =>
        rw [read] at fits
        exact fun result => fits (leads result)
    | some lease =>
        rw [read] at fits
        obtain ⟨isStored, revision, notNewer, version, current⟩ := fits
        exact ⟨isStored, revision, notNewer, version,
          fun same => ⟨(current same).1, fun result => (current same).2 (leads result)⟩⟩

theorem not_leads (current : attempt.readVersion = (api.stored state).map (·.resourceVersion?)) :
    attempt.result ≠ some true := by
  rw [Fits] at fits
  rw [readVersion] at current
  cases read : attempt.read with
  | none =>
      rw [read] at fits current
      intro leads
      obtain ⟨lease, isStored⟩ := Option.isSome_iff_exists.mp (fits leads)
      simp [isStored] at current
  | some lease =>
      rw [read] at fits current
      obtain ⟨isStored, revision, _, version, unlessChanged⟩ := fits
      obtain ⟨now, isNow⟩ := Option.isSome_iff_exists.mp isStored
      have sameVersion : api.versionText revision = api.versionText (api.revision state) := by
        rw [isNow, Option.map_some, Option.map_some, Option.some.injEq, version,
          lawful.versioned state now isNow] at current
        exact Option.some.inj current
      exact (unlessChanged (lawful.distinct sameVersion)).2

theorem read_eq_stored {write : LeaseWrite} (wanted : attempt.wanted = some write)
    (accepted : (api.write state write).2 = .accepted) : attempt.read = api.stored state := by
  rw [Fits] at fits
  rcases Elector.decide_cases wanted with ⟨noLease, rfl⟩ | ⟨lease, spec, read, rfl, _⟩
  · rw [noLease]
    cases found : api.stored state with
    | none => rfl
    | some lease =>
        rw [lawful.createExisting state lease _ found] at accepted
        contradiction
  · rw [read] at fits ⊢
    obtain ⟨isStored, revision, _, version, unlessChanged⟩ := fits
    obtain ⟨now, isNow⟩ := Option.isSome_iff_exists.mp isStored
    by_cases sameVersion : lease.resourceVersion? = now.resourceVersion?
    · rw [version, lawful.versioned state now isNow, Option.some.injEq] at sameVersion
      exact (unlessChanged (lawful.distinct sameVersion)).1.symm
    · have stale := lawful.replaceStale state now { lease with spec := some spec } isNow sameVersion
      rw [stale] at accepted
      contradiction

end Fits

end LeaseAttempt

end IngressMeter
