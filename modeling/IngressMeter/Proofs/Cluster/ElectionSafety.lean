import IngressMeter.Proofs.Cluster.Election

/-!
What an election guarantees, however the attempts interleave. Nobody leads but by a write that was
accepted, of those who read one version of the lease one leads at most, and the lease changes hands
only when it was free for the elector that takes it.
-/

namespace IngressMeter

structure LeaseAttempt.Makes (attempt : LeaseAttempt) (old : Option LeaseSpec) (new : LeaseSpec) :
    Prop where
  holder : new.holder = some attempt.elector.identity
  renewed : new.renewed = some attempt.now.inMicros
  founded : old = none → new.transitions = some 0 ∧
    new.acquired = some attempt.now.inMicros ∧ new.durationSeconds = some leaseSeconds
  kept : ∀ spec, old = some spec → spec.holder = some attempt.elector.identity →
    new = { spec with renewed := some attempt.now.inMicros }
  takenOver : ∀ spec, old = some spec → spec.holder ≠ some attempt.elector.identity →
    (spec.holder = none ∨ leaseExpired spec.renewed spec.durationSeconds attempt.now = true) ∧
      new = { attempt.elector.takeOver attempt.now.inMicros spec with
        transitions := some (spec.transitions.getD 0 + 1) }

theorem LeaseAttempt.Makes.transitions {attempt : LeaseAttempt} {old : Option LeaseSpec}
    {new : LeaseSpec} (makes : attempt.Makes old new) :
    (old.bind (·.transitions)).getD 0 ≤ new.transitions.getD 0 ∧
      new.transitions.getD 0 ≤ (old.bind (·.transitions)).getD 0 + 1 := by
  cases old with
  | none =>
      rw [(makes.founded rfl).1]
      decide
  | some spec =>
      rw [Option.bind_some]
      by_cases ours : spec.holder = some attempt.elector.identity
      · have kept : new.transitions = spec.transitions := by rw [makes.kept spec rfl ours]
        rw [kept]
        omega
      · have grows : new.transitions = some (spec.transitions.getD 0 + 1) := by
          rw [(makes.takenOver spec rfl ours).2]
        rw [grows, Option.getD_some]
        omega

/-- Whether the lease can change hands that many times before the count of it wraps around. -/
def LeaseApi.HasRoom {State : Type} (api : LeaseApi State) (state : State) (count : Nat) : Prop :=
  -powerOfTwo 31 ≤ api.transitions state ∧ api.transitions state + count < powerOfTwo 31

namespace Election

variable {State : Type} {api : LeaseApi State} {election : Election State}

theorem underWay?_eq_some_iff {index : Nat} {attempt : LeaseAttempt} {write : LeaseWrite} :
    election.underWay? index = some (attempt, write) ↔
      election.attempts[index]? = some attempt ∧ attempt.result = none ∧
        attempt.wanted = some write := by
  simp only [underWay?, Option.bind_eq_some_iff, Option.filter_eq_some_iff, Option.map_eq_some_iff,
    Option.isNone_iff_eq_none, Prod.mk.injEq]
  constructor
  · rintro ⟨_, ⟨found, noResult⟩, _, wanted, rfl, rfl⟩
    exact ⟨found, noResult, wanted⟩
  · rintro ⟨found, noResult, wanted⟩
    exact ⟨attempt, ⟨found, noResult⟩, write, wanted, rfl, rfl⟩

theorem step_cases (election : Election State) (api : LeaseApi State) (step : ElectionStep) :
    (∃ elector now, step = .read elector now ∧ election.step api step =
        { election with
          attempts := election.attempts ++ [.start elector now (api.stored election.server)] }) ∨
      (∃ index, step = .write index ∧ election.underWay? index = none ∧
        election.step api step = election) ∨
      ∃ index attempt write, step = .write index ∧
        election.underWay? index = some (attempt, write) ∧ election.step api step =
          { server := (api.write election.server write).1
            attempts := election.attempts.set index
              (attempt.finish (api.write election.server write).2) } := by
  cases step with
  | read elector now => exact Or.inl ⟨elector, now, rfl, rfl⟩
  | write index =>
      cases found : election.underWay? index with
      | none => exact Or.inr (Or.inl ⟨index, rfl, found, by simp only [Election.step, found]⟩)
      | some tried =>
          exact Or.inr (Or.inr ⟨index, tried.1, tried.2, rfl, found,
            by simp only [Election.step, found]⟩)

theorem leadsBy_step {step : ElectionStep} {index : Nat} {attempt : LeaseAttempt} :
    (election.step api step).LeadsBy index attempt ↔
      election.LeadsBy index attempt ∨ ∃ tried write,
        Accepts api election step index tried write ∧ attempt = tried.finish .accepted := by
  have elsewhere (other : step ≠ .write index) : ¬∃ tried write,
      Accepts api election step index tried write ∧ attempt = tried.finish .accepted := by
    rintro ⟨_, _, accepts, _⟩
    exact other accepts.isWrite
  rcases election.step_cases api step with
    ⟨elector, now, rfl, after⟩ | ⟨written, rfl, nothing, after⟩ |
      ⟨written, tried, write, rfl, found, after⟩
  · rw [or_iff_left (elsewhere nofun), after, LeadsBy, LeadsBy, List.getElem?_append]
    split
    · rfl
    · rename_i beyond
      rw [List.getElem?_eq_none (Nat.le_of_not_lt beyond), List.getElem?_singleton]
      refine iff_of_false ?_ (by simp)
      rintro ⟨isNew, leads⟩
      obtain ⟨_, rfl⟩ := (Option.ite_some_none_eq_some).mp isNew
      exact LeaseAttempt.result_start elector now _ leads
  · have noWrite : ¬∃ tried write, Accepts api election (.write written) index tried write ∧
        attempt = tried.finish .accepted := by
      rintro ⟨tried, write, accepts, _⟩
      cases accepts.isWrite
      cases nothing.symm.trans accepts.underWay
    rw [or_iff_left noWrite, after]
  · obtain ⟨isTried, noResult, _⟩ := underWay?_eq_some_iff.mp found
    rw [after, LeadsBy, LeadsBy]
    by_cases same : written = index
    · subst same
      have isIn : written < election.attempts.length := (List.getElem?_eq_some_iff.mp isTried).1
      rw [List.getElem?_set_self isIn, Option.some.injEq]
      constructor
      · rintro ⟨rfl, leads⟩
        have accepted := (tried.result_finish _).mp leads
        exact Or.inr ⟨tried, write, ⟨rfl, found, accepted⟩, by rw [accepted]⟩
      · rintro (⟨isAttempt, leads⟩ | ⟨other, otherWrite, accepts, rfl⟩)
        · cases isTried.symm.trans isAttempt
          rw [noResult] at leads
          contradiction
        · cases found.symm.trans accepts.underWay
          rw [accepts.accepted]
          exact ⟨rfl, rfl⟩
    · have different : ElectionStep.write written ≠ .write index := by
        rintro ⟨⟩
        exact same rfl
      rw [or_iff_left (elsewhere different), List.getElem?_set_ne same]

/-- Exactly those lead whose write was accepted. -/
theorem leads_run_iff (server : State) (steps : List ElectionStep) (index : Nat) :
    (run api server steps).Leads index ↔ ∃ earlier step attempt write,
      earlier ++ [step] <+: steps ∧ Accepts api (run api server earlier) step index attempt write := by
  induction steps using List.reverseRecOn with
  | nil => simp [Leads, LeadsBy, run]
  | append_singleton steps step led =>
      rw [run_concat, Leads]
      simp only [leadsBy_step, exists_or, List.prefix_concat_iff]
      rw [← Leads, led]
      constructor
      · rintro (⟨earlier, last, attempt, write, isIn, accepts⟩ | ⟨_, attempt, write, accepts, _⟩)
        · exact ⟨earlier, last, attempt, write, Or.inr isIn, accepts⟩
        · exact ⟨steps, step, attempt, write, Or.inl rfl, accepts⟩
      · rintro ⟨earlier, last, attempt, write, same | isIn, accepts⟩
        · obtain ⟨rfl, rfl⟩ := List.append_singleton_inj.mp same
          exact Or.inr ⟨_, attempt, write, accepts, rfl⟩
        · exact Or.inl ⟨earlier, last, attempt, write, isIn, accepts⟩

/-- What holds throughout an election: nobody is surprised by the lease, and of those who read one
version of it one leads at most. -/
structure Sound (api : LeaseApi State) (election : Election State) : Prop where
  fits : ∀ attempt ∈ election.attempts, attempt.Fits api election.server
  single : ∀ i j first second, election.LeadsBy i first → election.LeadsBy j second →
    first.readVersion = second.readVersion → i = j

theorem sound_empty (server : State) : Sound api { server } where
  fits := by simp
  single := by simp [LeadsBy]

section Lawful

variable (lawful : api.Lawful)

include lawful

namespace Sound

variable (sound : Sound api election)

include sound

theorem read_eq_stored {step : ElectionStep} {index : Nat} {attempt : LeaseAttempt}
    {write : LeaseWrite} (accepts : Accepts api election step index attempt write) :
    attempt.read = api.stored election.server := by
  obtain ⟨isAttempt, _, wanted⟩ := underWay?_eq_some_iff.mp accepts.underWay
  exact (sound.fits attempt (List.mem_of_getElem? isAttempt)).read_eq_stored lawful wanted
    accepts.accepted

theorem readVersion_ne {step : ElectionStep} {i j : Nat} {leader tried : LeaseAttempt}
    {write : LeaseWrite} (leads : election.LeadsBy i leader)
    (accepts : Accepts api election step j tried write) :
    leader.readVersion ≠ tried.readVersion := by
  intro same
  have current : tried.readVersion = (api.stored election.server).map (·.resourceVersion?) := by
    rw [LeaseAttempt.readVersion, sound.read_eq_stored lawful accepts]
  have fits := sound.fits leader (List.mem_of_getElem? leads.1)
  exact fits.not_leads lawful (same.trans current) leads.2

theorem step (step : ElectionStep) : Sound api (election.step api step) where
  fits := by
    rcases election.step_cases api step with
      ⟨elector, now, rfl, after⟩ | ⟨_, rfl, _, after⟩ | ⟨index, tried, write, rfl, found, after⟩
    · rw [after]
      intro attempt member
      rcases List.mem_append.mp member with earlier | last
      · exact sound.fits attempt earlier
      · rw [List.mem_singleton.mp last]
        exact LeaseAttempt.fits_start lawful elector now
    · rw [after]
      exact sound.fits
    · rw [after]
      intro attempt member
      rcases List.mem_or_eq_of_mem_set member with other | this
      · exact (sound.fits attempt other).write lawful write rfl Or.inl
      · obtain ⟨isTried, _, _⟩ := underWay?_eq_some_iff.mp found
        have fits := sound.fits tried (List.mem_of_getElem? isTried)
        rw [this]
        exact fits.write lawful write rfl fun leads => Or.inr ((tried.result_finish _).mp leads)
  single := by
    intro i j first second firstLeads secondLeads same
    rcases leadsBy_step.mp firstLeads with firstLed | ⟨firstTried, _, firstAccepts, rfl⟩ <;>
      rcases leadsBy_step.mp secondLeads with secondLed | ⟨secondTried, _, secondAccepts, rfl⟩
    · exact sound.single i j first second firstLed secondLed same
    · rw [LeaseAttempt.readVersion_finish] at same
      exact absurd same (sound.readVersion_ne lawful firstLed secondAccepts)
    · rw [LeaseAttempt.readVersion_finish] at same
      exact absurd same.symm (sound.readVersion_ne lawful secondLed firstAccepts)
    · cases firstAccepts.isWrite.symm.trans secondAccepts.isWrite
      rfl

end Sound

theorem sound_run (server : State) (steps : List ElectionStep) : Sound api (run api server steps) := by
  induction steps using List.reverseRecOn with
  | nil => exact sound_empty server
  | append_singleton steps step sound =>
      rw [run_concat]
      exact sound.step lawful step

theorem Sound.makes (sound : Sound api election) {step : ElectionStep} {index : Nat}
    {attempt : LeaseAttempt} {write : LeaseWrite} (room : api.HasRoom election.server 1)
    (accepts : Accepts api election step index attempt write) :
    ∃ new, api.spec? (election.step api step).server = some new ∧
      attempt.Makes (api.spec? election.server) new := by
  obtain ⟨isAttempt, _, wanted⟩ := underWay?_eq_some_iff.mp accepts.underWay
  have readStored := sound.read_eq_stored lawful accepts
  have after : (election.step api step).server = (api.write election.server write).1 := by
    rw [accepts.isWrite, Election.step, accepts.underWay]
  obtain ⟨_, lease, isStored, specIs⟩ := lawful.accepted election.server write accepts.accepted
  have newSpec : api.spec? (election.step api step).server =
      some ((write.lease.spec.map LeaseSpec.inMicros).getD {}) := by
    rw [LeaseApi.spec?, after, isStored, Option.map_some, specIs]
  refine ⟨_, newSpec, ?_⟩
  rcases Elector.decide_cases wanted with ⟨noLease, rfl⟩ | ⟨old, spec, read, rfl, written⟩
  · have noSpec : api.spec? election.server = none := by
      rw [LeaseApi.spec?, ← readStored, noLease, Option.map_none]
    rw [noSpec]
    exact {
      holder := rfl
      renewed := rfl
      founded := fun _ => ⟨rfl, rfl, rfl⟩
      kept := by rintro _ ⟨⟩
      takenOver := by rintro _ ⟨⟩ }
  · have oldSpec : api.spec? election.server = some (old.spec.getD {}) := by
      rw [LeaseApi.spec?, ← readStored, read, Option.map_some]
    have inRange : Elector.wrapInt32 ((old.spec.getD {}).transitions.getD 0 + 1) =
        (old.spec.getD {}).transitions.getD 0 + 1 := by
      have bounds := room
      rw [LeaseApi.HasRoom, LeaseApi.transitions, oldSpec, Option.bind_some] at bounds
      exact Elector.wrapInt32_eq_self (by omega) (by omega)
    rw [oldSpec]
    rcases written with ⟨ours, rfl⟩ | ⟨notOurs, free, rfl⟩
    · refine ⟨ours, rfl, nofun, ?_, ?_⟩
      · rintro _ ⟨⟩ _
        have sameTime := congrArg (·.acquired) (lawful.inMicros_spec? oldSpec)
        simp only [LeaseSpec.inMicros] at sameTime
        simp [LeaseWrite.lease, Elector.renew, LeaseSpec.inMicros, sameTime]
      · rintro _ ⟨⟩ notOurs
        exact absurd ours notOurs
    · refine ⟨rfl, rfl, nofun, ?_, ?_⟩
      · rintro _ ⟨⟩ ours
        exact absurd ours notOurs
      · rintro _ ⟨⟩ _
        rw [Elector.isFree, Bool.or_eq_true, Option.isNone_iff_eq_none] at free
        refine ⟨free, ?_⟩
        simp only [LeaseWrite.lease, Elector.takeOver, inRange]
        rfl

theorem stored_step {step : ElectionStep}
    (nothing : ¬∃ index attempt write, Accepts api election step index attempt write) :
    api.stored (election.step api step).server = api.stored election.server := by
  rcases election.step_cases api step with
    ⟨elector, now, rfl, after⟩ | ⟨_, rfl, _, after⟩ | ⟨index, tried, write, rfl, found, after⟩
  · rw [after]
  · rw [after]
  · have notAccepted : (api.write election.server write).2 ≠ .accepted :=
      fun accepted => nothing ⟨index, tried, write, rfl, found, accepted⟩
    rw [after]
    exact (lawful.refused election.server write notAccepted).2

theorem hasRoom_step (sound : Sound api election) {count : Nat}
    (room : api.HasRoom election.server (count + 1)) (step : ElectionStep) :
    api.HasRoom (election.step api step).server count := by
  obtain ⟨lower, upper⟩ := room
  by_cases accepted : ∃ index attempt write, Accepts api election step index attempt write
  · obtain ⟨index, attempt, write, accepts⟩ := accepted
    have enough : api.HasRoom election.server 1 := ⟨lower, by omega⟩
    obtain ⟨new, after, makes⟩ := sound.makes lawful enough accepts
    have grows := makes.transitions
    have isNew : api.transitions (election.step api step).server = new.transitions.getD 0 := by
      rw [LeaseApi.transitions, after, Option.bind_some]
    rw [LeaseApi.HasRoom, isNew]
    rw [LeaseApi.transitions] at lower upper
    omega
  · have same : api.transitions (election.step api step).server =
        api.transitions election.server := by
      rw [LeaseApi.transitions, LeaseApi.spec?, stored_step lawful accepted]
      rfl
    rw [LeaseApi.HasRoom, same]
    omega

theorem hasRoom_run {server : State} {steps : List ElectionStep} {count : Nat}
    (room : api.HasRoom server (steps.length + count)) :
    api.HasRoom (run api server steps).server count := by
  induction steps using List.reverseRecOn generalizing count with
  | nil => rwa [List.length_nil, Nat.zero_add] at room
  | append_singleton steps step room_steps =>
      rw [run_concat]
      refine hasRoom_step lawful (sound_run lawful server steps) (room_steps ?_) step
      rwa [List.length_append, List.length_singleton, Nat.add_assoc, Nat.add_comm 1] at room

structure SafeStep (api : LeaseApi State) (election : Election State) (step : ElectionStep) :
    Prop where
  makes : ∀ index attempt write, Accepts api election step index attempt write →
    attempt.read = api.stored election.server ∧
      ∃ new, api.spec? (election.step api step).server = some new ∧
        attempt.Makes (api.spec? election.server) new
  unchanged : (¬∃ index attempt write, Accepts api election step index attempt write) →
    api.stored (election.step api step).server = api.stored election.server
  changesHolder : api.holder? (election.step api step).server ≠ api.holder? election.server →
    ∃ index attempt write, Accepts api election step index attempt write ∧
      ∀ old, attempt.read.map (·.spec.getD {}) = some old →
        old.holder = none ∨ leaseExpired old.renewed old.durationSeconds attempt.now = true

theorem Sound.safeStep (sound : Sound api election) (room : api.HasRoom election.server 1)
    (step : ElectionStep) : SafeStep api election step where
  makes := fun _ _ _ accepts => ⟨sound.read_eq_stored lawful accepts, sound.makes lawful room accepts⟩
  unchanged := stored_step lawful
  changesHolder := by
    intro changes
    by_cases accepted : ∃ index attempt write, Accepts api election step index attempt write
    · obtain ⟨index, attempt, write, accepts⟩ := accepted
      refine ⟨index, attempt, write, accepts, ?_⟩
      intro old wasRead
      obtain ⟨new, after, makes⟩ := sound.makes lawful room accepts
      have before : api.spec? election.server = some old := by
        rw [LeaseApi.spec?, ← sound.read_eq_stored lawful accepts, wasRead]
      refine (makes.takenOver old before ?_).1
      intro ours
      rw [LeaseApi.holder?, LeaseApi.holder?, before, after] at changes
      exact changes (makes.holder.trans ours.symm)
    · rw [LeaseApi.holder?, LeaseApi.spec?, stored_step lawful accepted] at changes
      exact absurd rfl changes

end Lawful

/-- Whatever the electors, whenever they read and whenever their writes arrive: they lead by accepted
writes only, one of those at most who read the same version or the same absence of the lease, and
every step is safe. -/
theorem run_isSafe (lawful : api.Lawful) {server : State} {steps : List ElectionStep}
    (room : api.HasRoom server steps.length) :
    (∀ index, (run api server steps).Leads index ↔ ∃ earlier step attempt write,
      earlier ++ [step] <+: steps ∧
        Accepts api (run api server earlier) step index attempt write) ∧
    (∀ i j first second, (run api server steps).LeadsBy i first →
      (run api server steps).LeadsBy j second → first.readVersion = second.readVersion → i = j) ∧
    ∀ earlier step, earlier ++ [step] <+: steps → SafeStep api (run api server earlier) step := by
  refine ⟨leads_run_iff server steps, (sound_run lawful server steps).single, ?_⟩
  intro earlier step isIn
  refine (sound_run lawful server earlier).safeStep lawful (hasRoom_run lawful ?_) step
  have shorter : earlier.length + 1 ≤ steps.length := by simpa using isIn.length_le
  obtain ⟨lower, upper⟩ := room
  exact ⟨lower, by omega⟩

theorem run_isSafe_race :
    let store : LeaseStore :=
      { spec? := some (some { holder := some "a", renewed := some (.ofSeconds 0) }), version := 7 }
    let steps : List ElectionStep :=
      [.read ⟨"b"⟩ (.ofSeconds 20), .read ⟨"c"⟩ (.ofSeconds 21), .write 1, .write 0]
    ((∀ index, (run LeaseStore.api store steps).Leads index ↔ ∃ earlier step attempt write,
        earlier ++ [step] <+: steps ∧
          Accepts LeaseStore.api (run LeaseStore.api store earlier) step index attempt write) ∧
      (∀ i j first second, (run LeaseStore.api store steps).LeadsBy i first →
        (run LeaseStore.api store steps).LeadsBy j second →
        first.readVersion = second.readVersion → i = j) ∧
      ∀ earlier step, earlier ++ [step] <+: steps →
        SafeStep LeaseStore.api (run LeaseStore.api store earlier) step) ∧
      (run LeaseStore.api store steps).attempts.map (·.result) = [some false, some true] ∧
      LeaseStore.api.holder? (run LeaseStore.api store steps).server = some "c" :=
  ⟨run_isSafe LeaseStore.lawful ⟨by decide, by decide⟩, by decide +kernel, by decide +kernel⟩

end Election

end IngressMeter
