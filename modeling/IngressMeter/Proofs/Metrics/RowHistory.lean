import IngressMeter.Proofs.Decimal.Order
import IngressMeter.Proofs.Metrics.Ranking
import Mathlib.Data.List.DropRight

/-!
What the rows of endpoints hold after any series of requests and removals. The row of an endpoint is
what its requests add up to since its router was removed last, and rows are numbered in the order of
the first of these requests.
-/

namespace IngressMeter

structure CountedRequest where
  seconds : Float
  status : Nat

inductive StatsStep where
  | record (key : EndpointKey) (request : CountedRequest)
  | removeRouter (router : String)

namespace StatsStep

def keepsRouter (router : String) : StatsStep → Bool
  | record .. => true
  | removeRouter removed => removed ≠ router

def requestOf? (key : EndpointKey) : StatsStep → Option CountedRequest
  | record other request => if other = key then some request else none
  | removeRouter _ => none

/-- The requests of an endpoint since its router was removed last. -/
def requestsSince (steps : List StatsStep) (key : EndpointKey) : List CountedRequest :=
  (steps.rtakeWhile (·.keepsRouter key.router)).filterMap (·.requestOf? key)

def began? (steps : List StatsStep) (key : EndpointKey) : Option Nat :=
  ((steps.rtakeWhile (·.keepsRouter key.router)).findIdx? (·.requestOf? key |>.isSome)).map
    ((steps.rdropWhile (·.keepsRouter key.router)).length + ·)

section History

variable (steps : List StatsStep) (key : EndpointKey) (step : StatsStep)

theorem requestsSince_concat :
    requestsSince (steps ++ [step]) key =
      if step.keepsRouter key.router then
        requestsSince steps key ++ (step.requestOf? key).toList
      else [] := by
  by_cases keeps : step.keepsRouter key.router = true
  · rw [requestsSince, List.rtakeWhile_concat_pos _ _ _ keeps, List.filterMap_append, if_pos keeps]
    cases found : step.requestOf? key <;> simp [requestsSince, found]
  · rw [requestsSince, List.rtakeWhile_concat_neg _ _ _ keeps, if_neg keeps]
    rfl

theorem began?_concat :
    began? (steps ++ [step]) key =
      if step.keepsRouter key.router then
        (began? steps key).or ((step.requestOf? key).map fun _ => steps.length)
      else none := by
  by_cases keeps : step.keepsRouter key.router = true
  · have whole : (steps.rdropWhile (·.keepsRouter key.router)).length +
        (steps.rtakeWhile (·.keepsRouter key.router)).length = steps.length := by
      rw [← List.length_append, List.rdropWhile_append_rtakeWhile]
    rw [began?, List.rdropWhile_concat_pos _ _ _ keeps, List.rtakeWhile_concat_pos _ _ _ keeps,
      List.findIdx?_append, if_pos keeps, began?, ← whole]
    cases found : step.requestOf? key <;>
      cases (steps.rtakeWhile (·.keepsRouter key.router)).findIdx? (·.requestOf? key |>.isSome) <;>
      simp [found]
  · rw [began?, List.rtakeWhile_concat_neg _ _ _ keeps, if_neg keeps]
    rfl

def BeganBefore (first second : EndpointKey) : Prop :=
  ∀ place ∈ began? steps first, ∀ later ∈ began? steps second, place < later

end History

end StatsStep

def longest (durations : List Float) : Float :=
  durations.foldl (fun longest seconds => if longest < seconds then seconds else longest) 0

theorem longest_concat (durations : List Float) (seconds : Float) :
    longest (durations ++ [seconds]) =
      if longest durations < seconds then seconds else longest durations :=
  List.foldl_concat _ _ _ _

theorem longest_mem (durations : List Float) : longest durations ∈ 0 :: durations := by
  induction durations using List.reverseRecOn with
  | nil => exact List.mem_cons_self
  | append_singleton durations seconds ih =>
      rw [longest_concat, ← List.cons_append]
      split
      · exact List.mem_append_right _ List.mem_cons_self
      · exact List.mem_append_left _ ih

theorem not_longest_lt (durations : List Float) :
    ∀ seconds ∈ 0 :: durations, ¬longest durations < seconds := by
  induction durations using List.reverseRecOn with
  | nil =>
      intro seconds isZero
      rw [List.mem_singleton.mp isZero]
      decide
  | append_singleton durations last ih =>
      intro seconds isIn
      rw [longest_concat]
      rw [← List.cons_append, List.mem_append, List.mem_singleton] at isIn
      split
      · rename_i longer
        rcases isIn with before | rfl
        · exact fun less => ih seconds before (Binary.lt_trans longer less)
        · exact Binary.lt_irrefl _
      · rename_i notLonger
        rcases isIn with before | rfl
        · exact ih seconds before
        · exact notLonger

structure EndpointStat.SumsUp (stat : EndpointStat) (requests : List CountedRequest) : Prop where
  total : stat.totalRequests = requests.length
  client : stat.clientErrorCount =
    requests.countP fun request => 400 ≤ request.status ∧ request.status ≤ 499
  server : stat.serverErrorCount = requests.countP fun request => 500 ≤ request.status
  errors : stat.errorCount = stat.clientErrorCount + stat.serverErrorCount
  duration : stat.totalDuration = (requests.map (·.seconds)).foldl (· + ·) 0
  longest : stat.maxDuration = longest (requests.map (·.seconds))

namespace EndpointStat

theorem sumsUp_start (seq : Nat) : (start seq).SumsUp [] :=
  ⟨rfl, rfl, rfl, rfl, rfl, rfl⟩

variable {stat : EndpointStat} {requests : List CountedRequest}

theorem SumsUp.update (sums : stat.SumsUp requests) (request : CountedRequest) :
    (stat.update request.seconds request.status).SumsUp (requests ++ [request]) where
  total := by simp [EndpointStat.update, sums.total]
  client := by
    rw [List.countP_append, List.countP_singleton, ← sums.client]
    simp only [EndpointStat.update, isClientError]
    grind
  server := by
    rw [List.countP_append, List.countP_singleton, ← sums.server]
    simp only [EndpointStat.update, isServerError]
    grind
  errors := by
    have counted := sums.errors
    simp only [EndpointStat.update, isClientError, isServerError]
    grind
  duration := by
    rw [List.map_append, List.map_singleton, List.foldl_concat, ← sums.duration]
    rfl
  longest := by
    rw [List.map_append, List.map_singleton, longest_concat, ← sums.longest]
    rfl

theorem SumsUp.errors_le (sums : stat.SumsUp requests) : stat.errorCount ≤ stat.totalRequests := by
  have apart : requests.countP (fun request => 500 ≤ request.status) ≤
      requests.countP fun request => ¬decide (400 ≤ request.status ∧ request.status ≤ 499) := by
    refine List.countP_mono_left fun request _ isServer => ?_
    simp only [decide_eq_true_eq] at isServer ⊢
    omega
  rw [sums.errors, sums.client, sums.server, sums.total, List.length_eq_countP_add_countP]
  exact Nat.add_le_add_left apart _

end EndpointStat

namespace StatsStep

variable {steps : List StatsStep} {key : EndpointKey}

theorem began?_eq_none : began? steps key = none ↔ requestsSince steps key = [] := by
  simp [began?, requestsSince]

theorem began?_lt {place : Nat} (isBegin : began? steps key = some place) :
    place < steps.length := by
  induction steps using List.reverseRecOn with
  | nil => simp [began?] at isBegin
  | append_singleton steps last ih =>
      rw [began?_concat] at isBegin
      rw [List.length_append, List.length_singleton]
      split at isBegin
      · cases earlier : began? steps key with
        | some first =>
            rw [earlier, Option.some_or] at isBegin
            exact Nat.lt_succ_of_lt (ih (earlier.trans isBegin))
        | none =>
            rw [earlier, Option.none_or, Option.map_eq_some_iff] at isBegin
            obtain ⟨_, _, rfl⟩ := isBegin
            exact Nat.lt_succ_self _
      · contradiction

variable (steps key)

theorem requestsSince_record (other : EndpointKey) (request : CountedRequest) :
    requestsSince (steps ++ [record other request]) key =
      requestsSince steps key ++ if other = key then [request] else [] := by
  rw [requestsSince_concat, keepsRouter, if_pos rfl, requestOf?]
  split <;> rfl

theorem began?_record (other : EndpointKey) (request : CountedRequest) :
    began? (steps ++ [record other request]) key =
      (began? steps key).or (if other = key then some steps.length else none) := by
  rw [began?_concat, keepsRouter, if_pos rfl, requestOf?]
  split <;> rfl

theorem requestsSince_removeRouter (router : String) :
    requestsSince (steps ++ [removeRouter router]) key =
      if key.router = router then [] else requestsSince steps key := by
  rw [requestsSince_concat, requestOf?, Option.toList_none, List.append_nil, keepsRouter]
  by_cases own : key.router = router
  · simp [own]
  · simp [own, Ne.symm own]

theorem began?_removeRouter (router : String) :
    began? (steps ++ [removeRouter router]) key =
      if key.router = router then none else began? steps key := by
  rw [began?_concat, requestOf?, Option.map_none, Option.or_none, keepsRouter]
  by_cases own : key.router = router
  · simp [own]
  · simp [own, Ne.symm own]

end StatsStep

namespace EndpointStats

def step (stats : EndpointStats) : StatsStep → EndpointStats
  | .record key request => (stats.record key request.seconds request.status).1
  | .removeRouter router => stats.removeRouter router

def run (steps : List StatsStep) : EndpointStats := steps.foldl step {}

theorem run_concat (steps : List StatsStep) (last : StatsStep) :
    run (steps ++ [last]) = (run steps).step last :=
  List.foldl_concat _ _ _ _

structure Recounts (stats : EndpointStats) (steps : List StatsStep) : Prop where
  sound : stats.Sound
  numbered : stats.Numbered
  present : ∀ key, key ∈ stats.keys ↔ StatsStep.requestsSince steps key ≠ []
  sums : ∀ key stat, stats.get? key = some stat →
    stat.SumsUp (StatsStep.requestsSince steps key)
  began : stats.keys.Pairwise (StatsStep.BeganBefore steps)

namespace Recounts

variable {stats : EndpointStats} {steps : List StatsStep}

theorem requestsSince_eq_nil (recounts : stats.Recounts steps) {key : EndpointKey}
    (missing : key ∉ stats.keys) : StatsStep.requestsSince steps key = [] := by
  by_contra asked
  exact missing ((recounts.present key).mpr asked)

theorem exists_began (recounts : stats.Recounts steps) {key : EndpointKey}
    (isRow : key ∈ stats.keys) : ∃ place, StatsStep.began? steps key = some place :=
  Option.ne_none_iff_exists'.mp
    (StatsStep.began?_eq_none.not.mpr ((recounts.present key).mp isRow))

theorem rowAfter_sumsUp (recounts : stats.Recounts steps) (key : EndpointKey)
    (request : CountedRequest) :
    (stats.rowAfter key request.seconds request.status).SumsUp
      (StatsStep.requestsSince steps key ++ [request]) := by
  refine EndpointStat.SumsUp.update ?_ request
  cases found : stats.get? key with
  | some stat => exact recounts.sums key stat found
  | none =>
      rw [recounts.requestsSince_eq_nil (get?_eq_none.mp found)]
      exact EndpointStat.sumsUp_start _

theorem began_record (recounts : stats.Recounts steps) (key : EndpointKey)
    (request : CountedRequest) :
    (stats.record key request.seconds request.status).1.keys.Pairwise
      (StatsStep.BeganBefore (steps ++ [.record key request])) := by
  -- A row that stands keeps the place of its first request, and a new one takes the last place.
  have standing : ∀ other ∈ stats.keys,
      StatsStep.began? (steps ++ [.record key request]) other = StatsStep.began? steps other := by
    intro other isRow
    obtain ⟨place, isPlace⟩ := recounts.exists_began isRow
    rw [StatsStep.began?_record, isPlace, Option.some_or]
  have before : stats.keys.Pairwise (StatsStep.BeganBefore (steps ++ [.record key request])) :=
    recounts.began.imp_of_mem fun isFirst isSecond began => by
      rwa [StatsStep.BeganBefore, standing _ isFirst, standing _ isSecond]
  rw [keys_record]
  split
  · exact before
  · rename_i isNew
    have unbegun : StatsStep.began? steps key = none :=
      StatsStep.began?_eq_none.mpr (recounts.requestsSince_eq_nil isNew)
    rw [List.pairwise_append]
    refine ⟨before, List.pairwise_singleton _ _, ?_⟩
    intro first isFirst second isSecond place isPlace later isLater
    rw [List.mem_singleton.mp isSecond, StatsStep.began?_record, unbegun, if_pos rfl,
      Option.none_or, Option.mem_some_iff] at isLater
    rw [standing first isFirst] at isPlace
    exact isLater ▸ StatsStep.began?_lt isPlace

theorem record (recounts : stats.Recounts steps) (key : EndpointKey) (request : CountedRequest) :
    (stats.record key request.seconds request.status).1.Recounts
      (steps ++ [.record key request]) where
  sound := recounts.sound.record _ _ _
  numbered := recounts.numbered.record _ _ _ recounts.sound
  present other := by
    rw [mem_keys_record, recounts.present, StatsStep.requestsSince_record]
    by_cases here : key = other
    · simp [here]
    · simp [here, Ne.symm here]
  sums other stat found := by
    rw [get?_record] at found
    rw [StatsStep.requestsSince_record]
    split at found
    · rename_i here
      subst here
      rw [Option.some.injEq] at found
      rw [if_pos rfl, ← found]
      exact recounts.rowAfter_sumsUp other request
    · rename_i different
      rw [if_neg (Ne.symm different), List.append_nil]
      exact recounts.sums other stat found
  began := recounts.began_record key request

theorem removeRouter (recounts : stats.Recounts steps) (router : String) :
    (stats.removeRouter router).Recounts (steps ++ [.removeRouter router]) where
  sound := recounts.sound.removeRouter router
  numbered := recounts.numbered.removeRouter router
  present key := by
    rw [keys_removeRouter, List.mem_filter, recounts.present,
      StatsStep.requestsSince_removeRouter]
    by_cases own : key.router = router <;> simp [own]
  sums key stat found := by
    have isRow : key ∈ (stats.removeRouter router).keys := by
      by_contra missing
      rw [get?_eq_none.mpr missing] at found
      contradiction
    rw [keys_removeRouter, List.mem_filter, decide_eq_true_eq] at isRow
    rw [recounts.sound.get?_removeRouter isRow.2] at found
    rw [StatsStep.requestsSince_removeRouter, if_neg isRow.2]
    exact recounts.sums key stat found
  began := by
    rw [keys_removeRouter]
    refine (recounts.began.filter _).imp ?_
    intro first second began place isPlace later isLater
    rw [StatsStep.began?_removeRouter, Option.mem_ite_none_left] at isPlace isLater
    exact began place isPlace.2 later isLater.2

/-- Of two rows the one with the smaller number began first. -/
theorem seq_lt_iff (recounts : stats.Recounts steps) {first second : EndpointKey × EndpointStat}
    (isFirst : first ∈ stats.rows) (isSecond : second ∈ stats.rows) {place later : Nat}
    (isPlace : StatsStep.began? steps first.1 = some place)
    (isLater : StatsStep.began? steps second.1 = some later) :
    first.2.seq < second.2.seq ↔ place < later := by
  -- Rows stand in the order of their numbers as well as of their first requests.
  let agree (one other : EndpointKey × EndpointStat) : Prop :=
    ∀ p ∈ StatsStep.began? steps one.1, ∀ q ∈ StatsStep.began? steps other.1,
      (one.2.seq < other.2.seq ↔ p < q) ∧ (other.2.seq < one.2.seq ↔ q < p)
  have symmetric : Std.Symm agree := ⟨fun one other same q isQ p isP => (same p isP q isQ).symm⟩
  have itself : ∀ row ∈ stats.rows, agree row row := by
    intro row _ p isP q isQ
    rw [Option.mem_unique isP isQ]
    simp
  have inOrder : stats.rows.Pairwise agree := by
    have rising := List.pairwise_map.mp recounts.numbered.rising
    have began := List.pairwise_map.mp recounts.began
    refine (rising.and began).imp ?_
    rintro one other ⟨number, before⟩ p isP q isQ
    have earlier := before p isP q isQ
    omega
  exact (inOrder.forall_of_forall itself isFirst isSecond place isPlace later isLater).1

end Recounts

theorem run_recounts (steps : List StatsStep) : (run steps).Recounts steps := by
  induction steps using List.reverseRecOn with
  | nil => exact ⟨sound_empty, numbered_empty, by simp [run, keys, StatsStep.requestsSince],
      by simp [run, get?], List.Pairwise.nil⟩
  | append_singleton steps last ih =>
      rw [run_concat]
      cases last with
      | record key request => exact ih.record key request
      | removeRouter router => exact ih.removeRouter router

/-- After any requests and removals a row stands for each endpoint that was requested since its
router was removed last. It counts these requests, its durations are their sum and the longest of
them, and the rows are numbered in the order of the first of them. A request changes no other row
and removing a router changes no row of another router. -/
theorem run_rows_exact (steps : List StatsStep) :
    (run steps).keys.Nodup ∧
      (∀ key, ((run steps).get? key).isSome ↔ StatsStep.requestsSince steps key ≠ []) ∧
      (∀ row ∈ (run steps).rows, (run steps).get? row.1 = some row.2 ∧
        row.2.SumsUp (StatsStep.requestsSince steps row.1) ∧
        row.2.errorCount ≤ row.2.totalRequests ∧
        row.2.maxDuration ∈ 0 :: (StatsStep.requestsSince steps row.1).map (·.seconds) ∧
        ∀ seconds ∈ 0 :: (StatsStep.requestsSince steps row.1).map (·.seconds),
          ¬row.2.maxDuration < seconds) ∧
      ((run steps).rows.map (·.2.seq)).Nodup ∧
      (∀ first ∈ (run steps).rows, ∀ second ∈ (run steps).rows,
        ∃ place later, StatsStep.began? steps first.1 = some place ∧
          StatsStep.began? steps second.1 = some later ∧
          (first.2.seq < second.2.seq ↔ place < later)) ∧
      (∀ key request other, other ≠ key →
        (run (steps ++ [.record key request])).get? other = (run steps).get? other) ∧
      ∀ router key, key.router ≠ router →
        (run (steps ++ [.removeRouter router])).get? key = (run steps).get? key := by
  have recounts := run_recounts steps
  refine ⟨recounts.sound.distinct, ?present, ?sums, ?numbers, ?order, ?recorded, ?removed⟩
  case present =>
    intro key
    rw [← recounts.present, Option.isSome_iff_ne_none, Ne, get?_eq_none, not_not]
  case sums =>
    intro row isRow
    have found := Entries.lookup_of_mem recounts.sound.distinct isRow
    have sums := recounts.sums row.1 row.2 found
    refine ⟨found, sums, sums.errors_le, ?_⟩
    rw [sums.longest]
    exact ⟨longest_mem _, not_longest_lt _⟩
  case numbers => exact recounts.numbered.rising.imp Nat.ne_of_lt
  case order =>
    intro first isFirst second isSecond
    obtain ⟨place, isPlace⟩ := recounts.exists_began (List.mem_map_of_mem isFirst)
    obtain ⟨later, isLater⟩ := recounts.exists_began (List.mem_map_of_mem isSecond)
    exact ⟨place, later, isPlace, isLater,
      recounts.seq_lt_iff isFirst isSecond isPlace isLater⟩
  case recorded =>
    intro key request other different
    rw [run_concat, step, get?_record, if_neg different]
  case removed =>
    intro router key different
    rw [run_concat, step, recounts.sound.get?_removeRouter different]

end EndpointStats

end IngressMeter
