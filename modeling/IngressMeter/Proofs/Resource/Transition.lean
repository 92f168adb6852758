import IngressMeter.Proofs.Resource.Condition
import Mathlib.Data.List.DropRight
import Mathlib.Data.List.Induction
import Mathlib.Data.List.Nodup

/-!
Since when a condition holds. Of all that is said of the conditions of an object, the last word on a
type stands, and its time is that of the first word of the series that has said so without a break;
if the series reaches back to a condition that said so before, the condition keeps the time it had.
-/

namespace IngressMeter

structure ConditionUpdate where
  type : ConditionType
  status : ConditionStatus
  reason : String
  message : String
  now : Timestamp

namespace Condition

def types (conditions : List Condition) : List ConditionType := conditions.map (·.type)

theorem types_cons (condition : Condition) (rest : List Condition) :
    types (condition :: rest) = condition.type :: types rest := rfl

def update (conditions : List Condition) (update : ConditionUpdate) : List Condition :=
  set conditions update.type update.status update.reason update.message update.now

def updateAll (initial : List Condition) (updates : List ConditionUpdate) : List Condition :=
  updates.foldl update initial

/-- Since when a status holds that the updates of one type end with, where `before` is the condition
of that type in front of them. -/
def since (before : Option Condition) (updates : List ConditionUpdate) (status : ConditionStatus) :
    Option Timestamp :=
  let began := (updates.rtakeWhile (·.status = status)).head?.map (·.now)
  match before with
  | none => began
  | some first =>
    if first.status = status ∧ ∀ update ∈ updates, update.status = status then first.lastTransition
    else began

section Since

variable {before : Option Condition} {updates : List ConditionUpdate} {last next : ConditionUpdate}

theorem since_singleton (before : Option Condition) (next : ConditionUpdate) :
    since before [next] next.status =
      match before with
      | none => some next.now
      | some first =>
        if first.status = next.status then first.lastTransition else some next.now := by
  cases before with
  | none => simp [since, List.rtakeWhile]
  | some first => simp [since, List.rtakeWhile]

theorem since_concat_of_same (isLast : updates.getLast? = some last)
    (same : last.status = next.status) :
    since before (updates ++ [next]) next.status = since before updates last.status := by
  obtain ⟨earlier, rfl⟩ := List.getLast?_eq_some_iff.mp isLast
  obtain ⟨first, isFirst⟩ : ∃ first,
      ((earlier ++ [last]).rtakeWhile (·.status = last.status)).head? = some first := by
    rw [← Option.isSome_iff_exists, List.rtakeWhile_concat_pos _ _ _ (by simp)]
    simp
  have began : ((earlier ++ [last] ++ [next]).rtakeWhile (·.status = last.status)).head? =
      some first := by
    rw [List.rtakeWhile_concat_pos _ _ _ (by simp [same]), List.head?_append, isFirst]
    rfl
  have reaches : (∀ update ∈ earlier ++ [last] ++ [next], update.status = last.status) ↔
      ∀ update ∈ earlier ++ [last], update.status = last.status := by
    simp only [List.mem_append, List.mem_singleton, or_imp, forall_and, forall_eq, same, and_true]
  rw [← same]
  cases before with
  | none => simp only [since, began, isFirst]
  | some initial => simp only [since, began, isFirst, reaches]

/-- An update that says something else begins a series. -/
theorem since_concat_of_other (isLast : updates.getLast? = some last)
    (other : last.status ≠ next.status) :
    since before (updates ++ [next]) next.status = some next.now := by
  obtain ⟨earlier, rfl⟩ := List.getLast?_eq_some_iff.mp isLast
  have alone : (earlier ++ [last] ++ [next]).rtakeWhile (·.status = next.status) = [next] := by
    rw [List.rtakeWhile_concat_pos _ _ _ (by simp), List.rtakeWhile_concat_neg _ _ _ (by simpa),
      List.nil_append]
  have broken : ¬∀ update ∈ earlier ++ [last] ++ [next], update.status = next.status :=
    fun unbroken => other (unbroken last (by simp))
  cases before with
  | none => simp only [since, alone, List.head?_cons, Option.map_some]
  | some first =>
      simp only [since, alone, broken, and_false, if_false, List.head?_cons, Option.map_some]

end Since

section Types

theorem types_update (conditions : List Condition) (next : ConditionUpdate) :
    types (update conditions next) =
      if next.type ∈ types conditions then types conditions
      else types conditions ++ [next.type] := by
  rw [update]
  induction conditions with
  | nil => simp [set, types]
  | cons condition rest ih =>
      rw [set, types_cons]
      simp only [List.mem_cons]
      by_cases here : condition.type = next.type
      · rw [if_pos here, if_pos (Or.inl here.symm), types_cons, change]
      · rw [if_neg here, types_cons, ih]
        by_cases later : next.type ∈ types rest
        · rw [if_pos later, if_pos (Or.inr later)]
        · rw [if_neg later, if_neg (by simp [Ne.symm here, later]), List.cons_append]

theorem updateAll_concat (initial : List Condition) (updates : List ConditionUpdate)
    (next : ConditionUpdate) :
    updateAll initial (updates ++ [next]) = update (updateAll initial updates) next :=
  List.foldl_concat _ _ _ _

theorem eraseDups_concat (types : List ConditionType) (next : ConditionType) :
    (types ++ [next]).eraseDups =
      if next ∈ types then types.eraseDups else types.eraseDups ++ [next] := by
  rw [List.eraseDups_append]
  by_cases before : next ∈ types
  · have nothing : [next].removeAll types = [] := by simp [List.removeAll, before]
    rw [nothing, if_pos before, List.eraseDups_nil, List.append_nil]
  · have alone : [next].removeAll types = [next] := by simp [List.removeAll, before]
    rw [alone, if_neg before]
    rfl

theorem types_updateAll (initial : List Condition) (updates : List ConditionUpdate) :
    types (updateAll initial updates) =
      types initial ++
        ((updates.map (·.type)).filter fun type => type ∉ types initial).eraseDups := by
  induction updates using List.reverseRecOn with
  | nil => simp [updateAll]
  | append_singleton updates next ih =>
      rw [updateAll_concat, types_update, ih, List.map_append, List.map_singleton,
        List.filter_append]
      by_cases initially : next.type ∈ types initial
      · simp [initially]
      · have isNew : [next.type].filter (fun type => type ∉ types initial) = [next.type] := by
          simp [initially]
        rw [isNew, eraseDups_concat]
        by_cases spokenOf : next.type ∈ updates.map (·.type)
        · simp [initially, spokenOf]
        · simp [initially, spokenOf]

theorem nodup_types_updateAll {initial : List Condition} (distinct : (types initial).Nodup)
    (updates : List ConditionUpdate) : (types (updateAll initial updates)).Nodup := by
  induction updates using List.reverseRecOn with
  | nil => exact distinct
  | append_singleton updates next ih =>
      rw [updateAll_concat, types_update]
      split
      · exact ih
      · rename_i new
        rw [← List.concat_eq_append]
        exact List.Nodup.concat new ih

theorem mem_iff_find? {conditions : List Condition} (distinct : (types conditions).Nodup)
    (condition : Condition) :
    condition ∈ conditions ↔ find? conditions condition.type = some condition := by
  constructor
  · intro isIn
    obtain ⟨found, isFound⟩ : ∃ found, find? conditions condition.type = some found := by
      rw [← Option.isSome_iff_exists, find?, List.find?_isSome]
      exact ⟨condition, isIn, by simp⟩
    have sameType : found.type = condition.type := by simpa using List.find?_some isFound
    rw [isFound, List.inj_on_of_nodup_map distinct (List.mem_of_find?_eq_some isFound) isIn sameType]
  · exact List.mem_of_find?_eq_some

end Types

theorem filter_update (conditions : List Condition) (next : ConditionUpdate) :
    (update conditions next).filter (·.type ≠ next.type) =
      conditions.filter (·.type ≠ next.type) := by
  rw [update]
  induction conditions with
  | nil => simp [set]
  | cons condition rest ih =>
      rw [set]
      by_cases here : condition.type = next.type
      · simp [change, here]
      · simp only [if_neg here, List.filter_cons, ih]

theorem find?_updateAll (initial : List Condition) (updates : List ConditionUpdate)
    (type : ConditionType) :
    find? (updateAll initial updates) type =
      let own := updates.filter (·.type = type)
      match own.getLast? with
      | none => find? initial type
      | some last => some ⟨type, last.status, since (find? initial type) own last.status,
          last.reason, last.message⟩ := by
  induction updates using List.reverseRecOn with
  | nil => rfl
  | append_singleton updates next ih =>
      rw [updateAll_concat, update, find?_set, List.filter_append]
      by_cases here : type = next.type
      · have isOwn : [next].filter (·.type = type) = [next] := by simp [here]
        rw [if_pos here, ← here, ih, isOwn]
        simp only [List.getLast?_concat]
        cases isLast : (updates.filter (·.type = type)).getLast? with
        | none =>
            rw [List.getLast?_eq_none_iff.mp isLast, List.nil_append, since_singleton]
            cases found : find? initial type with
            | none => rfl
            | some first =>
                have sameType : first.type = type := by simpa using List.find?_some found
                simp [change, sameType]
        | some last =>
            by_cases same : last.status = next.status
            · simp [change, since_concat_of_same isLast same, same]
            · simp [change, since_concat_of_other isLast same, same]
      · have isOther : [next].filter (·.type = type) = [] := by simp [Ne.symm here]
        rw [if_neg here, ih, isOther, List.append_nil]

/-- Whatever is said of the conditions in a list with one of each type, the list has one of each
type: first those that it had, in their order, then the new ones. Each update leaves the conditions
of other types as they are. A condition of which nothing was said is what it was; any other says what
was said of it last, and holds since the series of updates began that have said so ever since, or
since the initial condition held if that said so too. -/
theorem updateAll_transitions (initial : List Condition) (distinct : (types initial).Nodup)
    (updates : List ConditionUpdate) :
    let conditions := updateAll initial updates
    (types conditions).Nodup ∧
      types conditions = types initial ++
        ((updates.map (·.type)).filter fun type => type ∉ types initial).eraseDups ∧
      (∀ next, (update conditions next).filter (·.type ≠ next.type) =
        conditions.filter (·.type ≠ next.type)) ∧
      ∀ condition, condition ∈ conditions ↔
        let own := updates.filter (·.type = condition.type)
        match own.getLast? with
        | none => condition ∈ initial
        | some last => condition = ⟨condition.type, last.status,
            since (find? initial condition.type) own last.status, last.reason, last.message⟩ := by
  intro conditions
  have distinctToo : (types conditions).Nodup := nodup_types_updateAll distinct updates
  refine ⟨distinctToo, types_updateAll initial updates, filter_update conditions, ?_⟩
  intro condition
  rw [mem_iff_find? distinctToo, find?_updateAll]
  dsimp only
  cases (updates.filter (·.type = condition.type)).getLast? with
  | none => exact (mem_iff_find? distinct condition).symm
  | some last => rw [Option.some.injEq, eq_comm]

theorem updateAll_transitions_flapping :
    let initial : List Condition := [⟨.targetExists, .true, none, "Found", ""⟩,
      ⟨.ready, .true, some (.ofSeconds 10), "Ready", ""⟩]
    let updates : List ConditionUpdate := [⟨.ready, .false, "NotFound", "gone", .ofSeconds 20⟩,
      ⟨.targetExists, .true, "Found", "again", .ofSeconds 30⟩,
      ⟨.ready, .true, "Ready", "back", .ofSeconds 40⟩,
      ⟨.ready, .true, "Ready", "still", .ofSeconds 50⟩,
      ⟨.configGenerated, .true, "Generated", "", .ofSeconds 60⟩]
    (types initial).Nodup ∧
      types (updateAll initial updates) = [.targetExists, .ready, .configGenerated] ∧
      ⟨.targetExists, .true, none, "Found", "again"⟩ ∈ updateAll initial updates ∧
      ⟨.ready, .true, some (.ofSeconds 40), "Ready", "still"⟩ ∈ updateAll initial updates := by
  intro initial updates
  have distinct : (types initial).Nodup := by decide
  obtain ⟨_, order, _, known⟩ := updateAll_transitions initial distinct updates
  exact ⟨distinct, order.trans (by decide), (known _).mpr rfl, (known _).mpr rfl⟩

end Condition

end IngressMeter
