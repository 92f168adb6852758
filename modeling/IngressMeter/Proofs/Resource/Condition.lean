import IngressMeter.Resource.Condition

/-!
Setting a condition changes what is found under its type and nothing else. A condition that already
says the same stays as it is, with its time.
-/

namespace IngressMeter.Condition

section Set

variable (conditions : List Condition) (type : ConditionType) (status : ConditionStatus)
  (reason message : String) (now : Timestamp)

theorem find?_set (asked : ConditionType) :
    find? (set conditions type status reason message now) asked =
      if asked = type then
        some (match find? conditions type with
          | some found => found.change status reason message now
          | none => ⟨type, status, some now, reason, message⟩)
      else find? conditions asked := by
  induction conditions with
  | nil =>
      by_cases same : asked = type
      · simp [set, find?, same]
      · simp [set, find?, same, Ne.symm same]
  | cons condition rest ih =>
      rw [set]
      by_cases here : condition.type = type
      · rw [if_pos here]
        by_cases same : asked = type
        · simp [find?, change, here, same]
        · simp [find?, change, here, same, Ne.symm same]
      · rw [if_neg here]
        by_cases first : condition.type = asked
        · have other : asked ≠ type := fun same => here (first.trans same)
          simp [find?, first, other]
        · simp only [find?, List.find?_cons, first, here, decide_false] at ih ⊢
          exact ih

theorem set_ne_nil : set conditions type status reason message now ≠ [] := by
  cases conditions with
  | nil => exact List.cons_ne_nil _ _
  | cons condition rest =>
      rw [set]
      split <;> exact List.cons_ne_nil _ _

def States (conditions : List Condition) (type : ConditionType) (status : ConditionStatus)
    (reason message : String) : Prop :=
  ∃ found, find? conditions type = some found ∧ found.status = status ∧ found.reason = reason ∧
    found.message = message

theorem states_set :
    States (set conditions type status reason message now) type status reason message := by
  have found := find?_set conditions type status reason message now type
  rw [if_pos rfl] at found
  refine ⟨_, found, ?_⟩
  cases find? conditions type <;> exact ⟨rfl, rfl, rfl⟩

variable {conditions type status reason message}

theorem States.set_other {other : ConditionType} {otherStatus : ConditionStatus}
    {otherReason otherMessage : String}
    (stated : States conditions other otherStatus otherReason otherMessage) (different : other ≠ type) :
    States (set conditions type status reason message now) other otherStatus otherReason
      otherMessage := by
  obtain ⟨found, isFound, same⟩ := stated
  refine ⟨found, ?_, same⟩
  rw [find?_set, if_neg different, isFound]

theorem States.set_eq_self (stated : States conditions type status reason message) :
    set conditions type status reason message now = conditions := by
  induction conditions with
  | nil =>
      obtain ⟨found, isFound, _⟩ := stated
      simp [find?] at isFound
  | cons condition rest ih =>
      obtain ⟨found, isFound, same⟩ := stated
      rw [set]
      by_cases here : condition.type = type
      · rw [if_pos here]
        obtain rfl : condition = found := by simpa [find?, here] using isFound
        obtain ⟨rfl, rfl, rfl⟩ := same
        simp [change]
      · rw [if_neg here]
        have later : States rest type status reason message :=
          ⟨found, by simpa [find?, here] using isFound, same⟩
        rw [ih later]

end Set

end IngressMeter.Condition
