import IngressMeter.Path.Segment
import Mathlib.Data.List.Chain
import Mathlib.Logic.Function.Iterate

/-!
Passes over a path. Of neighbouring segments that fit, one pass replaces every second, so that no two
neighbours that fit are left; the next pass replaces the others. Hence two passes do what replacing
each segment on its own does, and further ones change nothing.
-/

namespace IngressMeter.Path

def IsSegment (segment : List Char) : Prop := '/' ∉ segment ∧ '?' ∉ segment

instance (segment : List Char) : Decidable (IsSegment segment) :=
  inferInstanceAs (Decidable ('/' ∉ segment ∧ '?' ∉ segment))

def behindSlashes (segments : List (List Char)) : List Char := segments.flatMap ('/' :: ·)

@[simp] theorem behindSlashes_nil : behindSlashes [] = [] := rfl

@[simp] theorem behindSlashes_cons (segment : List Char) (segments : List (List Char)) :
    behindSlashes (segment :: segments) = '/' :: (segment ++ behindSlashes segments) := rfl

/-- Whether a rule takes just the segments that fit, up to the delimiter behind them, and would not
take its own mark. -/
structure SegmentRule.Recognizes (rule : SegmentRule) (fits : List Char → Bool) : Prop where
  length? : ∀ segment rest, IsSegment segment → endsSegment rest = true →
    rule.length? (segment ++ rest) = if fits segment then some segment.length else none
  isSegment : IsSegment rule.mark
  unfit : fits rule.mark = false

section Pass

variable (rule : SegmentRule)

def pass (path : List Char) : List Char := (replacePass rule 0 path).1

theorem replacePass_skip (skip : Nat) (path : List Char) :
    replacePass rule skip path = replacePass rule 0 (path.drop skip) := by
  induction skip generalizing path with
  | zero => rfl
  | succ skip ih =>
      cases path with
      | nil => simp [replacePass]
      | cons c rest => simp [replacePass, ih rest]

theorem pass_cons_of_ne {c : Char} (rest : List Char) (noSlash : c ≠ '/') :
    pass rule (c :: rest) = c :: pass rule rest := by
  simp [pass, replacePass, noSlash]

theorem pass_append_of_not_mem {segment : List Char} (noSlash : '/' ∉ segment)
    (rest : List Char) : pass rule (segment ++ rest) = segment ++ pass rule rest := by
  induction segment with
  | nil => rfl
  | cons c segment ih =>
      rw [List.mem_cons, not_or] at noSlash
      rw [List.cons_append, pass_cons_of_ne rule _ (Ne.symm noSlash.1), ih noSlash.2]
      rfl

theorem changed_append_of_not_mem {segment : List Char} (noSlash : '/' ∉ segment)
    (rest : List Char) :
    (replacePass rule 0 (segment ++ rest)).2 = (replacePass rule 0 rest).2 := by
  induction segment with
  | nil => rfl
  | cons c segment ih =>
      rw [List.mem_cons, not_or] at noSlash
      rw [← ih noSlash.2]
      simp [replacePass, Ne.symm noSlash.1]

theorem pass_eq_self {path : List Char} (unchanged : (replacePass rule 0 path).2 = false) :
    pass rule path = path := by
  induction path with
  | nil => rfl
  | cons c rest ih =>
      by_cases slash : c = '/'
      · cases found : rule.length? rest with
        | some length => simp [replacePass, slash, found] at unchanged
        | none =>
            simp only [replacePass, slash, found, if_true] at unchanged
            simp only [pass, replacePass, slash, found, if_true]
            exact congrArg _ (ih unchanged)
      · simp only [replacePass, slash, if_false] at unchanged
        rw [pass_cons_of_ne rule rest slash, ih unchanged]

theorem replacePasses_eq_iterate (passes : Nat) (path : List Char) :
    replacePasses rule passes path = (pass rule)^[passes] path := by
  induction passes generalizing path with
  | zero => rfl
  | succ passes ih =>
      rw [replacePasses, Function.iterate_succ_apply]
      cases done : replacePass rule 0 path with
      | mk next changed =>
          have isNext : pass rule path = next := congrArg Prod.fst done
          cases changed with
          | true =>
              rw [isNext]
              exact ih next
          | false =>
              have fixed : pass rule path = path := pass_eq_self rule (congrArg Prod.snd done)
              rw [fixed, Function.iterate_fixed fixed]

end Pass

section Segments

variable (mark : List Char) (fits : List Char → Bool)

/-- What a pass does to segments. The delimiter behind a replaced one is taken up with it, and so the
next one is not looked at. -/
def passSegments : List (List Char) → List (List Char)
  | [] => []
  | [segment] => [if fits segment then mark else segment]
  | segment :: next :: rest =>
    if fits segment then mark :: next :: passSegments rest
    else segment :: passSegments (next :: rest)

def replaceFitting (segment : List Char) : List Char := if fits segment then mark else segment

def Sparse (segments : List (List Char)) : Prop :=
  segments.IsChain fun segment next => fits segment = false ∨ fits next = false

variable {mark fits} (unfit : fits mark = false)

theorem passSegments_of_sparse {segments : List (List Char)} (sparse : Sparse fits segments) :
    passSegments mark fits segments = segments.map (replaceFitting mark fits) := by
  induction segments using passSegments.induct fits with
  | case1 => rfl
  | case2 segment => rfl
  | case3 segment next rest fitting ih =>
      have others : Sparse fits rest := sparse.tail.tail
      have skipped : fits next = false := by
        rcases (List.isChain_cons_cons.mp sparse).1 with unfitting | unfitting
        · rw [fitting] at unfitting
          contradiction
        · exact unfitting
      simp [passSegments, fitting, ih others, replaceFitting, skipped]
  | case4 segment next rest unfitting ih =>
      have others : Sparse fits (next :: rest) := sparse.tail
      simp [passSegments, unfitting, ih others, replaceFitting]

theorem passSegments_of_unfit {segments : List (List Char)}
    (unfits : ∀ segment ∈ segments, fits segment = false) :
    passSegments mark fits segments = segments := by
  have sparse : Sparse fits segments := by
    have pairs : segments.Pairwise fun segment next => fits segment = false ∨ fits next = false :=
      List.pairwise_of_forall_mem_list fun segment isIn _ _ => Or.inl (unfits segment isIn)
    exact pairs.isChain
  have kept : ∀ segment ∈ segments, replaceFitting mark fits segment = segment := by
    intro segment isIn
    simp [replaceFitting, unfits segment isIn]
  rw [passSegments_of_sparse sparse, List.map_congr_left kept, List.map_id']

theorem mem_passSegments {segments : List (List Char)} :
    ∀ segment ∈ passSegments mark fits segments, segment = mark ∨ segment ∈ segments := by
  induction segments using passSegments.induct fits with
  | case1 => simp [passSegments]
  | case2 segment => by_cases fitting : fits segment <;> simp [passSegments, fitting]
  | case3 segment next rest fitting ih =>
      intro found isIn
      rw [passSegments, if_pos fitting, List.mem_cons, List.mem_cons] at isIn
      rcases isIn with isMark | isNext | isIn
      · exact Or.inl isMark
      · simp [isNext]
      · exact (ih found isIn).imp_right fun isIn => by simp [isIn]
  | case4 segment next rest unfitting ih =>
      intro found isIn
      rw [passSegments, if_neg unfitting, List.mem_cons] at isIn
      rcases isIn with isSegment | isIn
      · simp [isSegment]
      · exact (ih found isIn).imp_right (List.mem_cons_of_mem segment)

include unfit

theorem fits_replaceFitting (segment : List Char) :
    fits (replaceFitting mark fits segment) = false := by
  rw [replaceFitting]
  split
  · exact unfit
  · rename_i unfitting
    simpa using unfitting

theorem map_replaceFitting_passSegments (segments : List (List Char)) :
    (passSegments mark fits segments).map (replaceFitting mark fits) =
      segments.map (replaceFitting mark fits) := by
  have again : ∀ segment, replaceFitting mark fits (replaceFitting mark fits segment) =
      replaceFitting mark fits segment := by
    intro segment
    rw [replaceFitting, fits_replaceFitting unfit]
    rfl
  induction segments using passSegments.induct fits with
  | case1 => rfl
  | case2 segment => exact congrArg ([·]) (again segment)
  | case3 segment next rest fitting ih =>
      simp [passSegments, fitting, ih, replaceFitting, unfit]
  | case4 segment next rest unfitting ih =>
      simp only [passSegments, unfitting, Bool.false_eq_true, if_false, List.map_cons, ih]

theorem fits_head?_passSegments {segments : List (List Char)} :
    ∀ head ∈ (passSegments mark fits segments).head?, fits head = false := by
  have replaced : ∀ segment, fits (if fits segment then mark else segment) = false :=
    fits_replaceFitting unfit
  intro head isHead
  cases segments using passSegments.fun_cases fits with
  | case1 => contradiction
  | case2 segment =>
      obtain rfl : _ = head := Option.some.inj isHead
      exact replaced segment
  | case3 segment next rest fitting =>
      rw [passSegments, if_pos fitting] at isHead
      obtain rfl : mark = head := Option.some.inj isHead
      exact unfit
  | case4 segment next rest unfitting =>
      rw [passSegments, if_neg unfitting] at isHead
      obtain rfl : segment = head := Option.some.inj isHead
      simpa using unfitting

theorem sparse_passSegments (segments : List (List Char)) :
    Sparse fits (passSegments mark fits segments) := by
  induction segments using passSegments.induct fits with
  | case1 => exact List.isChain_nil
  | case2 segment => exact List.isChain_singleton _
  | case3 segment next rest fitting ih =>
      rw [passSegments, if_pos fitting]
      -- The next segment was skipped and may fit, but the one behind it has been looked at.
      have skipped : Sparse fits (next :: passSegments mark fits rest) :=
        List.isChain_cons.mpr ⟨fun head isHead =>
          Or.inr (fits_head?_passSegments unfit head isHead), ih⟩
      exact List.isChain_cons_cons.mpr ⟨Or.inl unfit, skipped⟩
  | case4 segment next rest unfitting ih =>
      rw [passSegments, if_neg unfitting]
      have unfits : fits segment = false := by simpa using unfitting
      exact List.isChain_cons.mpr ⟨fun _ _ => Or.inl unfits, ih⟩

theorem passSegments_iterate (segments : List (List Char)) (passes : Nat) :
    (passSegments mark fits)^[passes + 2] segments = segments.map (replaceFitting mark fits) := by
  induction passes with
  | zero =>
      rw [Function.iterate_succ_apply, Function.iterate_one,
        passSegments_of_sparse (sparse_passSegments unfit segments),
        map_replaceFitting_passSegments unfit]
  | succ passes ih =>
      have replaced : ∀ segment ∈ segments.map (replaceFitting mark fits), fits segment = false := by
        simp [fits_replaceFitting unfit]
      rw [Function.iterate_succ_apply', ih, passSegments_of_unfit replaced]

end Segments

/-- What may follow the segments of a path. A query ends with the line. -/
def IsQuery (query : List Char) : Prop := query = [] ∨ ∃ text, query = '?' :: text ∧ '\n' ∉ text

theorem IsQuery.endsSegment {query : List Char} (isQuery : IsQuery query) :
    endsSegment query = true := by
  obtain rfl | ⟨text, rfl, _⟩ := isQuery
  · rfl
  · rfl

theorem endsSegment_behindSlashes (segments : List (List Char)) {rest : List Char}
    (ends : endsSegment rest = true) : endsSegment (behindSlashes segments ++ rest) = true := by
  cases segments with
  | nil => exact ends
  | cons segment segments => rfl

section Rule

variable {rule : SegmentRule} {fits : List Char → Bool} (recognizes : rule.Recognizes fits)

theorem mem_replacePass {skip : Nat} {path : List Char} {c : Char}
    (isIn : c ∈ (replacePass rule skip path).1) : c ∈ path ∨ c ∈ rule.mark := by
  induction skip, path using replacePass.induct rule with
  | case1 => contradiction
  | case2 skip first rest ih => exact (ih isIn).imp_left (List.mem_cons_of_mem first)
  | case3 rest length taken ih =>
      simp only [replacePass, taken, if_true, List.cons_append, List.mem_cons, List.mem_append]
        at isIn
      obtain isSlash | (isMark | isDelimiter) | isLater := isIn
      · simp [isSlash]
      · exact Or.inr isMark
      · exact Or.inl (List.mem_cons_of_mem _ (List.mem_of_mem_drop (List.mem_of_mem_take isDelimiter)))
      · exact (ih isLater).imp_left (List.mem_cons_of_mem _)
  | case4 rest free done changed passed ih =>
      simp only [replacePass, free, passed, if_true, List.mem_cons] at isIn ih
      obtain isSlash | isLater := isIn
      · simp [isSlash]
      · exact (ih isLater).imp_left (List.mem_cons_of_mem _)
  | case5 first rest noSlash done changed passed ih =>
      simp only [replacePass, noSlash, passed, if_false, List.mem_cons] at isIn ih
      obtain isFirst | isLater := isIn
      · simp [isFirst]
      · exact (ih isLater).imp_left (List.mem_cons_of_mem _)

theorem IsQuery.pass {query : List Char} (isQuery : IsQuery query) (noBreak : '\n' ∉ rule.mark) :
    IsQuery (pass rule query) := by
  obtain rfl | ⟨text, rfl, inLine⟩ := isQuery
  · exact Or.inl rfl
  · refine Or.inr ⟨Path.pass rule text, pass_cons_of_ne rule text (by decide), ?_⟩
    intro isIn
    exact (mem_replacePass isIn).elim inLine noBreak

theorem pass_eq_nil {path : List Char} : pass rule path = [] ↔ path = [] := by
  cases path with
  | nil => exact Iff.rfl
  | cons c rest =>
      simp only [pass, replacePass, List.cons_ne_nil, iff_false]
      split
      · split <;> exact List.cons_ne_nil _ _
      · exact List.cons_ne_nil _ _

theorem IsQuery.replaceSegments {query : List Char} (isQuery : IsQuery query)
    (noBreak : '\n' ∉ rule.mark) :
    IsQuery (replaceSegments rule query) ∧ (Path.replaceSegments rule query = [] ↔ query = []) := by
  rw [Path.replaceSegments, replacePasses_eq_iterate]
  induction maxPasses with
  | zero => exact ⟨isQuery, Iff.rfl⟩
  | succ passes ih =>
      rw [Function.iterate_succ_apply']
      exact ⟨ih.1.pass noBreak, pass_eq_nil.trans ih.2⟩

theorem pass_query {query : List Char} (isQuery : IsQuery query) :
    query.take 1 ++ pass rule query.tail = pass rule query := by
  obtain rfl | ⟨text, rfl, _⟩ := isQuery
  · rfl
  · exact (pass_cons_of_ne rule text (by decide)).symm

include recognizes

theorem pass_segment {segment rest : List Char} (isSegment : IsSegment segment)
    (ends : endsSegment rest = true) :
    pass rule ('/' :: (segment ++ rest)) =
      if fits segment then '/' :: (rule.mark ++ rest.take 1 ++ pass rule rest.tail)
      else '/' :: (segment ++ pass rule rest) := by
  have taken := recognizes.length? segment rest isSegment ends
  split
  · rename_i fitting
    rw [if_pos fitting] at taken
    simp [pass, replacePass, taken, replacePass_skip rule (segment.length + 1)]
  · rename_i unfitting
    rw [if_neg unfitting] at taken
    rw [← pass_append_of_not_mem rule isSegment.1]
    simp [pass, replacePass, taken]

theorem pass_segments {segments : List (List Char)} {query : List Char}
    (areSegments : ∀ segment ∈ segments, IsSegment segment) (isQuery : IsQuery query) :
    pass rule (behindSlashes segments ++ query) =
      behindSlashes (passSegments rule.mark fits segments) ++ pass rule query := by
  induction segments using passSegments.induct fits with
  | case1 => rfl
  | case2 segment =>
      have isSegment := areSegments segment List.mem_cons_self
      have passed := pass_segment recognizes isSegment isQuery.endsSegment
      rw [behindSlashes_cons, behindSlashes_nil, List.append_nil, List.cons_append, passed,
        passSegments]
      split
      · simp [pass_query isQuery]
      · simp
  | case3 segment next rest fitting ih =>
      simp only [List.forall_mem_cons] at areSegments
      obtain ⟨isSegment, isNext, areRest⟩ := areSegments
      have passed := pass_segment recognizes isSegment
        (endsSegment_behindSlashes (next :: rest) isQuery.endsSegment)
      rw [behindSlashes_cons, List.cons_append, List.append_assoc, passed, if_pos fitting,
        passSegments, if_pos fitting]
      -- The delimiter is the slash in front of the next segment, in which no match can begin.
      simp [pass_append_of_not_mem rule isNext.1, ih areRest]
  | case4 segment next rest unfitting ih =>
      rw [List.forall_mem_cons] at areSegments
      have passed := pass_segment recognizes areSegments.1
        (endsSegment_behindSlashes (next :: rest) isQuery.endsSegment)
      rw [behindSlashes_cons, List.cons_append, List.append_assoc, passed, if_neg unfitting,
        passSegments, if_neg unfitting, ih areSegments.2]
      simp

theorem pass_iterate {front query : List Char} (noSlash : '/' ∉ front) (isQuery : IsQuery query)
    (noBreak : '\n' ∉ rule.mark) (passes : Nat) {segments : List (List Char)}
    (areSegments : ∀ segment ∈ segments, IsSegment segment) :
    (pass rule)^[passes] (front ++ (behindSlashes segments ++ query)) =
      front ++ (behindSlashes ((passSegments rule.mark fits)^[passes] segments) ++
        (pass rule)^[passes] query) := by
  induction passes generalizing segments query with
  | zero => rfl
  | succ passes ih =>
      have areSegments' : ∀ segment ∈ passSegments rule.mark fits segments, IsSegment segment := by
        intro segment isIn
        obtain rfl | isIn := mem_passSegments segment isIn
        · exact recognizes.isSegment
        · exact areSegments segment isIn
      simp only [Function.iterate_succ_apply]
      rw [pass_append_of_not_mem rule noSlash, pass_segments recognizes areSegments isQuery,
        ih (isQuery.pass noBreak) areSegments']

theorem isSegment_replaceFitting {segments : List (List Char)}
    (areSegments : ∀ segment ∈ segments, IsSegment segment) :
    ∀ segment ∈ segments.map (replaceFitting rule.mark fits), IsSegment segment := by
  rw [List.forall_mem_map]
  intro segment isIn
  rw [replaceFitting]
  split
  · exact recognizes.isSegment
  · exact areSegments segment isIn

/-- The passes replace each segment that fits, in runs of any length. -/
theorem replaceSegments_segments {front query : List Char} (noSlash : '/' ∉ front)
    (isQuery : IsQuery query) (noBreak : '\n' ∉ rule.mark) {segments : List (List Char)}
    (areSegments : ∀ segment ∈ segments, IsSegment segment) :
    replaceSegments rule (front ++ (behindSlashes segments ++ query)) =
      front ++ (behindSlashes (segments.map (replaceFitting rule.mark fits)) ++
        replaceSegments rule query) := by
  simp only [replaceSegments, replacePasses_eq_iterate]
  rw [pass_iterate recognizes noSlash isQuery noBreak maxPasses areSegments]
  -- Two passes are enough, and the other six find nothing.
  exact congrArg (fun replaced => front ++ (behindSlashes replaced ++ _))
    (passSegments_iterate recognizes.unfit segments 6)

theorem unchanged_of_unfit {front rest : List Char} (noSlash : '/' ∉ front)
    (noSlash' : '/' ∉ rest) (ends : endsSegment rest = true) {segments : List (List Char)}
    (areSegments : ∀ segment ∈ segments, IsSegment segment)
    (unfits : ∀ segment ∈ segments, fits segment = false) :
    (replacePass rule 0 (front ++ (behindSlashes segments ++ rest))).2 = false := by
  rw [changed_append_of_not_mem rule noSlash]
  induction segments with
  | nil => simpa [replacePass] using changed_append_of_not_mem rule noSlash' []
  | cons segment segments ih =>
      rw [List.forall_mem_cons] at areSegments unfits
      have free := recognizes.length? segment (behindSlashes segments ++ rest) areSegments.1
        (endsSegment_behindSlashes segments ends)
      rw [unfits.1] at free
      rw [behindSlashes_cons, List.cons_append, List.append_assoc]
      simp only [replacePass, free, if_true, Bool.false_eq_true, if_false]
      rw [changed_append_of_not_mem rule areSegments.1.1]
      exact ih areSegments.2 unfits.2

end Rule

end IngressMeter.Path
