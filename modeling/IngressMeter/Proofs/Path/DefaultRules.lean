import IngressMeter.Path.Normalize
import IngressMeter.Proofs.Path.SegmentRules
import Mathlib.Data.List.TakeWhile

/-!
The default rules for a path as one function of its segments.
-/

namespace IngressMeter.Path

def collapse (segment : List Char) : List Char :=
  if isNumber segment then ['{', 'i', 'd', '}']
  else if isUuid segment then ['{', 'u', 'u', 'i', 'd', '}']
  else if isToken segment then ['{', 't', 'o', 'k', 'e', 'n', '}']
  else segment

def collapsePath (path : List Char) : List Char :=
  match path.splitOn '/' with
  | [] => []
  | front :: segments => front ++ behindSlashes (segments.map collapse)

theorem intercalate_slash (front : List Char) (segments : List (List Char)) :
    ['/'].intercalate (front :: segments) = front ++ behindSlashes segments := by
  induction segments generalizing front with
  | nil => simp
  | cons segment segments ih => rw [intercalate_cons, ih, behindSlashes_cons]

theorem exists_segments {path : List Char} (noQuery : '?' ∉ path) :
    ∃ front segments, path.splitOn '/' = front :: segments ∧
      path = front ++ behindSlashes segments ∧ ∀ segment ∈ front :: segments, IsSegment segment := by
  obtain ⟨front, segments, split⟩ := List.exists_cons_of_ne_nil (List.splitOn_ne_nil '/' path)
  have joined : path = front ++ behindSlashes segments := by
    rw [← intercalate_slash, ← split, List.intercalate_splitOn]
  refine ⟨front, segments, split, joined, fun segment isIn => ⟨?_, ?_⟩⟩
  · exact not_mem_of_mem_splitOn segment (split ▸ isIn)
  · intro marked
    refine noQuery ?_
    rw [joined, List.mem_append, behindSlashes, List.mem_flatMap]
    obtain rfl | isIn := List.mem_cons.mp isIn
    · exact Or.inl marked
    · exact Or.inr ⟨segment, isIn, List.mem_cons_of_mem _ marked⟩

theorem collapse_eq (segment : List Char) :
    replaceFitting tokenRule.mark isToken (replaceFitting uuidRule.mark isUuid
      (replaceFitting numberRule.mark isNumber segment)) = collapse segment := by
  have notUuid : isUuid numberRule.mark = false := by decide
  have notToken : isToken numberRule.mark = false := by decide
  have notToken' : isToken uuidRule.mark = false := by decide
  simp only [replaceFitting, collapse]
  split
  · simp only [notUuid, notToken, Bool.false_eq_true, if_false]
    rfl
  · split
    · simp only [notToken', Bool.false_eq_true, if_false]
      rfl
    · rfl

theorem isSegment_collapse {segment : List Char} (isSegment : IsSegment segment) :
    IsSegment (collapse segment) := by
  rw [collapse]
  split
  · decide
  · split
    · decide
    · split
      · decide
      · exact isSegment

theorem collapse_unfit (segment : List Char) :
    isNumber (collapse segment) = false ∧ isUuid (collapse segment) = false ∧
      isToken (collapse segment) = false := by
  rw [collapse]
  split
  · decide
  · split
    · decide
    · split
      · decide
      · simp_all

theorem replaceQuery_append (mark : List Char) {path query : List Char} (noQuery : '?' ∉ path)
    (isQuery : IsQuery query) :
    replaceQuery mark (path ++ query) = path ++ if query = [] then [] else mark := by
  have before : ∀ c ∈ path, decide (c ≠ '?') = true := by
    intro c isIn
    exact decide_eq_true fun marked => noQuery (marked ▸ isIn)
  have spanned : (path ++ query).span (· ≠ '?') = (path, query) := by
    refine span_append before ?_
    obtain rfl | ⟨text, rfl, _⟩ := isQuery
    · simp
    · simp
  simp only [replaceQuery, spanned]
  obtain rfl | ⟨text, rfl, inLine⟩ := isQuery
  · simp
  · have inside : ∀ c ∈ text, c ≠ '\n' := fun c isIn ends => inLine (ends ▸ isIn)
    simpa using inside

theorem not_mem_behindSlashes {c : Char} (noSlash : c ≠ '/') {segments : List (List Char)}
    (free : ∀ segment ∈ segments, c ∉ segment) : c ∉ behindSlashes segments := by
  rw [behindSlashes, List.mem_flatMap]
  rintro ⟨segment, isIn, isChar⟩
  obtain isSlash | isChar := List.mem_cons.mp isChar
  · exact noSlash isSlash
  · exact free segment isIn isChar

theorem defaultRules_segments {front query : List Char} {segments : List (List Char)}
    (isFront : IsSegment front) (areSegments : ∀ segment ∈ segments, IsSegment segment)
    (isQuery : IsQuery query) :
    defaultRules (front ++ (behindSlashes segments ++ query)) =
      front ++ (behindSlashes (segments.map collapse) ++ if query = [] then [] else queryMark) := by
  have afterNumbers := isQuery.replaceSegments (show '\n' ∉ numberRule.mark by decide)
  have afterUuids := afterNumbers.1.replaceSegments (show '\n' ∉ uuidRule.mark by decide)
  have afterTokens := afterUuids.1.replaceSegments (show '\n' ∉ tokenRule.mark by decide)
  have areSegments₁ := isSegment_replaceFitting numberRule_recognizes areSegments
  have areSegments₂ := isSegment_replaceFitting uuidRule_recognizes areSegments₁
  have areSegments₃ := isSegment_replaceFitting tokenRule_recognizes areSegments₂
  have collapsed : ((segments.map (replaceFitting numberRule.mark isNumber)).map
      (replaceFitting uuidRule.mark isUuid)).map (replaceFitting tokenRule.mark isToken) =
        segments.map collapse := by
    simp only [List.map_map]
    exact List.map_congr_left fun segment _ => collapse_eq segment
  rw [collapsed] at areSegments₃
  rw [defaultRules, replaceSegments_segments numberRule_recognizes isFront.1 isQuery (by decide)
      areSegments, replaceSegments_segments uuidRule_recognizes isFront.1 afterNumbers.1 (by decide)
      areSegments₁, replaceSegments_segments tokenRule_recognizes isFront.1 afterUuids.1 (by decide)
      areSegments₂, collapsed, ← List.append_assoc, replaceQuery_append _ _ afterTokens.1]
  · simp only [afterTokens.2, afterUuids.2, afterNumbers.2, List.append_assoc]
  · rw [List.mem_append, not_or]
    exact ⟨isFront.2, not_mem_behindSlashes (by decide) fun segment isIn =>
      (areSegments₃ segment isIn).2⟩

/-- The rules replace each segment on its own, however many of a kind stand in a row, and the query
whatever it is; none of them would find anything more. -/
theorem defaultRules_eq_collapsePath {path query : List Char} (noQuery : '?' ∉ path)
    (isQuery : IsQuery query) :
    defaultRules (path ++ query) =
      collapsePath path ++ (if query = [] then [] else "?\x7bquery_params\x7d".toList) ∧
    ∀ rule ∈ [numberRule, uuidRule, tokenRule],
      (replacePass rule 0 (defaultRules (path ++ query))).2 = false := by
  obtain ⟨front, segments, split, rfl, areSegments⟩ := exists_segments noQuery
  rw [List.forall_mem_cons] at areSegments
  have collapsed := defaultRules_segments areSegments.1 areSegments.2 isQuery
  rw [List.append_assoc, collapsed]
  constructor
  · rw [collapsePath, split, List.append_assoc]
    rfl
  · have areCollapsed : ∀ segment ∈ segments.map collapse, IsSegment segment := by
      rw [List.forall_mem_map]
      exact fun segment isIn => isSegment_collapse (areSegments.2 segment isIn)
    have unfits : ∀ segment ∈ segments.map collapse,
        isNumber segment = false ∧ isUuid segment = false ∧ isToken segment = false := by
      rw [List.forall_mem_map]
      exact fun segment _ => collapse_unfit segment
    have noSlash : '/' ∉ (if query = [] then [] else queryMark) := by
      split <;> decide
    have ends : endsSegment (if query = [] then [] else queryMark) = true := by
      split <;> rfl
    simp only [List.forall_mem_cons]
    refine ⟨?_, ?_, ?_, ?_⟩
    · exact unchanged_of_unfit numberRule_recognizes areSegments.1.1 noSlash ends areCollapsed
        fun segment isIn => (unfits segment isIn).1
    · exact unchanged_of_unfit uuidRule_recognizes areSegments.1.1 noSlash ends areCollapsed
        fun segment isIn => (unfits segment isIn).2.1
    · exact unchanged_of_unfit tokenRule_recognizes areSegments.1.1 noSlash ends areCollapsed
        fun segment isIn => (unfits segment isIn).2.2
    · simp

theorem defaultRules_eq_collapsePath_run :
    '?' ∉ "/v2/1/2/3/4/5/6/7/8/9/10/11/550e8400-e29b-41d4-a716-446655440000/x".toList ∧
    IsQuery "?a=/5/6&b=?/7".toList ∧
    defaultRules ("/v2/1/2/3/4/5/6/7/8/9/10/11/550e8400-e29b-41d4-a716-446655440000/x".toList ++
        "?a=/5/6&b=?/7".toList) =
      ("/v2/\x7bid\x7d/\x7bid\x7d/\x7bid\x7d/\x7bid\x7d/\x7bid\x7d/\x7bid\x7d/\x7bid\x7d" ++
        "/\x7bid\x7d/\x7bid\x7d/\x7bid\x7d/\x7bid\x7d/\x7buuid\x7d/x" ++
        "?\x7bquery_params\x7d").toList := by
  have noQuery : '?' ∉ "/v2/1/2/3/4/5/6/7/8/9/10/11/550e8400-e29b-41d4-a716-446655440000/x".toList := by
    decide +kernel
  have isQuery : IsQuery "?a=/5/6&b=?/7".toList :=
    Or.inr ⟨"a=/5/6&b=?/7".toList, by decide +kernel, by decide +kernel⟩
  refine ⟨noQuery, isQuery, (defaultRules_eq_collapsePath noQuery isQuery).1.trans ?_⟩
  decide +kernel

end IngressMeter.Path
