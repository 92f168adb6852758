import IngressMeter.Proofs.Path.DefaultRules
import IngressMeter.Rules.Basic

/-!
Paths under a merge prefix. What is left of such a path are its segments with the numbers among them
replaced, whatever the query holds; the default rules make of it what they make of the path without
its query.
-/

namespace IngressMeter.Path

def beforeQuery (path : List Char) : List Char := path.takeWhile (· ≠ '?')

theorem not_mem_beforeQuery (path : List Char) : '?' ∉ beforeQuery path := by
  intro isIn
  simpa using List.mem_takeWhile_imp isIn

theorem beforeQuery_eq_self {path : List Char} (noQuery : '?' ∉ path) : beforeQuery path = path := by
  rw [beforeQuery, List.takeWhile_eq_self_iff]
  intro c isIn
  exact decide_eq_true fun marked => noQuery (marked ▸ isIn)

theorem exists_query {path : List Char} (inLine : '\n' ∉ path) :
    ∃ query, IsQuery query ∧ path = beforeQuery path ++ query := by
  by_cases marked : '?' ∈ path
  · obtain ⟨before, text, rfl, unmarked⟩ := List.eq_append_cons_of_mem marked
    have isBefore : beforeQuery (before ++ '?' :: text) = before := by
      have spanned := congrArg Prod.fst (span_ne unmarked text)
      rwa [List.span_eq_takeWhile_dropWhile] at spanned
    have inLineToo : '\n' ∉ text := fun isIn => inLine (by simp [isIn])
    exact ⟨'?' :: text, Or.inr ⟨text, rfl, inLineToo⟩, by rw [isBefore]⟩
  · exact ⟨[], Or.inl rfl, by rw [beforeQuery_eq_self marked, List.append_nil]⟩

def markNumber (segment : List Char) : List Char :=
  replaceFitting numberRule.mark isNumber segment

def markNumbers (path : List Char) : List Char :=
  match path.splitOn '/' with
  | [] => []
  | front :: segments => front ++ behindSlashes (segments.map markNumber)

theorem isNumber_markNumber (segment : List Char) : isNumber (markNumber segment) = false :=
  fits_replaceFitting numberRule_recognizes.unfit segment

theorem collapse_markNumber (segment : List Char) :
    collapse (markNumber segment) = collapse segment := by
  rw [markNumber, replaceFitting]
  split
  · rename_i number
    rw [collapse, collapse, if_pos number]
    rfl
  · rfl

theorem isSegment_map_markNumber {segments : List (List Char)}
    (areSegments : ∀ segment ∈ segments, IsSegment segment) :
    ∀ segment ∈ segments.map markNumber, IsSegment segment :=
  isSegment_replaceFitting numberRule_recognizes areSegments

theorem exists_splitOn_append {piece rest : List Char} (noSlash : '/' ∉ piece)
    (ends : rest = [] ∨ rest.head? = some '/') :
    ∃ later, (piece ++ rest).splitOn '/' = piece :: later := by
  have undivided : ∀ c ∈ piece, (c == '/') = false := by
    intro c isIn
    rw [beq_eq_false_iff_ne]
    exact fun slash => noSlash (slash ▸ isIn)
  rcases ends with rfl | isHead
  · rw [List.append_nil]
    exact ⟨[], List.splitOnP_eq_singleton undivided⟩
  · obtain ⟨rest, rfl⟩ := List.head?_eq_some_iff.mp isHead
    exact ⟨rest.splitOn '/', List.splitOnP_append_cons_of_forall_mem undivided '/' (by simp) rest⟩

section Marked

variable {path : List Char} (noQuery : '?' ∉ path)

include noQuery

theorem exists_markNumbers :
    ∃ front segments, path = front ++ behindSlashes segments ∧
      markNumbers path = front ++ behindSlashes (segments.map markNumber) ∧
      IsSegment front ∧ ∀ segment ∈ segments, IsSegment segment := by
  obtain ⟨front, segments, split, joined, areSegments⟩ := exists_segments noQuery
  rw [List.forall_mem_cons] at areSegments
  exact ⟨front, segments, joined, by rw [markNumbers, split], areSegments⟩

theorem not_mem_markNumbers : '?' ∉ markNumbers path := by
  obtain ⟨front, segments, _, marked, isFront, areSegments⟩ := exists_markNumbers noQuery
  rw [marked, List.mem_append, not_or]
  exact ⟨isFront.2, not_mem_behindSlashes (by decide) fun segment isIn =>
    (isSegment_map_markNumber areSegments segment isIn).2⟩

/-- Replacing the numbers beforehand changes nothing for the default rules. -/
theorem defaultRules_markNumbers : defaultRules (markNumbers path) = defaultRules path := by
  obtain ⟨front, segments, joined, marked, isFront, areSegments⟩ := exists_markNumbers noQuery
  have alike : (segments.map markNumber).map collapse = segments.map collapse := by
    rw [List.map_map]
    exact List.map_congr_left fun segment _ => collapse_markNumber segment
  have noMore : IsQuery [] := Or.inl rfl
  have ofMarked := defaultRules_segments isFront (isSegment_map_markNumber areSegments) noMore
  have ofPath := defaultRules_segments isFront areSegments noMore
  rw [List.append_nil] at ofMarked ofPath
  rw [marked, ofMarked, alike, joined, ofPath]

theorem isNumber_eq_false_of_markNumbers {before segment after : List Char}
    (whole : markNumbers path = before ++ '/' :: (segment ++ after))
    (ends : after = [] ∨ after.head? = some '/') : isNumber segment = false := by
  obtain ⟨front, segments, _, marked, isFront, areSegments⟩ := exists_markNumbers noQuery
  by_contra number
  have noSlash : '/' ∉ segment := by
    rw [Bool.not_eq_false, isNumber, Bool.and_eq_true] at number
    exact (isSegment_of_all (by decide) (by decide) number.2).1
  have pieces : (markNumbers path).splitOn '/' = front :: segments.map markNumber := by
    rw [marked, ← intercalate_slash]
    refine List.splitOn_intercalate '/' (fun piece isIn => ?_) (List.cons_ne_nil _ _)
    rcases List.mem_cons.mp isIn with rfl | isMarked
    · exact isFront.1
    · exact (isSegment_map_markNumber areSegments piece isMarked).1
  obtain ⟨first, earlier, begins⟩ := List.exists_cons_of_ne_nil (List.splitOn_ne_nil '/' before)
  obtain ⟨later, goesOn⟩ := exists_splitOn_append noSlash ends
  rw [whole, splitOn_append_cons, begins, goesOn, List.cons_append, List.cons.injEq] at pieces
  have isMarked : segment ∈ segments.map markNumber := by
    rw [← pieces.2]
    simp
  obtain ⟨original, _, rfl⟩ := List.mem_map.mp isMarked
  exact number (isNumber_markNumber original)

end Marked

theorem merge_eq_markNumbers {prefixes : List String} {path : List Char} (inLine : '\n' ∉ path)
    (under : isUnder prefixes path = true) :
    merge prefixes path = markNumbers (beforeQuery path) := by
  obtain ⟨query, isQuery, whole⟩ := exists_query inLine
  have noQuery := not_mem_markNumbers (not_mem_beforeQuery path)
  obtain ⟨front, segments, joined, marked, isFront, areSegments⟩ :=
    exists_markNumbers (not_mem_beforeQuery path)
  have afterNumbers := isQuery.replaceSegments (show '\n' ∉ numberRule.mark by decide)
  calc merge prefixes path
      = replaceQuery [] (replaceSegments numberRule (beforeQuery path ++ query)) := by
        rw [merge, if_pos under, ← whole]
    _ = replaceQuery [] (markNumbers (beforeQuery path) ++ replaceSegments numberRule query) := by
        rw [marked, joined, List.append_assoc, List.append_assoc]
        exact congrArg (replaceQuery [])
          (replaceSegments_segments numberRule_recognizes isFront.1 isQuery (by decide) areSegments)
    _ = markNumbers (beforeQuery path) := by
        rw [replaceQuery_append _ noQuery afterNumbers.1, ite_self, List.append_nil]

/-- A path under a merge prefix loses its query, which may hold anything but a line break, and the
numbers among the segments in front of it, so that none is left. Unless a pattern matches what is
left, the normalized path is what the default rules make of the path without its query. A path under
no merge prefix is normalized as it stands. -/
theorem merge_ignores_query (rules : TargetRules) (path : String) :
    let before := beforeQuery path.toList
    let merged := merge rules.mergePrefixes path.toList
    ('\n' ∉ path.toList → isUnder rules.mergePrefixes path.toList = true →
      merged = markNumbers before ∧ '?' ∉ merged ∧
        (∀ earlier segment later, merged = earlier ++ '/' :: (segment ++ later) →
          later = [] ∨ later.head? = some '/' → isNumber segment = false) ∧
        (isUnder rules.mergePrefixes before = true →
          merged = merge rules.mergePrefixes before) ∧
        ((∀ rule ∈ rules.urlPatterns, rule.pattern.matches? merged = false) →
          rules.normalizePath path = String.ofList (defaultRules before))) ∧
      (isUnder rules.mergePrefixes path.toList = false →
        rules.normalizePath path =
          String.ofList (normalizeUrl rules.urlPatterns path.toList)) := by
  intro before merged
  have noQuery : '?' ∉ before := not_mem_beforeQuery path.toList
  constructor
  · intro inLine under
    have marked : merged = markNumbers before := merge_eq_markNumbers inLine under
    refine ⟨marked, ?_, ?_, ?_, ?_⟩
    · rw [marked]
      exact not_mem_markNumbers noQuery
    · intro earlier segment later whole ends
      rw [marked] at whole
      exact isNumber_eq_false_of_markNumbers noQuery whole ends
    · intro underToo
      have inLineToo : '\n' ∉ before := fun isIn =>
        inLine ((List.takeWhile_prefix _).subset isIn)
      rw [marked, merge_eq_markNumbers inLineToo underToo, beforeQuery_eq_self noQuery]
    · intro unmatched
      have none : rules.urlPatterns.find? (·.pattern.matches? merged) = none := by
        rw [List.find?_eq_none]
        intro rule isRule
        simp [unmatched rule isRule]
      calc rules.normalizePath path
          = String.ofList (normalizeUrl rules.urlPatterns merged) := rfl
        _ = String.ofList (defaultRules merged) := by rw [normalizeUrl, none]
        _ = String.ofList (defaultRules before) := by
            rw [marked, defaultRules_markNumbers noQuery]
  · intro notUnder
    rw [TargetRules.normalizePath, normalize, merge, notUnder]
    rfl

theorem merge_ignores_query_assets :
    let rules : TargetRules :=
      { key := "shop-web", namespaceName := "shop", targetName := "web", kind := .ingress,
        owner := "shop/perf", whitelist := [], ignored := [], mergePrefixes := ["/assets/"],
        urlPatterns := [], topCount := 20, enabled := true, lastUpdated := 0 }
    let path := "/assets/1/2/42?next=/7/8?/9"
    '\n' ∉ path.toList ∧ isUnder rules.mergePrefixes path.toList = true ∧
      merge rules.mergePrefixes path.toList = "/assets/\x7bid\x7d/\x7bid\x7d/\x7bid\x7d".toList ∧
      rules.normalizePath path = String.ofList (defaultRules "/assets/1/2/42".toList) := by
  intro rules path
  have inLine : '\n' ∉ path.toList := by decide +kernel
  have under : isUnder rules.mergePrefixes path.toList = true := by decide +kernel
  obtain ⟨marked, _, _, _, normalized⟩ := (merge_ignores_query rules path).1 inLine under
  refine ⟨inLine, under, marked.trans (by decide +kernel), ?_⟩
  exact (normalized fun _ none => nomatch none).trans (congrArg _ (by decide +kernel))

end IngressMeter.Path
