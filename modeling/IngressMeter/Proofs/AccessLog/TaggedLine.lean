import IngressMeter.AccessLog.Format
import IngressMeter.AccessLog.Line
import IngressMeter.Proofs.AccessLog.Fields
import IngressMeter.Proofs.AccessLog.PodTag
import IngressMeter.Proofs.Text.Trimming

/-!
What the tag of a pod changes in the reading of a line. In the JSON format it is nothing, unless the
line is blank. In the common format the quick look knows a tag in front of an IPv4 address only: a
line that passes for another reason at its beginning is not looked at any more once it is tagged.
-/

namespace IngressMeter

theorem LogLine.toList_ofPod (pod line : String) :
    (LogLine.ofPod pod line).text.toList = '[' :: (pod.toList ++ ']' :: ' ' :: line.toList) := by
  simp [LogLine.ofPod, PodTag.add]

namespace PodTag

theorem trim_tagged (pod : List Char) {line : List Char} (notBlank : trim line ≠ []) :
    ∃ before, IsBlankText before ∧ trim ('[' :: (pod ++ ']' :: ' ' :: line)) =
      '[' :: (pod ++ ']' :: ' ' :: (before ++ trim line)) := by
  obtain ⟨before, after, blankBefore, blankAfter, split⟩ := exists_trim line
  obtain ⟨last, isLast⟩ := Option.isSome_iff_exists.mp (List.getLast?_isSome.mpr notBlank)
  have ends : (before ++ trim line).getLast? = some last := by
    simp [List.getLast?_append, isLast]
  have kept := trim_tag_eq_self pod ends (isBlank_getLast_trim isLast)
  have parts : '[' :: (pod ++ ']' :: ' ' :: line) =
      [] ++ '[' :: (pod ++ ']' :: ' ' :: (before ++ trim line)) ++ after := by
    conv_lhs => rw [split]
    simp
  refine ⟨before, blankBefore, ?_⟩
  rw [parts, trim_append (by simp [IsBlankText]) _ blankAfter, kept]

theorem trim_tagged_blank (pod : List Char) {line : List Char} (blank : trim line = []) :
    trim ('[' :: (pod ++ ']' :: ' ' :: line)) = '[' :: (pod ++ [']']) := by
  obtain ⟨before, after, blankBefore, blankAfter, split⟩ := exists_trim line
  have blankRest : IsBlankText (' ' :: line) := by
    rw [IsBlankText, List.forall_mem_cons, split, blank, List.append_nil, List.forall_mem_append]
    exact ⟨by decide, blankBefore, blankAfter⟩
  have parts : '[' :: (pod ++ ']' :: ' ' :: line) = [] ++ '[' :: (pod ++ [']']) ++ ' ' :: line := by
    simp
  rw [parts, trim_append (by simp [IsBlankText]) _ blankRest]
  have ends : ('[' :: (pod ++ [']'])).getLast? = some ']' := by
    simp [List.getLast?_cons]
  exact trim_eq_self rfl ends (by decide) (by decide)

theorem strip_trim_tagged {pod line : List Char} (isTag : IsTag pod) (notBlank : trim line ≠ []) :
    strip (trim ('[' :: (pod ++ ']' :: ' ' :: line))) = trim line := by
  obtain ⟨before, blankBefore, trimmed⟩ := trim_tagged pod notBlank
  obtain ⟨first, isFirst⟩ := Option.isSome_iff_exists.mp (List.isSome_head?.mpr notBlank)
  rw [trimmed, strip_append isTag, trimStart_append blankBefore]
  exact trimStart_eq_self isFirst (isBlank_head_trim isFirst)

end PodTag

namespace AccessLog.Common

theorem startsWithIpv4_bracket (text : List Char) : startsWithIpv4 ('[' :: text) = false := by
  have noDigit : ('[' :: text).span isDecimalDigit = ([], '[' :: text) := rfl
  rw [startsWithIpv4, octetPoint?, noDigit]
  rfl

theorem startsWithIpv6_bracket (text : List Char) : startsWithIpv6 ('[' :: text) = false := by
  have noDigit : ('[' :: text).span isHexDigit = ([], '[' :: text) := rfl
  rw [startsWithIpv6, noDigit]
  rfl

theorem startsWithTimestamp_of_ne {c : Char} (other : c ≠ '[') (text : List Char) :
    startsWithTimestamp (c :: text) = false := by
  simp [startsWithTimestamp, char?, one?, other]

theorem startsWithTimestamp_bracket {name : List Char} (isName : ∀ c ∈ name, c ≠ ']' ∧ c ≠ '/')
    (text : List Char) : startsWithTimestamp ('[' :: (name ++ ']' :: text)) = false := by
  rw [startsWithTimestamp_eq, Option.isSome_eq_false_iff, Option.isNone_iff_eq_none,
    Option.bind_eq_none_iff]
  intro rest walked
  obtain ⟨start, hasShape, split⟩ := exists_of_walk? walked
  cases rest with
  | nil => rfl
  | cons c rest =>
      rw [char?, one?, if_neg]
      intro isBracket
      obtain rfl : c = ']' := of_decide_eq_true isBracket
      have nameFree : ']' ∉ name := fun isIn => (isName _ isIn).1 rfl
      have startFree : ']' ∉ start := not_mem_of_hasShape hasShape (by decide)
      -- A timestamp would fill the brackets, but it has slashes and the name has none.
      have same : name = start := by
        have spans := congrArg (List.span (· ≠ ']')) split
        rw [span_ne nameFree, span_ne startFree] at spans
        exact congrArg Prod.fst spans
      exact (isName '/' (same ▸ slash_mem_start hasShape)).2 rfl

theorem hasTimestamp_name {name : List Char} (isName : ∀ c ∈ name, c ≠ ']' ∧ c ≠ '/')
    (text : List Char) : hasTimestamp (name ++ ']' :: text) = hasTimestamp text := by
  induction name with
  | nil =>
      rw [List.nil_append, hasTimestamp, startsWithTimestamp_of_ne (by decide), Bool.false_or]
  | cons c name ih =>
      rw [List.forall_mem_cons] at isName
      have noneHere : startsWithTimestamp (c :: (name ++ ']' :: text)) = false := by
        by_cases isBracket : c = '['
        · rw [isBracket, startsWithTimestamp_bracket isName.2]
        · exact startsWithTimestamp_of_ne isBracket _
      rw [List.cons_append, hasTimestamp, noneHere, ih isName.2, Bool.false_or]

theorem hasTimestamp_blanks {blanks : List Char} (blank : IsBlankText blanks) (text : List Char) :
    hasTimestamp (blanks ++ text) = hasTimestamp text := by
  induction blanks with
  | nil => rfl
  | cons c blanks ih =>
      rw [IsBlankText, List.forall_mem_cons] at blank
      have other : c ≠ '[' := by
        rintro rfl
        exact absurd blank.1 (by decide)
      rw [List.cons_append, hasTimestamp, startsWithTimestamp_of_ne other, ih blank.2,
        Bool.false_or]

section Tag

variable {pod : List Char} (isTag : PodTag.IsTag pod)

include isTag

theorem hasTimestamp_tag (text : List Char) :
    hasTimestamp ('[' :: (pod ++ ']' :: text)) = hasTimestamp text := by
  have isName : ∀ c ∈ pod, c ≠ ']' ∧ c ≠ '/' := fun c isIn => (isTag.2 c isIn).2
  rw [hasTimestamp, startsWithTimestamp_bracket isName, hasTimestamp_name isName, Bool.false_or]

theorem startsWithTaggedIpv4_tag {text : List Char}
    (notBlank : ∀ c ∈ text.head?, isBlank c = false) {blanks : List Char}
    (blank : IsBlankText blanks) :
    startsWithTaggedIpv4 ('[' :: (pod ++ ']' :: ' ' :: (blanks ++ text))) = startsWithIpv4 text := by
  have unmarked : ']' ∉ pod := fun isIn => (isTag.2 _ isIn).2.1 rfl
  have space : (' ' :: (blanks ++ text)).span isBlank = (' ' :: blanks, text) := by
    have allBlank : ∀ c ∈ ' ' :: blanks, isBlank c = true := by
      rw [List.forall_mem_cons]
      exact ⟨by decide, blank⟩
    exact span_append allBlank notBlank
  have nonempty : pod.isEmpty = false := by simpa using isTag.1
  simp only [startsWithTaggedIpv4, span_ne unmarked, List.tail_cons, space, nonempty]
  rfl

/-- Behind a tag only an IPv4 address and a timestamp are known. -/
theorem looksLikeAccessLog_tag {text : List Char} (notBlank : ∀ c ∈ text.head?, isBlank c = false)
    {blanks : List Char} (blank : IsBlankText blanks) :
    looksLikeAccessLog ('[' :: (pod ++ ']' :: ' ' :: (blanks ++ text))) =
      (startsWithIpv4 text || hasTimestamp text) := by
  have noTimestamp : hasTimestamp (' ' :: (blanks ++ text)) = hasTimestamp text := by
    rw [hasTimestamp, startsWithTimestamp_of_ne (by decide), hasTimestamp_blanks blank,
      Bool.false_or]
  rw [looksLikeAccessLog, startsWithIpv4_bracket, startsWithIpv6_bracket,
    startsWithTaggedIpv4_tag isTag notBlank blank, hasTimestamp_tag isTag, noTimestamp,
    Bool.false_or, Bool.false_or]

theorem looksLikeAccessLog_tag_alone : looksLikeAccessLog ('[' :: (pod ++ [']'])) = false := by
  have unmarked : ']' ∉ pod := fun isIn => (isTag.2 _ isIn).2.1 rfl
  have noAddress : startsWithTaggedIpv4 ('[' :: (pod ++ [']'])) = false := by
    simp only [startsWithTaggedIpv4, span_ne unmarked, List.tail_cons]
    exact Bool.and_false _
  rw [looksLikeAccessLog, startsWithIpv4_bracket, startsWithIpv6_bracket, noAddress,
    hasTimestamp_tag isTag]
  rfl

end Tag

def readFields (text : List Char) : Except ParseError AccessRecord :=
  match fields? text with
  | none => .error .invalidAccessLog
  | some fields => fields.toRecord

theorem mapError_readFields_ne (text : List Char) :
    (readFields text).mapError ParseError.isSilent ≠ .error true := by
  rw [readFields]
  cases fields? text with
  | none => simp [Except.mapError, ParseError.isSilent]
  | some fields =>
      simp only [Fields.toRecord]
      cases fields.defect? <;> simp [Except.mapError, ParseError.isSilent]

theorem parse_untagged {line : String}
    (untagged : PodTag.strip (trim line.toList) = trim line.toList) :
    parse line = if trim line.toList = [] then .error .emptyLine
      else if looksLikeAccessLog (trim line.toList) then readFields (trim line.toList)
      else .error .notAnAccessLog := by
  simp only [parse, untagged, List.isEmpty_iff, Bool.not_eq_true', ← Bool.not_eq_true, ite_not]
  rfl

theorem parse_tagged {pod : String} (isTag : PodTag.IsTag pod.toList) (line : String) :
    parse (LogLine.ofPod pod line).text =
      if startsWithIpv4 (trim line.toList) || hasTimestamp (trim line.toList) then
        readFields (trim line.toList)
      else .error .notAnAccessLog := by
  by_cases blank : trim line.toList = []
  · have trimmed := PodTag.trim_tagged_blank pod.toList blank
    have unlike := looksLikeAccessLog_tag_alone isTag
    simp only [parse, LogLine.toList_ofPod, trimmed, unlike, blank]
    rfl
  · obtain ⟨before, blankBefore, trimmed⟩ := PodTag.trim_tagged pod.toList blank
    have notBlank : ∀ c ∈ (trim line.toList).head?, isBlank c = false :=
      fun _ isHead => isBlank_head_trim isHead
    have looks := looksLikeAccessLog_tag isTag notBlank blankBefore
    have stripped := PodTag.strip_trim_tagged isTag blank
    rw [trimmed] at stripped
    simp only [parse, LogLine.toList_ofPod, trimmed, looks, stripped, Bool.not_eq_true',
      ← Bool.not_eq_true, ite_not]
    rfl

end AccessLog.Common

theorem AccessLog.Structured.parse_tagged {pod line : String} (isTag : PodTag.IsTag pod.toList)
    (untagged : PodTag.strip (trim line.toList) = trim line.toList)
    (notBlank : trim line.toList ≠ []) : parse (LogLine.ofPod pod line).text = parse line := by
  rw [parse, LogLine.toList_ofPod, PodTag.strip_trim_tagged isTag notBlank]
  rw [parse, untagged]

namespace LogFormat

open AccessLog

def outcome (format : LogFormat) (line : String) : Except Bool AccessRecord :=
  (format.parse line).mapError ParseError.isSilent

/-- A tag in front of a line that has none changes nothing in the JSON format unless the line is
blank, and nothing in the common format unless the quick look lets the line pass for another reason
than an IPv4 address or a timestamp. -/
theorem outcome_ofPod {pod line : String} (isTag : PodTag.IsTag pod.toList)
    (untagged : PodTag.strip (trim line.toList) = trim line.toList) :
    let text := trim line.toList
    let tagged := (LogLine.ofPod pod line).text
    let known := Common.startsWithIpv4 text = true ∨ Common.hasTimestamp text = true
    (text ≠ [] → json.parse tagged = json.parse line) ∧
    (common.outcome tagged = common.outcome line ↔ (Common.looksLikeAccessLog text → known)) ∧
    (¬ known → common.parse tagged = .error .notAnAccessLog) := by
  intro text tagged known
  have untaggedParse : common.parse line = _ := Common.parse_untagged untagged
  have taggedParse : common.parse tagged = _ := Common.parse_tagged isTag line
  simp only [Bool.or_eq_true] at taggedParse
  have nonempty : Common.looksLikeAccessLog text = true → text ≠ [] := by
    intro looks nothing
    rw [nothing] at looks
    exact absurd looks (by decide)
  refine ⟨Structured.parse_tagged isTag untagged, ?_, fun unknown => taggedParse.trans (if_neg unknown)⟩
  rw [outcome, outcome, taggedParse, untaggedParse]
  by_cases isKnown : known
  · have looks : Common.looksLikeAccessLog text = true := by
      rw [Common.looksLikeAccessLog]
      rcases isKnown with ipv4 | timestamp
      · simp [text, ipv4]
      · simp [text, timestamp]
    rw [if_pos isKnown, if_neg (nonempty looks), if_pos looks]
    exact ⟨fun _ _ => isKnown, fun _ => rfl⟩
  · rw [if_neg isKnown]
    by_cases looks : Common.looksLikeAccessLog text = true
    · rw [if_neg (nonempty looks), if_pos looks]
      refine ⟨fun same => ?_, fun passes => absurd (passes looks) isKnown⟩
      exact absurd same.symm (Common.mapError_readFields_ne text)
    · rw [if_neg looks]
      refine ⟨fun _ isLike => absurd isLike looks, fun _ => ?_⟩
      split <;> rfl

theorem outcome_ofPod_ipv4 :
    let line := " 10.0.0.1 - - [now] \"GET / HTTP/1.1\" 200 5 - - 1 \"web\" - 3ms"
    PodTag.IsTag "traefik-7d9f".toList ∧
    PodTag.strip (trim line.toList) = trim line.toList ∧
    json.parse (LogLine.ofPod "traefik-7d9f" line).text = json.parse line ∧
    common.outcome (LogLine.ofPod "traefik-7d9f" line).text = common.outcome line := by
  intro line
  have isTag : PodTag.IsTag "traefik-7d9f".toList := by decide +kernel
  have untagged : PodTag.strip (trim line.toList) = trim line.toList := by decide +kernel
  obtain ⟨sameJson, sameCommon, -⟩ := outcome_ofPod isTag untagged
  have known : Common.startsWithIpv4 (trim line.toList) = true := by decide +kernel
  exact ⟨isTag, untagged, sameJson (by decide +kernel), sameCommon.mpr fun _ => Or.inl known⟩

/-- An IPv6 address with another timestamp, a tag behind a blank, and a line without text. -/
theorem outcome_ofPod_ne :
    let ipv6 := "::1 - - [now] \"GET / HTTP/1.1\" 200 5 - - 1 \"web\" - 3ms"
    let indented := " [a] \x7b\"OriginStatus\": 200\x7d"
    (∀ line ∈ [ipv6, indented, ""], line.toList.head? ≠ some '[') ∧
    PodTag.IsTag "traefik-7d9f".toList ∧
    common.outcome (LogLine.ofPod "traefik-7d9f" ipv6).text ≠ common.outcome ipv6 ∧
    json.outcome (LogLine.ofPod "traefik-7d9f" indented).text ≠ json.outcome indented ∧
    json.outcome (LogLine.ofPod "traefik-7d9f" "").text ≠ json.outcome "" := by
  intro ipv6 indented
  have differs {format : LogFormat} {line : String} (view : Except Bool AccessRecord → Bool)
      (seen : view (format.outcome (LogLine.ofPod "traefik-7d9f" line).text) ≠
        view (format.outcome line)) :
      format.outcome (LogLine.ofPod "traefik-7d9f" line).text ≠ format.outcome line :=
    fun same => seen (congrArg view same)
  let silence : Except Bool AccessRecord → Bool
    | .error silent => silent
    | .ok _ => false
  exact ⟨by decide +kernel, by decide +kernel, differs Except.isOk (by decide +kernel),
    differs Except.isOk (by decide +kernel), differs silence (by decide +kernel)⟩

end LogFormat

end IngressMeter
