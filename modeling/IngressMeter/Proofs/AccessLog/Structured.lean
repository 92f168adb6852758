import IngressMeter.AccessLog.Structured
import IngressMeter.Proofs.AccessLog.PodTag
import IngressMeter.Proofs.Json.Amount
import IngressMeter.Proofs.Json.Reading
import IngressMeter.Proofs.Json.Record
import IngressMeter.Proofs.Text.Trimming

/-!
A line of the JSON format gives back the request that was written into it, in whatever order and
spelling its members stand and whatever stands between and around them. A line of the other log of
the proxy is told from it by having neither a status nor a router.
-/

namespace IngressMeter.AccessLog.Structured

open Json

structure Report where
  clientHost : String
  startUtc : String
  routerName : String
  method : String
  path : String
  protocol : String
  status : Nat
  size : Nat
  count : Nat
  duration : Nat
  overhead : Nat
  isStatus : 100 ≤ status ∧ status ≤ 599
  fits : size < 2 ^ 64 ∧ count < 2 ^ 64
  exact : duration ≤ 2 ^ 53 ∧ overhead ≤ 2 ^ 53

namespace Report

def members (report : Report) : List (String × Json) :=
  [("ClientHost", .text report.clientHost), ("StartUTC", .text report.startUtc),
    ("RouterName", .text report.routerName), ("RequestMethod", .text report.method),
    ("RequestPath", .text report.path), ("RequestProtocol", .text report.protocol),
    ("OriginStatus", .ofNat report.status), ("OriginContentSize", .ofNat report.size),
    ("RequestCount", .ofNat report.count), ("Duration", .ofNat report.duration),
    ("Overhead", .ofNat report.overhead)]

def record (report : Report) : AccessRecord where
  clientHost := report.clientHost
  startUtc := report.startUtc
  routerName := report.routerName
  method := report.method
  path := report.path
  protocol := report.protocol
  originStatus := report.status
  originContentSize := report.size
  requestCount := report.count
  durationMs := (UInt64.ofNat report.duration).toFloat / 1000000
  overheadMs := (UInt64.ofNat report.overhead).toFloat / 1000000

def entry (report : Report) : Entry where
  clientHost := report.clientHost
  startUtc := report.startUtc
  routerName := report.routerName
  method := report.method
  path := report.path
  protocol := report.protocol
  originStatus := some report.status
  originContentSize := report.size
  requestCount := report.count
  duration := (UInt64.ofNat report.duration).toFloat
  overhead := (UInt64.ofNat report.overhead).toFloat

end Report

def textNames : List String :=
  ["ClientHost", "StartUTC", "RequestMethod", "RequestPath", "RequestProtocol"]

/-- Members that tell of no request, each of the type its field has. -/
structure IsRemark (members : List (String × Json)) : Prop where
  distinct : ((Fields.known memberNames members).map (·.1)).Nodup
  status : ∀ json, ("OriginStatus", json) ∈ members → json = .null
  router : ∀ json, ("RouterName", json) ∈ members → json = .text ""
  texts : ∀ name ∈ textNames, ∀ json, (name, json) ∈ members → ∃ s, json = .text s
  counts : ∀ name ∈ ["OriginContentSize", "RequestCount"],
    ∀ json, (name, json) ∈ members → ∃ n < 2 ^ 64, json = .ofNat n
  amounts : ∀ name ∈ ["Duration", "Overhead"],
    ∀ json, (name, json) ∈ members → ∃ number : Json.Number, ∃ amount,
      json = .number number ∧ number.toFloat? = some amount

inductive Tells (members : List (String × Json)) : Except ParseError AccessRecord → Prop
  | request (report : Report) {others : List (String × Json)} :
      members.Perm (report.members ++ others) → (∀ member ∈ others, member.1 ∉ memberNames) →
      Tells members (.ok report.record)
  | nothing : IsRemark members → Tells members (.error .notAnAccessLog)

/-- A line with some content, with blanks around it and maybe the tag of a pod in front. -/
inductive IsLineOf (content : List Char) : List Char → Prop
  | untagged {before after : List Char} : IsBlankText before → IsBlankText after →
      IsLineOf content (before ++ content ++ after)
  | tagged {before tag between after : List Char} : IsBlankText before → PodTag.IsTag tag →
      IsBlankText between → IsBlankText after →
      IsLineOf content (before ++ '[' :: (tag ++ ']' :: ' ' :: (between ++ content)) ++ after)

/-! The text of a line. -/

theorem getLast?_writtenMembers : ∀ {members : List (String × Json)} {text : List Char},
    WrittenMembers members text → text.getLast? = some '}'
  | _, _, .last _ => List.getLast?_concat
  | _, _, .cons _ _ others => by
      simp [List.getLast?_cons, List.getLast?_append, getLast?_writtenMembers others]

theorem ends_written {members : List (Option String × Json)} {json : Json} {content : List Char}
    (written : Written json content) (isObject : json = .object members) :
    content.head? = some '{' ∧ content.getLast? = some '}' := by
  cases written with
  | emptyObject => simp [List.getLast?_cons]
  | object _ written => simp [List.getLast?_cons, List.getLast?_append, getLast?_writtenMembers written]
  | _ => contradiction

theorem strip_trim {content line : List Char} {first last : Char} (isFirst : content.head? = some first)
    (isLast : content.getLast? = some last) (firstNonBlank : isBlank first = false)
    (lastNonBlank : isBlank last = false) (untagged : first ≠ '[') (isLine : IsLineOf content line) :
    PodTag.strip (trim line) = content := by
  cases isLine with
  | untagged blankBefore blankAfter =>
      rw [trim_append blankBefore content blankAfter,
        trim_eq_self isFirst isLast firstNonBlank lastNonBlank]
      exact PodTag.strip_of_untagged (by simpa [isFirst] using untagged)
  | tagged blankBefore isTag blankBetween blankAfter =>
      rename_i before tag between after
      have ends : (between ++ content).getLast? = some last := by
        simp [List.getLast?_append, isLast]
      rw [trim_append blankBefore _ blankAfter, PodTag.trim_tag_eq_self tag ends lastNonBlank,
        PodTag.strip_append isTag, trimStart_append blankBetween,
        trimStart_eq_self isFirst firstNonBlank]

/-! The members of a line. -/

section Reading

variable {members : List (String × Json)}

theorem known_of_perm {report : Report} {others : List (String × Json)}
    (order : members.Perm (report.members ++ others))
    (foreign : ∀ member ∈ others, member.1 ∉ memberNames) :
    (Fields.known memberNames members).Perm report.members := by
  have own : Fields.known memberNames report.members = report.members := by
    rw [Fields.known, List.filter_eq_self]
    intro member isIn
    have isName : member.1 ∈ report.members.map (·.1) := List.mem_map_of_mem isIn
    exact List.contains_iff_mem.mpr isName
  have passed : Fields.known memberNames others = [] := by
    rw [Fields.known, List.filter_eq_nil_iff]
    intro member isIn isName
    exact foreign member isIn (List.contains_iff_mem.mp isName)
  have filtered := order.filter fun member => memberNames.contains member.1
  rw [List.filter_append, ← Fields.known, ← Fields.known, ← Fields.known, own, passed,
    List.append_nil] at filtered
  exact filtered

theorem ofJson?_of_get? {report : Report} {json : Json} {fields : Fields}
    (read : Fields.of? memberNames json = some fields)
    (get : ∀ member ∈ report.members, fields.get? member.1 = some member.2) :
    Entry.ofJson? json = some report.entry := by
  simp only [Report.members, List.forall_mem_cons] at get
  obtain ⟨clientHost, startUtc, routerName, method, path, protocol, status, size, count, duration,
    overhead, -⟩ := get
  have status : fields.optional? "OriginStatus" toInt64? = some (some (report.status : Int)) := by
    have isStatus := report.isStatus
    have fits : fitsSigned 64 report.status = true := by
      have bound : powerOfTwo 63 = 2 ^ 63 := rfl
      simp [fitsSigned, bound]
      omega
    have decoded := toInt64?_ofInt fits
    rw [ofInt_natCast] at decoded
    exact Fields.optional?_of_get? status (by simp [ofNat]) decoded
  have fits : report.size < powerOfTwo 64 ∧ report.count < powerOfTwo 64 := report.fits
  simp [Entry.ofJson?, read, Fields.withDefault?_of_get? clientHost,
    Fields.withDefault?_of_get? startUtc, Fields.withDefault?_of_get? routerName,
    Fields.withDefault?_of_get? method, Fields.withDefault?_of_get? path,
    Fields.withDefault?_of_get? protocol, status, Fields.withDefault?_of_get? size,
    Fields.withDefault?_of_get? count, Fields.withDefault?_of_get? duration,
    Fields.withDefault?_of_get? overhead, toUnsigned?_ofNat fits.1, toUnsigned?_ofNat fits.2,
    toFloat?_ofNat report.exact.1, toFloat?_ofNat report.exact.2,
    Report.entry]

theorem ofJson?_request {report : Report} {others : List (String × Json)}
    (order : members.Perm (report.members ++ others))
    (foreign : ∀ member ∈ others, member.1 ∉ memberNames) :
    Entry.ofJson? (.ofMembers members) = some report.entry := by
  have order := known_of_perm order foreign
  have distinct : ((Fields.known memberNames members).map (·.1)).Nodup := by
    have names : (report.members.map (·.1)).Nodup := by
      change memberNames.Nodup
      decide
    exact (order.map (·.1)).nodup_iff.mpr names
  refine ofJson?_of_get? (Fields.of?_ofMembers distinct) fun member isIn => ?_
  exact Entries.lookup_of_mem distinct (order.mem_iff.mpr isIn)

namespace IsRemark

variable {fields : Fields} (remark : IsRemark members)
  (own : ∀ name json, fields.get? name = some json → (name, json) ∈ members)

include remark own

theorem exists_text (name : String) (isText : name ∈ textNames) :
    ∃ s, fields.withDefault? name "" toText? = some s := by
  refine Fields.exists_withDefault? "" fun json found => ?_
  obtain ⟨s, rfl⟩ := remark.texts name isText json (own name json found)
  exact ⟨s, rfl⟩

theorem exists_count (name : String) (isCount : name ∈ ["OriginContentSize", "RequestCount"]) :
    ∃ n, fields.withDefault? name 0 (toUnsigned? (powerOfTwo 64)) = some n := by
  refine Fields.exists_withDefault? 0 fun json found => ?_
  obtain ⟨n, fits, rfl⟩ := remark.counts name isCount json (own name json found)
  exact ⟨n, toUnsigned?_ofNat fits⟩

theorem exists_amount (name : String) (isAmount : name ∈ ["Duration", "Overhead"]) :
    ∃ x, fields.withDefault? name 0 toFloat? = some x := by
  refine Fields.exists_withDefault? 0 fun json found => ?_
  obtain ⟨number, x, rfl, isNumber⟩ := remark.amounts name isAmount json (own name json found)
  exact ⟨x, isNumber⟩

theorem withDefault?_router : fields.withDefault? "RouterName" "" toText? = some "" := by
  cases found : fields.get? "RouterName" with
  | none => rw [Fields.withDefault?, found]
  | some json =>
      rw [Fields.withDefault?_of_get? found, remark.router json (own _ json found)]
      rfl

theorem optional?_status (isObject : fields.positional = false) :
    fields.optional? "OriginStatus" toInt64? = some none := by
  cases found : fields.get? "OriginStatus" with
  | none =>
      rw [Fields.optional?, found, isObject]
      rfl
  | some json =>
      rw [Fields.optional?, found, remark.status json (own _ json found)]
      rfl

end IsRemark

theorem exists_ofJson?_remark (remark : IsRemark members) :
    ∃ entry, Entry.ofJson? (.ofMembers members) = some entry ∧ entry.originStatus = none ∧
      entry.routerName = "" := by
  have read := Fields.of?_ofMembers remark.distinct
  -- A known member that was found is one of the line, so it has the type of its field.
  have own (name : String) (json : Json)
      (found : Fields.get? ⟨false, Fields.known memberNames members⟩ name = some json) :
      (name, json) ∈ members := List.mem_of_mem_filter (Entries.mem_of_lookup found)
  obtain ⟨clientHost, isClientHost⟩ := remark.exists_text own "ClientHost" (by decide)
  obtain ⟨startUtc, isStartUtc⟩ := remark.exists_text own "StartUTC" (by decide)
  obtain ⟨method, isMethod⟩ := remark.exists_text own "RequestMethod" (by decide)
  obtain ⟨path, isPath⟩ := remark.exists_text own "RequestPath" (by decide)
  obtain ⟨protocol, isProtocol⟩ := remark.exists_text own "RequestProtocol" (by decide)
  obtain ⟨size, isSize⟩ := remark.exists_count own "OriginContentSize" (by decide)
  obtain ⟨count, isCount⟩ := remark.exists_count own "RequestCount" (by decide)
  obtain ⟨duration, isDuration⟩ := remark.exists_amount own "Duration" (by decide)
  obtain ⟨overhead, isOverhead⟩ := remark.exists_amount own "Overhead" (by decide)
  simp [Entry.ofJson?, read, isClientHost, isStartUtc, remark.withDefault?_router own, isMethod,
    isPath, isProtocol, remark.optional?_status own rfl, isSize, isCount, isDuration, isOverhead]

theorem toRecord_entry (report : Report) : report.entry.toRecord = .ok report.record := by
  have isStatus := report.isStatus
  have status : statusOf? (report.status : Int) = some report.status := by
    simp [statusOf?, IngressMeter.isStatus, isStatus]
  have million : nanosPerMilli = (UInt64.ofNat 1000000).toFloat := by decide +kernel
  have measurable := Binary.measurable_div report.exact.1
  rw [← million] at measurable
  simp only [Entry.toRecord, Report.entry, Entry.record, Option.isNone_some, Bool.false_and,
    Option.getD_some, status, measurable]
  rfl

end Reading

/-- Reading undoes writing, for every way to write the members of a line. -/
theorem parse_written {members : List (String × Json)} {outcome : Except ParseError AccessRecord}
    (tells : Tells members outcome) {content : List Char}
    (written : Written (.ofMembers members) content) {line : String}
    (isLine : IsLineOf content line.toList) : parse line = outcome := by
  obtain ⟨begins, ends⟩ := ends_written written rfl
  have stripped := strip_trim begins ends (by decide) (by decide) (by decide) isLine
  have nonempty : content.isEmpty = false := by
    cases content with
    | nil => contradiction
    | cons => rfl
  have read : Json.read? content = some (.ofMembers members) := by
    have noSpace : IsSpaceText [] := by decide
    have read := read?_written noSpace written noSpace
    rwa [List.nil_append, List.append_nil] at read
  simp only [parse, stripped, nonempty, read, Option.bind_some]
  cases tells with
  | request report order foreign =>
      rw [ofJson?_request order foreign]
      exact toRecord_entry report
  | nothing remark =>
      obtain ⟨entry, decoded, noStatus, noRouter⟩ := exists_ofJson?_remark remark
      rw [decoded]
      simp [Entry.toRecord, noStatus, noRouter]

theorem parse_written_tagged :
    let report : Report := {
      clientHost := "10.0.0.1", startUtc := "2024-10-10T13:55:36Z", routerName := "shop@kubernetescrd"
      method := "GET", path := "/ü?q=\"\t", protocol := "HTTP/1.1", status := 200, size := 512
      count := 42, duration := 150000000, overhead := 0
      isStatus := by decide, fits := by decide, exact := by decide }
    let members := ("more", .array [.bool true, .null]) :: report.members.reverse
    let json := Json.ofMembers members
    Tells members (.ok report.record) ∧ Written json json.renderChars ∧
    parse ("\u00a0[proxy-0]  " ++ json.render ++ "\r\n") = .ok report.record ∧
    parse "\x7b \"\\u006Cevel\":\t\"info\"\x7d" = .error .notAnAccessLog := by
  intro report members json
  have tells : Tells members (.ok report.record) := by
    have order : members.Perm (report.members ++ [("more", .array [.bool true, .null])]) :=
      (List.perm_append_singleton _ _).symm.trans ((List.reverse_perm _).append_right _)
    exact .request report order (by decide)
  have written : Written json json.renderChars := by
    have more : WellFormed (.array [.bool true, .null]) := by
      refine .array ?_
      simp [WellFormed.bool, WellFormed.null]
    refine WellFormed.written (.object ?_)
    simp [members, Report.members, WellFormed.text, wellFormed_ofNat, more]
  have isLine : IsLineOf json.renderChars ("\u00a0[proxy-0]  " ++ json.render ++ "\r\n").toList := by
    have tagged := @IsLineOf.tagged json.renderChars ['\u00a0'] "proxy-0".toList [' '] ['\r', '\n']
      (by decide) (by decide) (by decide) (by decide)
    simpa [Json.render] using tagged
  have isRemark : IsRemark [("level", .text "info")] := by
    constructor
    · decide
    all_goals simp
  have noSpace : IsSpaceText [] := by decide
  have space : IsSpaceText [' '] := by decide
  have tab : IsSpaceText ['\t'] := by decide
  have first : CharText 'l' ['\\', 'u', '0', '0', '6', 'C'] := .code rfl rfl
  have others := charsText_escaped ['e', 'v', 'e', 'l']
  have name := @StringText.quoted "level" _ (.cons first others)
  have value := Written.string (stringText_renderString "info")
  have spelled := Written.object space (.last (.member name noSpace tab value noSpace))
  have noBlank : IsBlankText [] := by decide
  exact ⟨tells, written, parse_written tells written isLine,
    parse_written (.nothing isRemark) spelled (.untagged noBlank noBlank)⟩

end IngressMeter.AccessLog.Structured
