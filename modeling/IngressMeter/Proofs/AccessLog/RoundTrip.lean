import IngressMeter.Proofs.AccessLog.Line
import IngressMeter.Proofs.AccessLog.PodTag
import IngressMeter.Proofs.Decimal.Reading

/-!
Parsing undoes writing: a request written as a line of the common log format, with or without the
tag of a pod, is read from it again.
-/

namespace IngressMeter

namespace AccessLog.Common

/-- A request as a line tells it. A quoted field is `none` where the line has a dash. -/
structure Entry where
  host : List Char
  user : List Char
  start : List Char
  method : List Char
  path : List Char
  protocol : List Char
  status : Nat
  size : Option Nat
  referrer : Option (List Char)
  agent : Option (List Char)
  count : Nat
  router : Option (List Char)
  backend : Option (List Char)
  duration : List Char

namespace Entry

def quote : Option (List Char) → List Char
  | some inner => '"' :: (inner ++ ['"'])
  | none => ['-']

def fields (entry : Entry) : Fields where
  host := entry.host
  user := entry.user
  start := entry.start
  method := entry.method
  path := entry.path
  protocol := entry.protocol
  status := Decimal.natDigits entry.status
  size := (entry.size.map Decimal.natDigits).getD ['-']
  referrer := quote entry.referrer
  agent := quote entry.agent
  count := Decimal.natDigits entry.count
  router := quote entry.router
  backend := quote entry.backend
  duration := entry.duration ++ ['m', 's']

def line (pod : Option String) (entry : Entry) : String :=
  match pod with
  | some pod => PodTag.add pod (String.ofList entry.fields.line)
  | none => String.ofList entry.fields.line

/-- What the format can tell apart. The path may have blanks anywhere, and the method quotes. -/
structure WellFormed (entry : Entry) : Prop where
  host : IsWord entry.host
  untagged : entry.host.head? ≠ some '['
  user : IsWord entry.user
  start : HasShape startShape entry.start
  method : IsWord entry.method
  path : IsEscaped entry.path
  protocol : IsBare entry.protocol
  status : 100 ≤ entry.status ∧ entry.status ≤ 599
  size : ∀ size ∈ entry.size, size < powerOfTwo 64
  referrer : ∀ inner ∈ entry.referrer, '"' ∉ inner
  agent : ∀ inner ∈ entry.agent, '"' ∉ inner
  count : entry.count < powerOfTwo 64
  router : ∀ inner ∈ entry.router, '"' ∉ inner
  backend : ∀ inner ∈ entry.backend, '"' ∉ inner

def record (entry : Entry) (amount : Float) : AccessRecord where
  clientHost := String.ofList entry.host
  startUtc := String.ofList entry.start
  routerName := String.ofList (entry.router.getD ['-'])
  method := String.ofList entry.method
  path := String.ofList entry.path
  protocol := String.ofList entry.protocol
  originStatus := entry.status
  originContentSize := entry.size.getD 0
  requestCount := entry.count
  durationMs := amount

theorem isQuotedOrDash_quote {text : Option (List Char)} (unquoted : ∀ inner ∈ text, '"' ∉ inner) :
    IsQuotedOrDash (quote text) := by
  cases text with
  | none => exact Or.inl rfl
  | some inner => exact Or.inr ⟨inner, rfl, unquoted inner rfl⟩

theorem isWord_natDigits (n : Nat) : IsWord (Decimal.natDigits n) :=
  ⟨Decimal.natDigits_ne_nil n, fun c isIn =>
    (Decimal.isPlain_of_isDigit (Decimal.isDigit_natDigits n c isIn)).1⟩

theorem unquote_quote {text : Option (List Char)} (unquoted : ∀ inner ∈ text, '"' ∉ inner) :
    unquote (quote text) = text.getD ['-'] := by
  have kept : ∀ {text : List Char}, '"' ∉ text → text.dropWhile (· = '"') = text := by
    intro text unquoted
    cases text with
    | nil => rfl
    | cons c text =>
        rw [List.mem_cons, not_or] at unquoted
        simp [Ne.symm unquoted.1]
  cases text with
  | none => decide
  | some inner =>
      have unquoted := unquoted inner rfl
      cases inner with
      | nil => decide
      | cons c inner =>
          have opened : ('"' :: (c :: inner ++ ['"'])).dropWhile (· = '"') = c :: inner ++ ['"'] := by
            rw [List.mem_cons, not_or] at unquoted
            simp [Ne.symm unquoted.1]
          have closed : ((c :: inner).reverse).dropWhile (· = '"') = (c :: inner).reverse :=
            kept (by rwa [List.mem_reverse])
          rw [unquote, quote, opened, dropEndWhile, List.reverse_append, List.reverse_singleton,
            List.singleton_append, List.dropWhile_cons_of_pos (by decide), closed,
            List.reverse_reverse]
          rfl

theorem dropUnit_append {duration : List Char} (plain : ∀ c ∈ duration, Decimal.IsPlain c) :
    dropUnit (duration ++ ['m', 's']).reverse = duration.reverse := by
  rw [List.reverse_append]
  have kept : dropUnit duration.reverse = duration.reverse := by
    cases text : duration.reverse with
    | nil => rfl
    | cons c rest =>
        have isIn : c ∈ duration := by
          rw [← List.mem_reverse, text]
          exact List.mem_cons_self
        rw [dropUnit]
        rintro rest' same
        exact (plain c isIn).2 (List.cons.inj same).1
  exact kept

theorem size?_eq {size : Option Nat} (below : ∀ n ∈ size, n < powerOfTwo 64) :
    size? ((size.map Decimal.natDigits).getD ['-']) = some (size.getD 0) := by
  cases size with
  | none => rfl
  | some n =>
      have notDash : Decimal.natDigits n ≠ ['-'] := by
        intro dash
        have digit := Decimal.isDigit_natDigits n '-' (dash ▸ List.mem_singleton_self '-')
        contradiction
      rw [Option.map_some, Option.getD_some, size?, if_neg notDash]
      exact Decimal.readUnsigned?_natDigits (below n rfl)

section Read

variable {entry : Entry} (wellFormed : entry.WellFormed) {amount : Float}
  (reads : Decimal.readFloat? entry.duration = some amount)

include wellFormed reads

theorem WellFormed.fields : entry.fields.WellFormed where
  host := wellFormed.host
  user := wellFormed.user
  start := wellFormed.start
  method := wellFormed.method
  path := wellFormed.path
  protocol := wellFormed.protocol
  status := isWord_natDigits entry.status
  size := by
    cases size : entry.size with
    | none =>
        simp only [Entry.fields, size]
        decide
    | some n =>
        simp only [Entry.fields, size]
        exact isWord_natDigits n
  referrer := isQuotedOrDash_quote wellFormed.referrer
  agent := isQuotedOrDash_quote wellFormed.agent
  count := isWord_natDigits entry.count
  router := isQuotedOrDash_quote wellFormed.router
  backend := isQuotedOrDash_quote wellFormed.backend
  duration := by
    have unit : IsWord ['m', 's'] := by decide
    refine ⟨List.append_ne_nil_of_right_ne_nil _ (List.cons_ne_nil _ _), ?_⟩
    rw [Entry.fields, List.forall_mem_append]
    exact ⟨fun c isIn => (Decimal.isPlain_of_readFloat? reads c isIn).1, unit.2⟩

theorem toRecord_fields (measurable : isDuration amount = true) :
    entry.fields.toRecord = .ok (entry.record amount) := by
  have status : status? entry.fields.status = some entry.status := by
    have below : entry.status < powerOfTwo 16 :=
      Nat.lt_of_le_of_lt wellFormed.status.2 (by decide)
    have isStatus : isStatus entry.status = true := by simpa [isStatus] using wellFormed.status
    rw [status?, Entry.fields, Decimal.readUnsigned?_natDigits below]
    simp [isStatus]
  have size : size? entry.fields.size = some (entry.size.getD 0) := size?_eq wellFormed.size
  have count : count? entry.fields.count = some entry.count :=
    Decimal.readUnsigned?_natDigits wellFormed.count
  have duration : duration? entry.fields.duration = some amount := by
    rw [duration?, Entry.fields, dropUnit_append (Decimal.isPlain_of_readFloat? reads),
      List.reverse_reverse, reads]
    simp [measurable]
  have defect : entry.fields.defect? = none := by
    simp [Fields.defect?, status, size, count, duration]
  have record : entry.fields.record = entry.record amount := by
    simp only [Fields.record, status, size, count, duration, Option.getD_some]
    simp only [Entry.fields, Entry.record, unquote_quote wellFormed.router]
  rw [Fields.toRecord, defect, record]

end Read

def tag : Option String → List Char
  | some pod => '[' :: (pod.toList ++ [']', ' '])
  | none => []

theorem toList_line (pod : Option String) (entry : Entry) :
    (entry.line pod).toList = tag pod ++ entry.fields.line := by
  cases pod with
  | none => simp [line, tag]
  | some pod => simp [line, tag, PodTag.add]

/-- A line is read as the entry it was written from. -/
theorem parse_line {pod : Option String} {entry : Entry} {amount : Float}
    (isTag : ∀ name ∈ pod, PodTag.IsTag name.toList) (wellFormed : entry.WellFormed)
    (reads : Decimal.readFloat? entry.duration = some amount)
    (measurable : isDuration amount = true) :
    parse (entry.line pod) = .ok (entry.record amount) := by
  have areFields := wellFormed.fields reads
  obtain ⟨first, host, isHost⟩ := List.exists_cons_of_ne_nil wellFormed.host.1
  have nonBlank : isBlank first = false :=
    wellFormed.host.2 first (isHost ▸ List.mem_cons_self)
  have isFirst : entry.fields.line.head? = some first := by
    simp only [Fields.line, intercalate_cons, Entry.fields, isHost]
    rfl
  have isLast : (tag pod ++ entry.fields.line).getLast? = some 's' := by
    obtain ⟨before, isLine⟩ := Fields.duration_suffix_line entry.fields
    rw [← isLine, Entry.fields, ← List.append_assoc, ← List.append_assoc, List.getLast?_append]
    rfl
  have looks : looksLikeAccessLog (tag pod ++ entry.fields.line) = true := by
    rw [looksLikeAccessLog, hasTimestamp_append _ (Fields.hasTimestamp_line areFields),
      Bool.or_true]
  have stripped : PodTag.strip (tag pod ++ entry.fields.line) = entry.fields.line := by
    cases pod with
    | none =>
        refine PodTag.strip_of_untagged ?_
        rw [tag, List.nil_append, isFirst]
        simpa [isHost] using wellFormed.untagged
    | some pod =>
        have taken := PodTag.strip_tagged (isTag pod rfl) isFirst nonBlank
        simpa [tag] using taken
  have trimmed : trim (tag pod ++ entry.fields.line) = tag pod ++ entry.fields.line := by
    cases pod with
    | none => exact trim_eq_self isFirst isLast nonBlank (by decide)
    | some pod => exact trim_eq_self rfl isLast (by decide) (by decide)
  have nonempty : (tag pod ++ entry.fields.line).isEmpty = false := by
    rw [List.isEmpty_eq_false_iff]
    intro nothing
    rw [nothing] at isLast
    contradiction
  simp only [parse, toList_line, trimmed, nonempty, looks, stripped,
    Fields.fields?_line areFields]
  exact toRecord_fields wellFormed reads measurable

def escapedEntry : Entry where
  host := "2001:db8::1".toList
  user := ['-']
  start := "10/Oct/2024:13:55:36 +0000".toList
  method := "GET".toList
  path := "/find \\\"a b\\\" c".toList
  protocol := "HTTP/1.1".toList
  status := 204
  size := none
  referrer := none
  agent := some "Mozilla/5.0 (X11; Linux)".toList
  count := 42
  router := some "web@kubernetes".toList
  backend := some "http://10.42.0.7:8080".toList
  duration := "150.5".toList

theorem parse_line_escaped :
    (∀ name ∈ some "traefik-7d9f", PodTag.IsTag name.toList) ∧
    escapedEntry.WellFormed ∧
    parse ("[traefik-7d9f] 2001:db8::1 - - [10/Oct/2024:13:55:36 +0000] " ++
        "\"GET /find \\\"a b\\\" c HTTP/1.1\" 204 - - \"Mozilla/5.0 (X11; Linux)\" 42 " ++
        "\"web@kubernetes\" \"http://10.42.0.7:8080\" 150.5ms") =
      .ok {
        clientHost := "2001:db8::1"
        startUtc := "10/Oct/2024:13:55:36 +0000"
        routerName := "web@kubernetes"
        method := "GET"
        path := "/find \\\"a b\\\" c"
        protocol := "HTTP/1.1"
        originStatus := 204
        originContentSize := 0
        requestCount := 42
        durationMs := Float.ofBits 0x4062d00000000000 } := by
  have isTag : ∀ name ∈ some "traefik-7d9f", PodTag.IsTag name.toList := by
    rintro _ ⟨⟩
    decide +kernel
  have wellFormed : escapedEntry.WellFormed := by
    constructor <;> decide +kernel
  have reads : Decimal.readFloat? escapedEntry.duration =
      some (Float.ofBits 0x4062d00000000000) := by
    rfl
  have measurable : isDuration (Float.ofBits 0x4062d00000000000) = true := by decide +kernel
  refine ⟨isTag, wellFormed, ?_⟩
  have parsed := parse_line isTag wellFormed reads measurable
  have isLine : escapedEntry.line (some "traefik-7d9f") =
      "[traefik-7d9f] 2001:db8::1 - - [10/Oct/2024:13:55:36 +0000] " ++
        "\"GET /find \\\"a b\\\" c HTTP/1.1\" 204 - - \"Mozilla/5.0 (X11; Linux)\" 42 " ++
        "\"web@kubernetes\" \"http://10.42.0.7:8080\" 150.5ms" := by
    decide +kernel
  rw [isLine] at parsed
  exact parsed

end Entry

end AccessLog.Common

end IngressMeter
