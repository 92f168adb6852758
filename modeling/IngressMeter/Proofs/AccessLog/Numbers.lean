import IngressMeter.AccessLog.Format
import IngressMeter.Proofs.AccessLog.RoundTrip
import IngressMeter.Proofs.Decimal.Order

/-!
The numbers of a line are checked one by one. If all of them can be read the line gives a record;
otherwise the first that cannot is named, and the record has whatever can be read. No record, in
either format, has a status that no response has or a duration that cannot be measured.
-/

namespace IngressMeter

namespace Decimal

def IsUnsigned (text : List Char) (n : Nat) : Prop :=
  ∃ digits, (text = digits ∨ text = '+' :: digits) ∧ digits ≠ [] ∧
    (∀ c ∈ digits, c.isDigit = true) ∧ Nat.ofDigitChars 10 digits 0 = n

theorem digits?_eq_some_iff {text : List Char} {n : Nat} :
    digits? text = some n ↔
      text ≠ [] ∧ (∀ c ∈ text, c.isDigit = true) ∧ Nat.ofDigitChars 10 text 0 = n := by
  have value : digitsValue text 0 = Nat.ofDigitChars 10 text 0 := by
    simp only [digitsValue, digitValue, Nat.ofDigitChars_eq_foldl, Nat.mul_comm]
  have allDigits : text.all isDigit = true ↔ ∀ c ∈ text, c.isDigit = true := List.all_eq_true
  rw [digits?, Option.ite_none_right_eq_some, Bool.and_eq_true, allDigits, value,
    Option.some.injEq, and_assoc]
  simp

theorem readUnsigned?_eq_some_iff {bound : Nat} {text : List Char} {n : Nat} :
    readUnsigned? bound text = some n ↔ IsUnsigned text n ∧ n < bound := by
  have ofDigits (digits : List Char) : (digits? digits).filter (· < bound) = some n ↔
      (digits ≠ [] ∧ (∀ c ∈ digits, c.isDigit = true) ∧ Nat.ofDigitChars 10 digits 0 = n) ∧
        n < bound := by
    rw [Option.filter_eq_some_iff, decide_eq_true_eq, digits?_eq_some_iff]
  have notSign {rest : List Char} : ¬∀ c ∈ '+' :: rest, c.isDigit = true := fun areDigits =>
    absurd (areDigits '+' List.mem_cons_self) (by decide)
  by_cases signed : ∃ rest, text = '+' :: rest
  · obtain ⟨rest, rfl⟩ := signed
    rw [readUnsigned?, ofDigits]
    refine and_congr_left fun _ => ⟨fun read => ⟨rest, Or.inr rfl, read⟩, ?_⟩
    rintro ⟨digits, rfl | same, read⟩
    · exact absurd read.2.1 notSign
    · obtain rfl := (List.cons.inj same).2
      exact read
  · rw [not_exists] at signed
    rw [readUnsigned?, ofDigits]
    · refine and_congr_left fun _ => ⟨fun read => ⟨text, Or.inl rfl, read⟩, ?_⟩
      rintro ⟨digits, rfl | same, read⟩
      · exact read
      · exact absurd same (signed digits)
    · exact signed

end Decimal

namespace AccessLog.Common

open Decimal

/-! What the text of a number may stand for. -/

def IsStatusText (text : List Char) (code : Nat) : Prop :=
  IsUnsigned text code ∧ 100 ≤ code ∧ code ≤ 599

def IsSizeText (text : List Char) (size : Nat) : Prop :=
  text = ['-'] ∧ size = 0 ∨ IsUnsigned text size ∧ size < 2 ^ 64

def IsCountText (text : List Char) (count : Nat) : Prop := IsUnsigned text count ∧ count < 2 ^ 64

def units (count : Nat) : List Char := (List.replicate count ['m', 's']).flatten

def IsDurationText (text : List Char) (amount : Float) : Prop :=
  ∃ number count, text = number ++ units count ∧ readFloat? number = some amount ∧
    0 ≤ amount ∧ amount.isFinite = true

theorem status?_eq_some_iff {text : List Char} {code : Nat} :
    status? text = some code ↔ IsStatusText text code := by
  have below : code ≤ 599 → code < powerOfTwo 16 := fun le => Nat.lt_of_le_of_lt le (by decide)
  rw [status?, Option.filter_eq_some_iff, readUnsigned?_eq_some_iff, IsStatusText, isStatus,
    Bool.and_eq_true, decide_eq_true_eq, decide_eq_true_eq]
  tauto

theorem size?_eq_some_iff {text : List Char} {size : Nat} :
    size? text = some size ↔ IsSizeText text size := by
  have dash : ¬IsUnsigned ['-'] size := by
    rintro ⟨digits, same, _, areDigits, _⟩
    obtain rfl : ['-'] = digits := same.resolve_right (by simp)
    exact absurd (areDigits '-' List.mem_cons_self) (by decide)
  rw [size?, IsSizeText]
  split
  · rename_i isDash
    simp [isDash, dash, eq_comm]
  · rename_i notDash
    rw [readUnsigned?_eq_some_iff]
    simp only [notDash, false_and, false_or]
    rfl

theorem count?_eq_some_iff {text : List Char} {count : Nat} :
    count? text = some count ↔ IsCountText text count := readUnsigned?_eq_some_iff

theorem units_succ (count : Nat) : units (count + 1) = units count ++ ['m', 's'] := by
  rw [units, List.replicate_succ', List.flatten_concat]
  rfl

theorem exists_units (text : List Char) :
    ∃ count, text.reverse = (dropUnit text).reverse ++ units count := by
  induction text using dropUnit.induct with
  | case1 rest ih =>
      obtain ⟨count, split⟩ := ih
      refine ⟨count + 1, ?_⟩
      rw [dropUnit, units_succ, ← List.append_assoc, ← split]
      simp
  | case2 text other =>
      rw [dropUnit]
      · exact ⟨0, by simp [units]⟩
      · exact other

theorem dropUnit_units {number : List Char} (plain : ∀ c ∈ number, IsPlain c) (count : Nat) :
    dropUnit (number ++ units count).reverse = number.reverse := by
  induction count with
  | zero =>
      have kept := Entry.dropUnit_append plain
      rw [List.reverse_append] at kept
      simpa [units, dropUnit] using kept
  | succ count ih =>
      rw [units_succ, ← List.append_assoc, List.reverse_append]
      exact ih

theorem duration?_eq_some_iff {text : List Char} {amount : Float} :
    duration? text = some amount ↔ IsDurationText text amount := by
  rw [duration?, Option.filter_eq_some_iff, isDuration, Bool.and_eq_true, decide_eq_true_eq]
  constructor
  · rintro ⟨reads, measurable⟩
    obtain ⟨count, split⟩ := exists_units text.reverse
    rw [List.reverse_reverse] at split
    exact ⟨_, count, split, reads, measurable⟩
  · rintro ⟨number, count, rfl, reads, measurable⟩
    rw [dropUnit_units (isPlain_of_readFloat? reads), List.reverse_reverse]
    exact ⟨reads, measurable⟩

def IsValueOf {α : Type} [OfNat α 0] (standsFor : α → Prop) (value : α) : Prop :=
  (∀ told, standsFor told → value = told) ∧ ((∀ told, ¬standsFor told) → value = 0)

theorem isValueOf_getD {α : Type} [OfNat α 0] {standsFor : α → Prop} {read : Option α}
    (reads : ∀ {told}, read = some told ↔ standsFor told) : IsValueOf standsFor (read.getD 0) := by
  constructor
  · intro told stands
    rw [reads.mpr stands, Option.getD_some]
  · intro none
    have unread : read = Option.none :=
      Option.eq_none_iff_forall_ne_some.mpr fun told isSome => none told (reads.mp isSome)
    rw [unread, Option.getD_none]

theorem isSome_iff_exists {α : Type} {standsFor : α → Prop} {read : Option α}
    (reads : ∀ {told}, read = some told ↔ standsFor told) :
    read.isSome = true ↔ ∃ told, standsFor told := by
  rw [Option.isSome_iff_exists]
  exact exists_congr fun _ => reads

end AccessLog.Common

namespace AccessLog

def NumericField.inOrder : List NumericField :=
  [.originStatus, .originContentSize, .requestCount, .duration]

namespace Common.Fields

def numberText (fields : Fields) : NumericField → List Char
  | .originStatus => fields.status
  | .originContentSize => fields.size
  | .requestCount => fields.count
  | .duration => fields.duration

def IsReadable (fields : Fields) : NumericField → Prop
  | .originStatus => ∃ code, IsStatusText fields.status code
  | .originContentSize => ∃ size, IsSizeText fields.size size
  | .requestCount => ∃ count, IsCountText fields.count count
  | .duration => ∃ amount, IsDurationText fields.duration amount

def isReadable (fields : Fields) : NumericField → Bool
  | .originStatus => (status? fields.status).isSome
  | .originContentSize => (size? fields.size).isSome
  | .requestCount => (count? fields.count).isSome
  | .duration => (duration? fields.duration).isSome

theorem isReadable_iff (fields : Fields) (field : NumericField) :
    fields.isReadable field = true ↔ fields.IsReadable field := by
  cases field with
  | originStatus => exact isSome_iff_exists status?_eq_some_iff
  | originContentSize => exact isSome_iff_exists size?_eq_some_iff
  | requestCount => exact isSome_iff_exists count?_eq_some_iff
  | duration => exact isSome_iff_exists duration?_eq_some_iff

instance (fields : Fields) (field : NumericField) : Decidable (fields.IsReadable field) :=
  decidable_of_iff _ (fields.isReadable_iff field)

/-- The number that cannot be read while all that are checked before it can. -/
def IsFirstDefect (fields : Fields) (field : NumericField) : Prop :=
  ¬fields.IsReadable field ∧ ∃ before after, NumericField.inOrder = before ++ field :: after ∧
    ∀ earlier ∈ before, fields.IsReadable earlier

/-- The texts of a line in a record, with each number that its text stands for and zero for any
other. -/
structure Fills (fields : Fields) (record : AccessRecord) : Prop where
  clientHost : record.clientHost = String.ofList fields.host
  startUtc : record.startUtc = String.ofList fields.start
  routerName : record.routerName = String.ofList (unquote fields.router)
  method : record.method = String.ofList fields.method
  path : record.path = String.ofList fields.path
  protocol : record.protocol = String.ofList fields.protocol
  originStatus : IsValueOf (IsStatusText fields.status) record.originStatus
  originContentSize : IsValueOf (IsSizeText fields.size) record.originContentSize
  requestCount : IsValueOf (IsCountText fields.count) record.requestCount
  duration : IsValueOf (IsDurationText fields.duration) record.durationMs
  overhead : record.overheadMs = 0

theorem fills_record (fields : Fields) : fields.Fills fields.record where
  clientHost := rfl
  startUtc := rfl
  routerName := rfl
  method := rfl
  path := rfl
  protocol := rfl
  originStatus := isValueOf_getD status?_eq_some_iff
  originContentSize := isValueOf_getD size?_eq_some_iff
  requestCount := isValueOf_getD count?_eq_some_iff
  duration := isValueOf_getD duration?_eq_some_iff
  overhead := rfl

theorem defect?_eq (fields : Fields) : fields.defect? =
    (NumericField.inOrder.find? (!fields.isReadable ·)).map
      fun field => (field, fields.numberText field) := by
  simp only [defect?, NumericField.inOrder, List.find?_cons, isReadable]
  cases status? fields.status with
  | none => rfl
  | some code =>
      cases size? fields.size with
      | none => rfl
      | some size =>
          cases count? fields.count with
          | none => rfl
          | some count =>
              cases duration? fields.duration with
              | none => rfl
              | some amount => rfl

theorem defect?_eq_some_iff {fields : Fields} {field : NumericField} {value : List Char} :
    fields.defect? = some (field, value) ↔
      fields.IsFirstDefect field ∧ fields.numberText field = value := by
  have isFirst (found : NumericField) :
      NumericField.inOrder.find? (!fields.isReadable ·) = some found ↔
        fields.IsFirstDefect found := by
    simp only [List.find?_eq_some_iff_append, IsFirstDefect, Bool.not_eq_true', Bool.not_not,
      ← Bool.not_eq_true, isReadable_iff]
  rw [defect?_eq, Option.map_eq_some_iff]
  simp only [isFirst, Prod.mk.injEq]
  constructor
  · rintro ⟨found, first, rfl, text⟩
    exact ⟨first, text⟩
  · rintro ⟨first, text⟩
    exact ⟨field, first, rfl, text⟩

theorem defect?_eq_none_iff {fields : Fields} :
    fields.defect? = none ↔ ∀ field, fields.IsReadable field := by
  have all : ∀ field, field ∈ NumericField.inOrder := by rintro ⟨⟩ <;> decide
  rw [defect?_eq, Option.map_eq_none_iff, List.find?_eq_none]
  simp only [Bool.not_eq_true', Bool.not_eq_false, isReadable_iff]
  exact forall_congr' fun field => forall_prop_of_true (all field)

theorem toRecord_eq_ok_iff {fields : Fields} :
    fields.toRecord = .ok fields.record ↔ ∀ field, fields.IsReadable field := by
  rw [← defect?_eq_none_iff, toRecord]
  cases fields.defect? with
  | none => simp
  | some defect => simp

theorem toRecord_eq_error_iff {fields : Fields} {field : NumericField} :
    fields.toRecord = .error (.invalidField field (String.ofList (fields.numberText field))
      fields.record) ↔ fields.IsFirstDefect field := by
  have first : fields.IsFirstDefect field ↔
      fields.defect? = some (field, fields.numberText field) := by simp [defect?_eq_some_iff]
  rw [first, toRecord]
  cases fields.defect? with
  | none => simp
  | some defect =>
      obtain ⟨found, value⟩ := defect
      simp [String.ofList_inj]

end Common.Fields

end AccessLog

/-- What every record promises: a status that a response can have and a duration that can be
measured. -/
structure AccessRecord.IsSound (record : AccessRecord) : Prop where
  status : 100 ≤ record.originStatus ∧ record.originStatus ≤ 599
  duration : 0 ≤ record.durationMs ∧ record.durationMs.isFinite = true

namespace AccessLog

theorem Common.Fields.isSound_of_toRecord {fields : Fields} {record : AccessRecord}
    (isRecord : fields.toRecord = .ok record) : record.IsSound := by
  have same : record = fields.record := by
    rw [toRecord] at isRecord
    split at isRecord
    · contradiction
    · exact (Except.ok.inj isRecord).symm
  rw [same] at isRecord
  have readable := toRecord_eq_ok_iff.mp isRecord
  obtain ⟨code, isStatus⟩ : ∃ code, IsStatusText fields.status code := readable .originStatus
  obtain ⟨amount, isDuration⟩ : ∃ amount, IsDurationText fields.duration amount :=
    readable .duration
  have fills := fields.fills_record
  rw [same]
  constructor
  · rw [fills.originStatus.1 code isStatus]
    exact isStatus.2
  · rw [fills.duration.1 amount isDuration]
    obtain ⟨_, _, _, _, measurable⟩ := isDuration
    exact measurable

theorem Structured.isStatus_of_statusOf? {status : Int} {code : Nat}
    (read : statusOf? status = some code) : 100 ≤ code ∧ code ≤ 599 := by
  rw [statusOf?, Option.ite_none_right_eq_some, Bool.and_eq_true] at read
  obtain ⟨⟨_, inRange⟩, same⟩ := read
  rw [← Option.some.inj same]
  simpa [isStatus] using inRange

theorem Structured.Entry.isSound_of_toRecord {entry : Entry} {record : AccessRecord}
    (isRecord : entry.toRecord = .ok record) : record.IsSound := by
  simp only [toRecord] at isRecord
  split at isRecord
  · contradiction
  · split at isRecord
    · contradiction
    · rename_i code isStatus
      split at isRecord
      · contradiction
      · rename_i measurable
        obtain rfl := Except.ok.inj isRecord
        simp only [Bool.or_eq_true, decide_eq_true_eq, Bool.not_eq_true', not_or,
          Bool.not_eq_false] at measurable
        constructor
        · exact isStatus_of_statusOf? isStatus
        · exact ⟨Binary.nonneg_of_isFinite measurable.2 measurable.1, measurable.2⟩

theorem Common.parse_eq_toRecord {line : String} {fields : Fields}
    (looks : looksLikeAccessLog (trim line.toList) = true)
    (matched : fields? (PodTag.strip (trim line.toList)) = some fields) :
    parse line = fields.toRecord := by
  have nonempty : (trim line.toList).isEmpty = false := by
    rw [List.isEmpty_eq_false_iff]
    intro nothing
    rw [nothing] at looks
    contradiction
  simp only [parse, nonempty, looks, matched]
  rfl

end AccessLog

theorem LogFormat.isSound_of_parse {format : LogFormat} {line : String} {record : AccessRecord}
    (parsed : format.parse line = .ok record) : record.IsSound := by
  cases format with
  | common =>
      simp only [parse, AccessLog.Common.parse] at parsed
      split at parsed
      · contradiction
      · split at parsed
        · contradiction
        · split at parsed
          · contradiction
          · exact AccessLog.Common.Fields.isSound_of_toRecord parsed
  | json =>
      simp only [parse, AccessLog.Structured.parse] at parsed
      split at parsed
      · contradiction
      · split at parsed
        · contradiction
        · exact AccessLog.Structured.Entry.isSound_of_toRecord parsed

/-- A line in which the quick look and the fields of the common format are found gives a record if
all its numbers can be read, and otherwise the first that cannot, with its text; in both cases the
record has the texts of the line, each number that can be read, and zero for the others. Every
record of either format has a status between 100 and 599 and a duration that is finite and not
negative. -/
theorem LogFormat.parse_checks_numbers :
    (∀ {line : String} {fields : AccessLog.Common.Fields},
      AccessLog.Common.looksLikeAccessLog (trim line.toList) = true →
      AccessLog.Common.fields? (PodTag.strip (trim line.toList)) = some fields →
      ∃ record, fields.Fills record ∧
        (common.parse line = .ok record ↔ ∀ field, fields.IsReadable field) ∧
        ∀ field, common.parse line = .error
          (.invalidField field (String.ofList (fields.numberText field)) record) ↔
            fields.IsFirstDefect field) ∧
    ∀ {format : LogFormat} {line : String} {record : AccessRecord},
      format.parse line = .ok record →
        (100 ≤ record.originStatus ∧ record.originStatus ≤ 599) ∧
          0 ≤ record.durationMs ∧ record.durationMs.isFinite = true := by
  refine ⟨fun {line fields} looks matched => ?_, fun parsed => ?_⟩
  · have parsed : common.parse line = fields.toRecord :=
      AccessLog.Common.parse_eq_toRecord looks matched
    rw [parsed]
    exact ⟨fields.record, fields.fills_record, AccessLog.Common.Fields.toRecord_eq_ok_iff,
      fun _ => AccessLog.Common.Fields.toRecord_eq_error_iff⟩
  · have sound := isSound_of_parse parsed
    exact ⟨sound.status, sound.duration⟩

def AccessLog.Common.defectiveFields : Fields where
  host := "10.0.0.1".toList
  user := ['-']
  start := "now".toList
  method := "GET".toList
  path := "/a".toList
  protocol := "HTTP/1.1".toList
  status := "+0404".toList
  size := "x".toList
  referrer := ['-']
  agent := ['-']
  count := "7".toList
  router := "\"web\"".toList
  backend := ['-']
  duration := "-5msms".toList

theorem LogFormat.parse_checks_numbers_defects :
    let line := "10.0.0.1 - - [now] \"GET /a HTTP/1.1\" +0404 x - - 7 \"web\" - -5msms"
    let fields := AccessLog.Common.defectiveFields
    let structured := "\x7b\"OriginStatus\": 200, \"Duration\": 1500000\x7d"
    AccessLog.Common.looksLikeAccessLog (trim line.toList) = true ∧
    AccessLog.Common.fields? (PodTag.strip (trim line.toList)) = some fields ∧
    (∃ record, common.parse line = .error (.invalidField .originContentSize "x" record) ∧
      record.path = "/a" ∧ record.originStatus = 404 ∧ record.originContentSize = 0 ∧
      record.requestCount = 7 ∧ record.durationMs = 0) ∧
    ∃ record, json.parse structured = .ok record ∧ 0 ≤ record.durationMs := by
  intro line fields structured
  have looks : AccessLog.Common.looksLikeAccessLog (trim line.toList) = true := by decide +kernel
  have matched : AccessLog.Common.fields? (PodTag.strip (trim line.toList)) = some fields := by
    decide +kernel
  obtain ⟨checked, sound⟩ := parse_checks_numbers
  obtain ⟨record, fills, _, defects⟩ := checked looks matched
  refine ⟨looks, matched, ⟨record, ?_, fills.path.trans (by decide +kernel), ?_, ?_, ?_, ?_⟩, ?_⟩
  · refine (defects .originContentSize).mpr ⟨by decide +kernel, [.originStatus],
      [.requestCount, .duration], rfl, ?_⟩
    rw [List.forall_mem_singleton]
    decide +kernel
  · exact fills.originStatus.1 404 (AccessLog.Common.status?_eq_some_iff.mp (by decide +kernel))
  · have unreadable : ¬fields.IsReadable .originContentSize := by decide +kernel
    exact fills.originContentSize.2 (not_exists.mp unreadable)
  · exact fills.requestCount.1 7 (AccessLog.Common.count?_eq_some_iff.mp (by decide +kernel))
  · have unreadable : ¬fields.IsReadable .duration := by decide +kernel
    exact fills.duration.2 (not_exists.mp unreadable)
  · have isOk : (json.parse structured).isOk = true := by decide +kernel
    cases parsed : json.parse structured with
    | error error =>
        rw [parsed] at isOk
        contradiction
    | ok record => exact ⟨record, rfl, (sound parsed).2.1⟩

end IngressMeter
