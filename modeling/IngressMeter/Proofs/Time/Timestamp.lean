import IngressMeter.Proofs.Decimal.Reading
import IngressMeter.Proofs.Text.Pieces
import IngressMeter.Proofs.Time.Calendar
import IngressMeter.Time.Timestamp
import Mathlib.Algebra.Group.Nat.Defs

/-!
The text of a time in whole seconds is read as this time again.
-/

namespace IngressMeter.Timestamp

theorem digitsValue_padLeft (width n : Nat) : Decimal.digitsValue (padLeft width n) 0 = n := by
  have zeros : ∀ count, Decimal.digitsValue (Decimal.zeros count) 0 = 0 := by
    intro count
    induction count with
    | zero => rfl
    | succ count ih => exact ih
  rw [padLeft, Decimal.digitsValue, List.foldl_append]
  change Decimal.digitsValue _ (Decimal.digitsValue _ 0) = n
  rw [zeros, Decimal.digitsValue_natDigits]

theorem isDigit_padLeft (width n : Nat) : ∀ c ∈ padLeft width n, Decimal.isDigit c = true := by
  rw [padLeft, List.forall_mem_append]
  refine ⟨?_, Decimal.isDigit_natDigits n⟩
  intro c isIn
  rw [(List.mem_replicate.mp isIn).2]
  rfl

theorem length_padLeft {width n : Nat} (positive : 0 < width) (below : n < 10 ^ width) :
    (padLeft width n).length = width := by
  have length := (Nat.length_toDigits_le_iff (b := 10) (by decide) positive).mpr below
  rw [padLeft, List.length_append, Decimal.zeros, List.length_replicate]
  rw [Decimal.natDigits] at *
  omega

section Padded

variable {width n : Nat} (positive : 0 < width) (below : n < 10 ^ width)

include positive below

theorem exists_cons_padLeft :
    ∃ c digits, padLeft width n = c :: digits ∧ Decimal.isDigit c = true := by
  have length := length_padLeft positive below
  cases digits : padLeft width n with
  | nil =>
      rw [digits] at length
      simp at length
      omega
  | cons c others => exact ⟨c, others, rfl, isDigit_padLeft width n c (digits ▸ List.mem_cons_self)⟩

theorem readNumber?_padLeft (rest : List Char) :
    readNumber? width (padLeft width n ++ rest) = some (n, rest) := by
  have length := length_padLeft positive below
  have taken : (padLeft width n ++ rest).take width = padLeft width n := by
    rw [List.take_append_of_le_length (by omega), List.take_of_length_le (by omega)]
  have digits : (padLeft width n).takeWhile Decimal.isDigit = padLeft width n :=
    List.takeWhile_eq_self_iff.mpr (isDigit_padLeft width n)
  have nonempty : (padLeft width n).isEmpty = false := by
    rw [List.isEmpty_eq_false_iff, ← List.length_pos_iff]
    omega
  simp only [readNumber?, taken, digits, nonempty, digitsValue_padLeft, List.drop_left]
  rfl

theorem trimStart_padLeft (rest : List Char) :
    trimStart (padLeft width n ++ rest) = padLeft width n ++ rest := by
  obtain ⟨c, digits, split, isDigit⟩ := exists_cons_padLeft positive below
  rw [split]
  exact trimStart_eq_self rfl (Decimal.isPlain_of_isDigit isDigit).1

end Padded

theorem readField?_padLeft {n : Nat} (below : n < 100) (rest : List Char) :
    readField? (padLeft 2 n ++ rest) = some (n, rest) := by
  rw [readField?, trimStart_padLeft (by decide) below, readNumber?_padLeft (by decide) below]

theorem readYear?_yearDigits (year : Int) (first : 0 ≤ year) (last : year ≤ 9999)
    (rest : List Char) : readYear? (yearDigits year ++ rest) = some (year, rest) := by
  obtain ⟨n, rfl⟩ := Int.eq_ofNat_of_zero_le first
  have below : n < 10 ^ 4 := by omega
  have digits : yearDigits (n : Int) = padLeft 4 n := by
    simp [yearDigits]
    omega
  have wide : 0 < 4 := by decide
  have read := readNumber?_padLeft wide below rest
  obtain ⟨c, others, split, isDigit⟩ := exists_cons_padLeft wide below
  rw [digits, readYear?, trimStart_padLeft (by decide) below]
  rw [split, List.cons_append] at read ⊢
  split
  · rename_i same
    rw [(List.cons.inj same).1] at isDigit
    contradiction
  · rename_i same
    rw [(List.cons.inj same).1] at isDigit
    contradiction
  · rw [read]
    rfl

theorem separator?_cons (mark : Char) (notBlank : isBlank mark = false) (rest : List Char) :
    separator? mark (mark :: rest) = some rest := by
  rw [separator?, trimStart_eq_self rfl notBlank]
  simp

def year (time : Timestamp) : Int := (Calendar.ofDays (time.seconds / 86400)).year

structure IsStorable (time : Timestamp) : Prop where
  isWhole : time.nanos % 1000000000 = 0
  noLeap : time.inLeap = false
  isYear : 1 ≤ time.year ∧ time.year ≤ 9999

instance (time : Timestamp) : Decidable time.IsStorable :=
  decidable_of_iff (time.nanos % 1000000000 = 0 ∧ time.inLeap = false ∧
      1 ≤ time.year ∧ time.year ≤ 9999)
    ⟨fun ⟨isWhole, noLeap, isYear⟩ => ⟨isWhole, noLeap, isYear⟩,
      fun ⟨isWhole, noLeap, isYear⟩ => ⟨isWhole, noLeap, isYear⟩⟩

theorem bind_of_eq_some {α β : Type} {read : Option α} {value : α} (found : read = some value)
    (next : α → Option β) : (read >>= next) = next value := by
  rw [found]
  rfl

section Parts

variable {time : Timestamp} {days : Int} {second : Nat} (isDays : days = time.seconds / 86400)
  (isSecond : (second : Int) = time.seconds % 86400)

include isDays isSecond

theorem toList_toText (noLeap : time.inLeap = false) :
    time.toText.toList = yearDigits (Calendar.ofDays days).year ++
      '-' :: (padLeft 2 (Calendar.ofDays days).month ++ '-' :: (padLeft 2 (Calendar.ofDays days).day ++
        'T' :: (padLeft 2 (second / 3600) ++ ':' :: (padLeft 2 (second % 3600 / 60) ++
          ':' :: (padLeft 2 (second % 60) ++ ['Z']))))) := by
  simp [toText, textWith, secondOfDayText, noLeap, ← isDays, ← isSecond]

theorem nanos_of_parts (isWhole : time.nanos % 1000000000 = 0) :
    (days * 86400 + ((second / 3600 : Nat) * 3600 + (second % 3600 / 60 : Nat) * 60 +
      (min (second % 60) 59 : Nat)) - 0 * 60) * 1000000000 + (0 : Nat) = time.nanos := by
  have isSeconds : time.seconds * 1000000000 = time.nanos := by
    rw [seconds]
    omega
  omega

end Parts

theorem ofText?_toText {time : Timestamp} (storable : time.IsStorable) :
    ofText? time.toText = some time := by
  obtain ⟨isWhole, noLeap, isYear⟩ := storable
  obtain ⟨days, isDays⟩ : ∃ days, days = time.seconds / 86400 := ⟨_, rfl⟩
  obtain ⟨second, isSecond⟩ : ∃ second : Nat, (second : Int) = time.seconds % 86400 :=
    ⟨(time.seconds % 86400).toNat, by omega⟩
  rw [year, ← isDays] at isYear
  have sameDay := Calendar.toDays_ofDays days
  have valid := Calendar.isValid_ofDays days
  have bounds : (Calendar.ofDays days).month < 100 ∧ (Calendar.ofDays days).day < 100 := by
    have short := Calendar.daysIn_le (Calendar.ofDays days).year (Calendar.ofDays days).month
    simp only [Calendar.isValid, Bool.and_eq_true, decide_eq_true_eq] at valid
    omega
  have ofYear := readYear?_yearDigits (Calendar.ofDays days).year (by omega) isYear.2
  have month := readField?_padLeft bounds.1
  have day := readField?_padLeft bounds.2
  have hour := readField?_padLeft (n := second / 3600) (by omega)
  have minute := readField?_padLeft (n := second % 3600 / 60) (by omega)
  have sec := readField?_padLeft (n := second % 60) (by omega)
  have dash := separator?_cons '-' (by decide)
  have colon := separator?_cons ':' (by decide)
  have fraction : readFraction? ['Z'] = some (0, ['Z']) := rfl
  have zone : readOffset? (trimStart ['Z']) = some (0, []) := by decide
  -- Each part is read off the front, up to the checks that come last.
  rw [ofText?, toList_toText isDays isSecond noLeap]
  refine (bind_of_eq_some (ofYear _) _).trans ?_
  refine (bind_of_eq_some (dash _) _).trans ?_
  refine (bind_of_eq_some (month _) _).trans ?_
  refine (bind_of_eq_some (dash _) _).trans ?_
  refine (bind_of_eq_some (day _) _).trans ?_
  refine (bind_of_eq_some (hour _) _).trans ?_
  refine (bind_of_eq_some (colon _) _).trans ?_
  refine (bind_of_eq_some (minute _) _).trans ?_
  refine (bind_of_eq_some (colon _) _).trans ?_
  refine (bind_of_eq_some (sec _) _).trans ?_
  refine (bind_of_eq_some fraction _).trans ?_
  refine (bind_of_eq_some zone _).trans ?_
  have nothingLeft : (trimStart []).isEmpty = true := rfl
  have inReach : ¬ 262000 < (Calendar.ofDays days).year.natAbs := by omega
  have ofDay : ¬ 23 < second / 3600 ∧ ¬ 59 < second % 3600 / 60 ∧ ¬ 60 < second % 60 := by omega
  have noLeapSecond : ¬ second % 60 = 60 := by omega
  simp only [nothingLeft, valid, inReach, ofDay, sameDay, nanos_of_parts isDays isSecond isWhole,
    noLeapSecond]
  simp [← noLeap]

end IngressMeter.Timestamp
