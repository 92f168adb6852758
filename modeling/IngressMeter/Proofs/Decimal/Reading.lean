import IngressMeter.Decimal.Text
import IngressMeter.Text.Blank
import Mathlib.Data.List.TakeDrop
import Mathlib.Data.List.TakeWhile

/-!
Reading numbers: the digits of a number read back as that number, and a text that reads as a
floating-point number has no blanks and no `s`.
-/

namespace IngressMeter.Decimal

theorem isDigit_natDigits (n : Nat) : ∀ c ∈ natDigits n, isDigit c = true := by
  intro c isIn
  exact Nat.isDigit_of_mem_toDigits (by decide) (by decide) isIn

theorem natDigits_ne_nil (n : Nat) : natDigits n ≠ [] := Nat.toDigits_ne_nil

theorem digitsValue_natDigits (n : Nat) : digitsValue (natDigits n) 0 = n := by
  calc digitsValue (natDigits n) 0 = Nat.ofDigitChars 10 (Nat.toDigits 10 n) 0 := by
        simp only [digitsValue, natDigits, digitValue, Nat.ofDigitChars_eq_foldl, Nat.mul_comm]
    _ = n := Nat.ofDigitChars_toDigits (by decide) (by decide)

theorem digits?_natDigits (n : Nat) : digits? (natDigits n) = some n := by
  have digits := List.all_eq_true.mpr (isDigit_natDigits n)
  simp [digits?, digits, digitsValue_natDigits, natDigits_ne_nil n]

theorem readUnsigned?_natDigits {bound n : Nat} (below : n < bound) :
    readUnsigned? bound (natDigits n) = some n := by
  have unsigned : ∀ rest, natDigits n ≠ '+' :: rest := by
    intro rest same
    have isDigit := isDigit_natDigits n '+' (same ▸ List.mem_cons_self)
    contradiction
  rw [readUnsigned?, digits?_natDigits]
  · simp [below]
  · exact unsigned

def IsPlain (c : Char) : Prop := isBlank c = false ∧ c ≠ 's'

theorem isPlain_of_isDigit {c : Char} (digit : isDigit c = true) : IsPlain c := by
  have lower : 48 ≤ c.toNat ∧ c.toNat ≤ 57 := by
    simpa [isDigit, Char.le_def, UInt32.le_iff_toNat_le] using digit
  constructor
  · simp only [isBlank]
    grind
  · rintro rfl
    contradiction

theorem isPlain_of_toLower {c : Char} (plain : IsPlain c.toLower) : IsPlain c := by
  by_cases upper : c.val ≥ 'A'.val ∧ c.val ≤ 'Z'.val
  · have upper : 65 ≤ c.toNat ∧ c.toNat ≤ 90 := by
      simpa [UInt32.le_iff_toNat_le] using upper
    constructor
    · simp only [isBlank]
      grind
    · rintro rfl
      exact absurd upper (by decide)
  · have same : c.toLower = c := dif_neg upper
    rwa [same] at plain

theorem isPlain_of_digits? {text : List Char} {value : Nat} (found : digits? text = some value) :
    ∀ c ∈ text, IsPlain c := by
  rw [digits?, Option.ite_none_right_eq_some, Bool.and_eq_true, List.all_eq_true] at found
  exact fun c isIn => isPlain_of_isDigit (found.1.2 c isIn)

theorem isPlain_of_splitSign {text : List Char} (plain : ∀ c ∈ (splitSign text).2, IsPlain c) :
    ∀ c ∈ text, IsPlain c := by
  have minus : IsPlain '-' := by constructor <;> decide
  have plus : IsPlain '+' := by constructor <;> decide
  cases text using splitSign.fun_cases with
  | case1 rest => exact List.forall_mem_cons.mpr ⟨minus, plain⟩
  | case2 rest => exact List.forall_mem_cons.mpr ⟨plus, plain⟩
  | case3 => simpa [splitSign] using plain

theorem isPlain_of_readExponent? {text : List Char} {exponent : Int}
    (found : readExponent? text = some exponent) : ∀ c ∈ text, IsPlain c := by
  cases text with
  | nil => simp
  | cons mark rest =>
      rw [readExponent?, Option.ite_none_right_eq_some, Option.map_eq_some_iff] at found
      obtain ⟨isMark, _, found, _⟩ := found
      obtain ⟨value, digits, _⟩ := Option.bind_eq_some_iff.mp found
      have plain : IsPlain mark := by
        simp only [Bool.or_eq_true, decide_eq_true_eq] at isMark
        obtain rfl | rfl := isMark <;> constructor <;> decide
      exact List.forall_mem_cons.mpr ⟨plain, isPlain_of_splitSign (isPlain_of_digits? digits)⟩

theorem isPlain_of_span {text : List Char} (plain : ∀ c ∈ (text.span isDigit).2, IsPlain c) :
    ∀ c ∈ text, IsPlain c := by
  rw [List.span_eq_takeWhile_dropWhile] at plain
  intro c isIn
  rw [← List.takeWhile_append_dropWhile (p := isDigit) (l := text), List.mem_append] at isIn
  obtain isIn | isIn := isIn
  · exact isPlain_of_isDigit (List.mem_takeWhile_imp isIn)
  · exact plain c isIn

theorem isPlain_of_readLiteral? {text : List Char} {literal : Literal}
    (found : readLiteral? text = some literal) : ∀ c ∈ text, IsPlain c := by
  have point : IsPlain '.' := by constructor <;> decide
  refine isPlain_of_span ?_
  simp only [readLiteral?, Option.ite_none_left_eq_some, Option.map_eq_some_iff] at found
  obtain ⟨_, exponent, isExponent, _⟩ := found
  have plain := isPlain_of_readExponent? isExponent
  split at plain
  · rename_i rest behind
    rw [behind]
    exact List.forall_mem_cons.mpr ⟨point, isPlain_of_span plain⟩
  · exact plain

theorem isPlain_of_readFloat? {text : List Char} {x : Float} (found : readFloat? text = some x) :
    ∀ c ∈ text, IsPlain c := by
  have ofWord : ∀ word : List Char, word.all (fun c => !isBlank c && c ≠ 's') = true →
      ∀ body, lowerAscii body = word → ∀ c ∈ body, IsPlain c := by
    rintro _ plain body rfl c isIn
    have plain := List.all_eq_true.mp plain _ (List.mem_map_of_mem isIn)
    exact isPlain_of_toLower (by simpa [IsPlain] using plain)
  refine isPlain_of_splitSign ?_
  simp only [readFloat?] at found
  split at found
  · rename_i infinite
    rw [Bool.or_eq_true, decide_eq_true_eq, decide_eq_true_eq] at infinite
    obtain isWord | isWord := infinite
    · exact ofWord _ (by decide) _ isWord
    · exact ofWord _ (by decide) _ isWord
  · split at found
    · rename_i notANumber
      exact ofWord _ (by decide) _ notANumber
    · obtain ⟨literal, isLiteral, _⟩ := Option.map_eq_some_iff.mp found
      exact isPlain_of_readLiteral? isLiteral

end IngressMeter.Decimal
