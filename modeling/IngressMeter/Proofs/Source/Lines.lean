import IngressMeter.Proofs.Text.Pieces
import IngressMeter.Source.FileTail

/-!
The lines of a file that is read bit by bit. Reading takes up the bytes of the line that had not
ended, so it does not matter where the bytes are cut, be it within a character.
-/

namespace IngressMeter

namespace Utf8

theorem low_of_start {byte : Nat} {begun : Pending} (started : start byte = .error begun) :
    0x80 ≤ begun.low := by
  rw [start] at started
  grind

theorem parts_of_outside {byte : UInt8} {begun : Pending}
    (outside : ¬(begun.low ≤ byte.toNat ∧ byte.toNat ≤ begun.high)) (rest : List UInt8)
    (out : List (Option Char)) :
    parts (byte :: rest) (some begun) out = parts (byte :: rest) none (none :: out) := by
  have outside : (begun.low ≤ byte.toNat && byte.toNat ≤ begun.high) = false := by
    simpa using outside
  simp only [parts, outside, Bool.false_eq_true, if_false]

/-- A line feed ends what has been begun of a character, just as the end of the bytes does. -/
theorem parts_append_lineFeed (bytes : List UInt8) (pending : Option Pending)
    (out : List (Option Char)) (low : ∀ begun, pending = some begun → 0x80 ≤ begun.low) :
    parts (bytes ++ [FileTail.lineFeed]) pending out = parts bytes pending out ++ [some '\n'] := by
  have alone (out : List (Option Char)) :
      parts [FileTail.lineFeed] none out = out.reverse ++ [some '\n'] := by
    have isWhole : start FileTail.lineFeed.toNat = .ok (some '\n') := rfl
    simp [parts, isWhole]
  induction bytes generalizing pending out with
  | nil =>
      cases pending with
      | none => exact alone out
      | some begun =>
          have outside : FileTail.lineFeed.toNat < begun.low :=
            Nat.lt_of_lt_of_le (by decide) (low begun rfl)
          rw [List.nil_append, parts_of_outside fun inside => absurd inside.1 (by omega), alone]
          simp [parts]
  | cons byte rest ih =>
      have fresh (out : List (Option Char)) :
          parts (byte :: (rest ++ [FileTail.lineFeed])) none out =
            parts (byte :: rest) none out ++ [some '\n'] := by
        simp only [parts]
        cases started : start byte.toNat with
        | ok part => exact ih none (part :: out) nofun
        | error begun =>
            refine ih (some begun) out ?_
            rintro _ ⟨⟩
            exact low_of_start started
      rw [List.cons_append]
      cases pending with
      | none => exact fresh out
      | some begun =>
          by_cases inside : begun.low ≤ byte.toNat ∧ byte.toNat ≤ begun.high
          · have goesOn : (begun.low ≤ byte.toNat && byte.toNat ≤ begun.high) = true := by
              simpa using inside
            simp only [parts, goesOn, if_true]
            split
            · exact ih none (some _ :: out) nofun
            · refine ih (some _) out ?_
              intro more same
              obtain rfl := Option.some.inj same
              exact Nat.le_refl 0x80
          · rw [parts_of_outside inside, parts_of_outside inside]
            exact fresh (none :: out)

end Utf8

namespace FileTail

def wholeLines (bytes : Bytes) : List Bytes := (bytes.splitOn lineFeed).dropLast

theorem takeLines_append (first second : Bytes) :
    takeLines (first ++ second) =
      ((takeLines first).1 ++ (takeLines ((takeLines first).2 ++ second)).1,
        (takeLines ((takeLines first).2 ++ second)).2) := by
  induction first with
  | nil => rfl
  | cons byte rest ih =>
      generalize taken : takeLines rest = result at ih
      obtain ⟨lines, left⟩ := result
      rw [List.cons_append]
      simp only [takeLines, ih, taken]
      by_cases ends : byte = lineFeed
      · simp only [ends, if_true, List.cons_append]
      · cases lines with
        | nil => simp only [ends, if_false, List.nil_append, List.cons_append, takeLines]
        | cons line more => simp only [ends, if_false, List.cons_append]

theorem takeLines_unfinished (bytes : Bytes) :
    takeLines (takeLines bytes).2 = ([], (takeLines bytes).2) := by
  have again := takeLines_append bytes []
  rw [List.append_nil, List.append_nil] at again
  have noLines : (takeLines bytes).1 ++ (takeLines (takeLines bytes).2).1 = (takeLines bytes).1 :=
    (congrArg Prod.fst again).symm
  exact Prod.ext (List.append_right_eq_self.mp noLines) (congrArg Prod.snd again).symm

theorem takeLines_splitOn (bytes : Bytes) :
    ∃ pieces, bytes.splitOn lineFeed = pieces ++ [(takeLines bytes).2] ∧
      (takeLines bytes).1 = pieces.map (· ++ [lineFeed]) := by
  induction bytes with
  | nil => exact ⟨[], rfl, rfl⟩
  | cons byte rest ih =>
      obtain ⟨pieces, split, lines⟩ := ih
      rw [List.splitOn_cons_eq_if_modifyHead, split, takeLines]
      generalize takeLines rest = taken at lines ⊢
      obtain ⟨whole, left⟩ := taken
      obtain rfl : whole = pieces.map (· ++ [lineFeed]) := lines
      by_cases ends : byte = lineFeed
      · exact ⟨[] :: pieces, by simp [ends], by simp [ends]⟩
      · cases pieces with
        | nil => exact ⟨[], by simp [ends], by simp [ends]⟩
        | cons piece more => exact ⟨(byte :: piece) :: more, by simp [ends], by simp [ends]⟩

theorem takeLines_eq_wholeLines (bytes : Bytes) :
    (takeLines bytes).1 = (wholeLines bytes).map (· ++ [lineFeed]) := by
  obtain ⟨pieces, split, lines⟩ := takeLines_splitOn bytes
  rw [lines, wholeLines, split, List.dropLast_concat]

theorem lineText_append_lineFeed (line : Bytes) : lineText (line ++ [lineFeed]) = lineText line := by
  have decoded : Utf8.parts (line ++ [lineFeed]) none [] = Utf8.parts line none [] ++ [some '\n'] :=
    Utf8.parts_append_lineFeed line none [] nofun
  simp [lineText, Utf8.decodeLossy, decoded, isLineEnd]

end FileTail

end IngressMeter
