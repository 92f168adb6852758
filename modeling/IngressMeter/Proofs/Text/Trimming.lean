import IngressMeter.Proofs.Text.Pieces
import Mathlib.Data.List.DropRight

/-!
Cutting off the blanks around a text: what is left begins and ends with other characters, and more
blanks around the text make no difference.
-/

namespace IngressMeter

def IsBlankText (text : List Char) : Prop := ∀ c ∈ text, isBlank c = true

instance (text : List Char) : Decidable (IsBlankText text) :=
  decidable_of_iff (text.all isBlank = true) List.all_eq_true

theorem trimStart_append {before : List Char} (blank : IsBlankText before) (text : List Char) :
    trimStart (before ++ text) = trimStart text :=
  List.dropWhile_append_of_pos blank

theorem trimEnd_append (text : List Char) {after : List Char} (blank : IsBlankText after) :
    trimEnd (text ++ after) = trimEnd text := by
  have blank' : IsBlankText after.reverse := fun c isIn => blank c (List.mem_reverse.mp isIn)
  rw [trimEnd, dropEndWhile, List.reverse_append, List.dropWhile_append_of_pos blank']
  rfl

theorem exists_trimStart (text : List Char) :
    ∃ before, IsBlankText before ∧ text = before ++ trimStart text :=
  ⟨text.takeWhile isBlank, fun _ isIn => List.mem_takeWhile_imp isIn,
    List.takeWhile_append_dropWhile.symm⟩

theorem exists_trimEnd (text : List Char) :
    ∃ after, IsBlankText after ∧ text = trimEnd text ++ after := by
  refine ⟨text.rtakeWhile isBlank, fun _ isIn => List.mem_rtakeWhile_imp isIn, ?_⟩
  exact List.rdropWhile_append_rtakeWhile.symm

theorem exists_trim (text : List Char) :
    ∃ before after, IsBlankText before ∧ IsBlankText after ∧ text = before ++ trim text ++ after := by
  obtain ⟨before, blankBefore, begins⟩ := exists_trimStart text
  obtain ⟨after, blankAfter, ends⟩ := exists_trimEnd (trimStart text)
  refine ⟨before, after, blankBefore, blankAfter, ?_⟩
  rw [List.append_assoc, trim, ← ends, ← begins]

theorem isBlank_head_trimStart (text : List Char) {c : Char}
    (isHead : (trimStart text).head? = some c) : isBlank c = false := by
  have notBlank := List.head?_dropWhile_not isBlank text
  rw [trimStart] at isHead
  rwa [isHead] at notBlank

theorem isBlank_head_trim {text : List Char} {c : Char} (isHead : (trim text).head? = some c) :
    isBlank c = false := by
  obtain ⟨after, _, ends⟩ := exists_trimEnd (trimStart text)
  refine isBlank_head_trimStart text ?_
  rw [ends, List.head?_append, ← trim, isHead, Option.some_or]

theorem isBlank_getLast_trim {text : List Char} {c : Char} (isLast : (trim text).getLast? = some c) :
    isBlank c = false := by
  refine isBlank_head_trimStart (trimStart text).reverse ?_
  rw [← isLast, trim, trimEnd, dropEndWhile, List.getLast?_reverse]
  rfl

theorem trim_append {before after : List Char} (blankBefore : IsBlankText before) (text : List Char)
    (blankAfter : IsBlankText after) : trim (before ++ text ++ after) = trim text := by
  rw [List.append_assoc, trim, trimStart_append blankBefore, trimStart, List.dropWhile_append]
  split
  · rename_i nothing
    have left : trimStart text = [] := List.isEmpty_iff.mp nothing
    have dropped : after.dropWhile isBlank = [] := List.dropWhile_eq_nil_iff.mpr blankAfter
    rw [dropped, trim, left]
  · exact trimEnd_append (trimStart text) blankAfter

end IngressMeter
