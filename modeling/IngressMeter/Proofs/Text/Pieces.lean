import IngressMeter.Text.Blank
import Mathlib.Data.List.TakeDrop

/-!
Texts put together and taken apart: runs of accepted characters in front of what ends them, pieces
between separators, and texts with no blanks at their ends.
-/

namespace IngressMeter

theorem span_append {accept : Char → Bool} {run rest : List Char}
    (accepted : ∀ c ∈ run, accept c = true) (stops : ∀ c ∈ rest.head?, accept c = false) :
    (run ++ rest).span accept = (run, rest) := by
  have rejected : rest.takeWhile accept = [] ∧ rest.dropWhile accept = rest := by
    cases rest with
    | nil => exact ⟨rfl, rfl⟩
    | cons c rest => simp [stops c rfl]
  rw [List.span_eq_takeWhile_dropWhile, List.takeWhile_append_of_pos accepted,
    List.dropWhile_append_of_pos accepted, rejected.1, rejected.2, List.append_nil]

theorem span_append_cons {accept : Char → Bool} {run : List Char} {c : Char}
    (accepted : ∀ c ∈ run, accept c = true) (stops : accept c = false) (rest : List Char) :
    (run ++ c :: rest).span accept = (run, c :: rest) :=
  span_append accepted fun _ isHead => Option.some.inj isHead ▸ stops

theorem span_ne {mark : Char} {text : List Char} (unmarked : mark ∉ text) (rest : List Char) :
    (text ++ mark :: rest).span (· ≠ mark) = (text, mark :: rest) := by
  refine span_append_cons ?_ (by simp) rest
  intro c isIn
  exact decide_eq_true fun isMark => unmarked (isMark ▸ isIn)

theorem intercalate_cons (separator : Char) (first second : List Char) (others : List (List Char)) :
    [separator].intercalate (first :: second :: others) =
      first ++ separator :: [separator].intercalate (second :: others) := by
  rw [List.intercalate_cons_cons, List.append_assoc]
  rfl

theorem splitOn_append_cons {α : Type} [BEq α] [ReflBEq α] (separator : α) (before after : List α) :
    (before ++ separator :: after).splitOn separator =
      before.splitOn separator ++ after.splitOn separator :=
  List.splitOnP_append_cons before after (beq_self_eq_true separator)

theorem not_mem_of_mem_splitOn {separator : Char} {text : List Char} :
    ∀ piece ∈ text.splitOn separator, separator ∉ piece := by
  induction text with
  | nil => simp
  | cons c text ih =>
      obtain ⟨first, others, split⟩ := List.exists_cons_of_ne_nil (List.splitOn_ne_nil separator text)
      rw [split, List.forall_mem_cons] at ih
      rw [List.splitOn_cons_eq_if_modifyHead, split]
      split
      · simpa using ih
      · rename_i other
        have other : separator ≠ c := by simpa [eq_comm (a := c)] using other
        simpa [other] using ih

theorem trimStart_eq_self {text : List Char} {first : Char} (isFirst : text.head? = some first)
    (nonBlank : isBlank first = false) : trimStart text = text := by
  obtain ⟨rest, rfl⟩ := List.head?_eq_some_iff.mp isFirst
  simp [trimStart, nonBlank]

theorem trimEnd_eq_self {text : List Char} {last : Char} (isLast : text.getLast? = some last)
    (nonBlank : isBlank last = false) : trimEnd text = text := by
  obtain ⟨before, rfl⟩ := List.getLast?_eq_some_iff.mp isLast
  simp [trimEnd, dropEndWhile, nonBlank]

theorem trim_eq_self {text : List Char} {first last : Char} (isFirst : text.head? = some first)
    (isLast : text.getLast? = some last) (firstNonBlank : isBlank first = false)
    (lastNonBlank : isBlank last = false) : trim text = text := by
  rw [trim, trimStart_eq_self isFirst firstNonBlank, trimEnd_eq_self isLast lastNonBlank]

end IngressMeter
