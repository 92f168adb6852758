import IngressMeter.AccessLog.PodTag
import IngressMeter.Proofs.Text.Pieces

/-!
A line that comes from a pod loses its tag again, and the blanks behind it. A line that begins with
no tag stays as it is.
-/

namespace IngressMeter

namespace PodTag

def IsTag (tag : List Char) : Prop :=
  tag ≠ [] ∧ ∀ c ∈ tag, isBlank c = false ∧ c ≠ ']' ∧ c ≠ '/'

instance (tag : List Char) : Decidable (IsTag tag) :=
  decidable_of_iff (tag ≠ [] ∧ tag.all (fun c => !isBlank c && c ≠ ']' && c ≠ '/') = true)
    (by simp [IsTag, and_assoc])

theorem splitTag?_append {tag : List Char} (noBracket : ∀ c ∈ tag, c ≠ ']') (payload : List Char) :
    splitTag? (tag ++ ']' :: ' ' :: payload) = some (tag, payload) := by
  induction tag with
  | nil => rfl
  | cons c tag ih =>
      rw [List.forall_mem_cons] at noBracket
      rw [List.cons_append, splitTag?, ih noBracket.2]
      · rfl
      · intro rest isBracket
        exact absurd isBracket noBracket.1

theorem strip_of_untagged {line : List Char} (untagged : line.head? ≠ some '[') :
    strip line = line := by
  cases line with
  | nil => rfl
  | cons c line =>
      rw [strip]
      intro rest same
      exact untagged (congrArg List.head? same)

theorem strip_append {tag : List Char} (isTag : IsTag tag) (line : List Char) :
    strip ('[' :: (tag ++ ']' :: ' ' :: line)) = trimStart line := by
  have isName : isPodName tag = true := by
    have nonempty : tag.isEmpty = false := by simpa using isTag.1
    have noBlank : tag.any isBlank = false := List.any_eq_false.mpr fun c isIn => by
      simp [(isTag.2 c isIn).1]
    have noSlash : '/' ∉ tag := fun isIn => (isTag.2 _ isIn).2.2 rfl
    simp [isPodName, nonempty, noBlank, noSlash]
  rw [strip, splitTag?_append fun c isIn => (isTag.2 c isIn).2.1]
  simp only [isName]
  rfl

theorem trim_tag_eq_self (tag : List Char) {line : List Char} {last : Char}
    (isLast : line.getLast? = some last) (nonBlank : isBlank last = false) :
    trim ('[' :: (tag ++ ']' :: ' ' :: line)) = '[' :: (tag ++ ']' :: ' ' :: line) := by
  have ends : ('[' :: (tag ++ ']' :: ' ' :: line)).getLast? = some last := by
    simp [List.getLast?_cons, List.getLast?_append, isLast]
  exact trim_eq_self rfl ends (by decide) nonBlank

theorem strip_tagged {tag line : List Char} (isTag : IsTag tag) {first : Char}
    (isFirst : line.head? = some first) (nonBlank : isBlank first = false) :
    strip ('[' :: (tag ++ ']' :: ' ' :: line)) = line := by
  rw [strip_append isTag, trimStart_eq_self isFirst nonBlank]

end PodTag

end IngressMeter
