import IngressMeter.Proofs.Text.Pieces
import IngressMeter.Target
import Mathlib.Data.List.DropRight

/-!
Blanks around the parts of a key make no difference to it. Parts without blanks are joined as they
are.
-/

namespace IngressMeter

theorem trimStart_trimEnd (text : List Char) :
    trimStart (trimEnd (trimStart text)) = trimEnd (trimStart text) := by
  have beginning : trimEnd (trimStart text) <+: trimStart text :=
    List.rdropWhile_prefix isBlank (trimStart text)
  have notBlank := List.dropWhile_eq_self_iff.mp (List.dropWhile_idempotent (p := isBlank) text)
  rw [trimStart, List.dropWhile_eq_self_iff]
  intro nonempty
  rw [beginning.getElem nonempty]
  exact notBlank (Nat.lt_of_lt_of_le nonempty beginning.length_le)

theorem trim_trim (text : List Char) : trim (trim text) = trim text := by
  rw [trim, trim, trimStart_trimEnd]
  exact List.rdropWhile_idempotent isBlank (trimStart text)

theorem targetKey_trimString (namespaceName name : String) :
    targetKey (trimString namespaceName) (trimString name) = targetKey namespaceName name := by
  simp only [targetKey, targetKeyChars, trimString, String.toList_ofList, trim_trim]

theorem targetKeyChars_eq {namespaceName name : List Char} (hasNamespace : namespaceName ≠ [])
    (hasName : name ≠ []) (noBlanks : ∀ c ∈ namespaceName ++ '-' :: name, isBlank c = false) :
    targetKeyChars namespaceName name = namespaceName ++ '-' :: name := by
  have kept : ∀ part : List Char, part ≠ [] → (∀ c ∈ part, isBlank c = false) →
      trim part = part := by
    intro part nonempty plain
    exact trim_eq_self (List.head?_eq_some_head nonempty) (List.getLast?_eq_some_getLast nonempty)
      (plain _ (List.head_mem nonempty)) (plain _ (List.getLast_mem nonempty))
  rw [targetKeyChars, kept namespaceName hasNamespace fun c isIn => noBlanks c (by simp [isIn]),
    kept name hasName fun c isIn => noBlanks c (by simp [isIn])]
  simp [hasNamespace, hasName]

end IngressMeter
