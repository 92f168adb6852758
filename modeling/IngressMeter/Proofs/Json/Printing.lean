import IngressMeter.Json.Printer
import IngressMeter.Proofs.Decimal.Reading
import IngressMeter.Proofs.Json.Reading

/-!
What the printer writes is a text of the grammar, so it is read back as the value it was written for.
-/

namespace IngressMeter.Json

/-! Strings. -/

theorem charText_escapeChar (c : Char) : CharText c (escapeChar c) := by
  have hexPad : ∀ code < 32, (hexPad code).length = 4 ∧ hexNumber? (hexPad code) = some code := by
    decide
  unfold escapeChar
  split
  · exact .short (by decide)
  · exact .short (by decide)
  · exact .short (by decide)
  · exact .short (by decide)
  · exact .short (by decide)
  · exact .short (by decide)
  · exact .short (by decide)
  · rename_i noQuote noBackslash _ _ _ _ _
    split
    · rename_i control
      exact .code (hexPad _ control).1 (hexPad _ control).2
    · rename_i visible
      exact .plain (by omega) noQuote noBackslash

theorem charsText_escaped (chars : List Char) : CharsText chars (chars.flatMap escapeChar) := by
  induction chars with
  | nil => exact .nil
  | cons c chars ih =>
      rw [List.flatMap_cons]
      exact .cons (charText_escapeChar c) ih

theorem stringText_renderString (s : String) : StringText s (renderString s) :=
  .quoted (charsText_escaped s.toList)

/-! Numbers. -/

theorem Number.WellFormed.render {n : Number} (wellFormed : n.WellFormed) :
    NumberText n n.render := by
  obtain ⟨negative, whole, fraction, exponent⟩ := n
  cases exponent with
  | none =>
      have text := NumberText.digits wellFormed .none
      cases fraction <;> exact text
  | some written =>
      obtain ⟨minus, digits⟩ := written
      cases minus with
      | true =>
          have text := NumberText.digits wellFormed (@ExponentText.minus 'e' digits rfl)
          cases fraction <;> exact text
      | false =>
          have text := NumberText.digits wellFormed (@ExponentText.unsigned 'e' digits rfl)
          cases fraction <;> exact text

theorem eq_zero_of_head?_natDigits {n : Nat} (zero : (Decimal.natDigits n).head? = some '0') :
    n = 0 := by
  induction n using Nat.strong_induction_on with
  | h n ih =>
      rw [Decimal.natDigits, Nat.toDigits_eq_if (by decide)] at zero
      split at zero
      · rename_i below
        have onlyZero : ∀ digit < 10, [digit.digitChar].head? = some '0' → digit = 0 := by decide
        exact onlyZero n below zero
      · rename_i notBelow
        -- A longer number begins as it does without its last digit.
        have begins : (Nat.toDigits 10 (n / 10)).head?.isSome :=
          List.isSome_head?.mpr Nat.toDigits_ne_nil
        rw [List.head?_append, Option.or_of_isSome begins] at zero
        have tens := ih (n / 10) (by omega) zero
        omega

theorem Number.wellFormed_natDigits (negative : Bool) (n : Nat) :
    WellFormed ⟨negative, Decimal.natDigits n, none, none⟩ where
  whole := ⟨Decimal.natDigits_ne_nil n, Decimal.isDigit_natDigits n⟩
  noLeadingZero := by
    intro zero
    rw [eq_zero_of_head?_natDigits zero]
    rfl
  fraction := by simp
  exponent := by simp

/-! Values. -/

inductive WellFormed : Json → Prop
  | null : WellFormed .null
  | bool (value : Bool) : WellFormed (.bool value)
  | number {n : Number} : n.WellFormed → WellFormed (.number n)
  | text (s : String) : WellFormed (.text s)
  | array {items : List Json} : (∀ item ∈ items, WellFormed item) → WellFormed (.array items)
  | object {members : List (String × Json)} : (∀ member ∈ members, WellFormed member.2) →
      WellFormed (.ofMembers members)

theorem wellFormed_ofNat (n : Nat) : WellFormed (.ofNat n) :=
  .number (Number.wellFormed_natDigits false n)

theorem wellFormed_ofInt (n : Int) : WellFormed (.ofInt n) :=
  .number (Number.wellFormed_natDigits (n < 0) n.natAbs)

theorem renderChars_array (items : List Json) :
    renderChars (.array items) = '[' :: commaSeparated (items.map renderChars) ++ [']'] := by
  rw [renderChars]
  simp

def renderMember (member : String × Json) : List Char :=
  renderString member.1 ++ ':' :: renderChars member.2

theorem renderChars_ofMembers (members : List (String × Json)) :
    renderChars (.ofMembers members) = '{' :: commaSeparated (members.map renderMember) ++ ['}'] := by
  let render (member : Option String × Json) : List Char :=
    renderString (member.1.getD "\uFFFD") ++ ':' :: renderChars member.2
  rw [ofMembers, renderChars, List.map_congr_left (g := fun member => render member.1),
    List.attach_map_val, List.map_map]
  · rfl
  · rintro ⟨⟨name, value⟩, _⟩ _
    rfl

theorem writtenItems_commaSeparated {items : List Json} (nonempty : items ≠ [])
    (written : ∀ item ∈ items, Written item item.renderChars) :
    WrittenItems items (commaSeparated (items.map renderChars) ++ [']']) := by
  induction items with
  | nil => contradiction
  | cons item items ih =>
      rw [List.forall_mem_cons] at written
      have noSpace : IsSpaceText [] := by decide
      cases items with
      | nil => exact .last written.1 noSpace
      | cons second items =>
          have others := ih (List.cons_ne_nil _ _) written.2
          have all := WrittenItems.cons written.1 noSpace noSpace others
          simpa [commaSeparated] using all

theorem writtenMember_renderMember {member : String × Json}
    (written : Written member.2 member.2.renderChars) :
    WrittenMember member (renderMember member) := by
  have noSpace : IsSpaceText [] := by decide
  have all := WrittenMember.member (stringText_renderString member.1) noSpace noSpace written noSpace
  simpa [renderMember] using all

theorem writtenMembers_commaSeparated {members : List (String × Json)} (nonempty : members ≠ [])
    (written : ∀ member ∈ members, Written member.2 member.2.renderChars) :
    WrittenMembers members (commaSeparated (members.map renderMember) ++ ['}']) := by
  induction members with
  | nil => contradiction
  | cons member members ih =>
      rw [List.forall_mem_cons] at written
      have first := writtenMember_renderMember written.1
      cases members with
      | nil => exact .last first
      | cons second members =>
          have others := ih (List.cons_ne_nil _ _) written.2
          have noSpace : IsSpaceText [] := by decide
          have all := WrittenMembers.cons first noSpace others
          simpa [commaSeparated] using all

theorem WellFormed.written {json : Json} (wellFormed : WellFormed json) :
    Written json json.renderChars := by
  have noSpace : IsSpaceText [] := by decide
  induction wellFormed with
  | null =>
      rw [renderChars]
      exact .null
  | bool value =>
      cases value
      all_goals rw [renderChars]
      · exact .false
      · exact .true
  | number wellFormed =>
      rw [renderChars]
      exact .number wellFormed.render
  | text s =>
      rw [Json.text, renderChars]
      exact .string (stringText_renderString s)
  | array _ ih =>
      rename_i items _
      rw [renderChars_array]
      cases items with
      | nil => exact .emptyArray noSpace
      | cons item items =>
          have items := writtenItems_commaSeparated (List.cons_ne_nil item items) ih
          have all := Written.array noSpace items
          exact all
  | object _ ih =>
      rename_i members _
      rw [renderChars_ofMembers]
      cases members with
      | nil => exact .emptyObject noSpace
      | cons member members =>
          have members := writtenMembers_commaSeparated (List.cons_ne_nil member members) ih
          have all := Written.object noSpace members
          exact all

/-- A value is read back from the text that is written of it. -/
theorem WellFormed.ofText?_render {json : Json} (wellFormed : WellFormed json) :
    ofText? json.render = some json := by
  have noSpace : IsSpaceText [] := by decide
  have read := read?_written noSpace wellFormed.written noSpace
  simpa [ofText?, render] using read

end IngressMeter.Json
