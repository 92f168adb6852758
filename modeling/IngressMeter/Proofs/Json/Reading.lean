import IngressMeter.Proofs.Json.Grammar
import IngressMeter.Proofs.Text.Pieces

/-!
The reader accepts every text of the grammar and reads it as the value it was written for.
-/

namespace IngressMeter.Json

theorem skipSpace_append {space rest : List Char} (isSpaceText : IsSpaceText space)
    (stops : ∀ c ∈ rest.head?, isSpace c = false) : skipSpace (space ++ rest) = rest := by
  have span := span_append isSpaceText stops
  rw [List.span_eq_takeWhile_dropWhile] at span
  exact congrArg Prod.snd span

theorem skipSpace_append_cons {space : List Char} (isSpaceText : IsSpaceText space) {c : Char}
    (stops : isSpace c = false) (rest : List Char) : skipSpace (space ++ c :: rest) = c :: rest :=
  skipSpace_append isSpaceText fun _ isHead => Option.some.inj isHead ▸ stops

/-! Strings. -/

def OpenString.ofRead (read : List Char) : OpenString := { read := some read }

@[simp] theorem OpenString.push_ofRead (read : List Char) (c : Char) :
    (ofRead read).push c = ofRead (c :: read) := rfl

theorem OpenString.pushCode_ofRead (read : List Char) (c : Char) :
    (ofRead read).pushCode c.toNat = ofRead (c :: read) := by
  have whole : isHighHalf c.toNat = false ∧ isLowHalf c.toNat = false := by
    have valid := c.valid
    simp only [isHighHalf, isLowHalf, Bool.and_eq_false_iff, decide_eq_false_iff_not]
    rcases valid with low | ⟨high, _⟩
    · have : c.toNat < 0xD800 := low
      omega
    · have : 0xDFFF < c.toNat := high
      omega
  rw [pushCode, whole.1, whole.2]
  simp [Char.ofNat_toNat]

theorem OpenString.pushCode_halves (read : List Char) {c : Char} {high low : Nat}
    (isHigh : 0xD800 ≤ high ∧ high < 0xDC00) (isLow : 0xDC00 ≤ low ∧ low < 0xE000)
    (joined : c.toNat = 0x10000 + (high - 0xD800) * 0x400 + (low - 0xDC00)) :
    ((ofRead read).pushCode high).pushCode low = ofRead (c :: read) := by
  have highHalf : isHighHalf high = true := by simpa [isHighHalf] using isHigh
  have lowHalf : isLowHalf low = true := by simpa [isLowHalf] using isLow
  have notHigh : isHighHalf low = false := by
    simp only [isHighHalf, Bool.and_eq_false_iff, decide_eq_false_iff_not]
    omega
  have join : joinHalves high low = c := by rw [joinHalves, ← joined, Char.ofNat_toNat]
  simp [pushCode, highHalf, lowHalf, notHigh, join, ofRead, settle]

theorem readString_short {letter c : Char} (isShort : (letter, c) ∈ shortEscapes)
    (before : OpenString) (rest : List Char) :
    readString before ('\\' :: letter :: rest) = readString (before.push c) rest := by
  simp only [shortEscapes, List.mem_cons, Prod.mk.injEq, List.not_mem_nil, or_false] at isShort
  rcases isShort with ⟨rfl, rfl⟩ | ⟨rfl, rfl⟩ | ⟨rfl, rfl⟩ | ⟨rfl, rfl⟩ | ⟨rfl, rfl⟩ | ⟨rfl, rfl⟩ |
    ⟨rfl, rfl⟩ | ⟨rfl, rfl⟩ <;> simp [readString, simpleEscape?]

theorem readString_code {digits : List Char} {code : Nat} (four : digits.length = 4)
    (isCode : hexNumber? digits = some code) (before : OpenString) (rest : List Char) :
    readString before ('\\' :: 'u' :: (digits ++ rest)) = readString (before.pushCode code) rest := by
  match digits, four with
  | [a, b, c, d], _ => simp [readString, isCode]

theorem readString_append {c : Char} {text : List Char} (charText : CharText c text)
    (read rest : List Char) : readString (.ofRead read) (text ++ rest) =
      readString (.ofRead (c :: read)) rest := by
  cases charText with
  | plain large noQuote noBackslash =>
      have small : ¬ c.toNat < 32 := by omega
      rw [List.singleton_append, readString]
      · simp [small, noBackslash]
      all_goals
        intros
        contradiction
  | short isShort => exact readString_short isShort _ rest
  | code four isCode =>
      rw [List.cons_append, List.cons_append, readString_code four isCode,
        OpenString.pushCode_ofRead]
  | halves four isFirst lower upper four' isSecond lower' upper' joined =>
      rw [List.cons_append, List.cons_append, List.append_assoc, readString_code four isFirst,
        List.cons_append, List.cons_append, readString_code four' isSecond,
        OpenString.pushCode_halves read ⟨lower, upper⟩ ⟨lower', upper'⟩ joined]

theorem readString_charsText {chars text : List Char} (charsText : CharsText chars text)
    (read rest : List Char) : readString (.ofRead read) (text ++ '"' :: rest) =
      some (some (String.ofList (read.reverse ++ chars)), rest) := by
  induction charsText generalizing read with
  | nil => simp [readString, OpenString.finish, OpenString.settle, OpenString.ofRead]
  | cons charText _ ih => rw [List.append_assoc, readString_append charText, ih]; simp

theorem readString_stringText {s : String} {text : List Char} (stringText : StringText s text)
    (rest : List Char) : ∃ inner, text ++ rest = '"' :: inner ∧
      readString {} inner = some (some s, rest) := by
  obtain ⟨charsText⟩ := stringText
  rename_i inner
  refine ⟨inner ++ '"' :: rest, by simp, ?_⟩
  exact (readString_charsText charsText [] rest).trans (by simp)

/-! Numbers. -/

def EndsNumber (rest : List Char) : Prop :=
  ∀ c ∈ rest.head?, Decimal.isDigit c = false ∧ c ≠ '.' ∧ isDigitMark c = false

theorem readDigits?_append {digits rest : List Char} (isDigits : IsDigits digits)
    (stops : ∀ c ∈ rest.head?, Decimal.isDigit c = false) :
    readDigits? (digits ++ rest) = some (digits, rest) := by
  have nonempty : digits.isEmpty = false := by simpa using isDigits.1
  rw [readDigits?, span_append isDigits.2 stops]
  simp [nonempty]

theorem splitSign_append {digits : List Char} (isDigits : IsDigits digits) (rest : List Char) :
    Decimal.splitSign (digits ++ rest) = (false, digits ++ rest) := by
  obtain ⟨c, digits, rfl⟩ := List.exists_cons_of_ne_nil isDigits.1
  have digit := isDigits.2 c List.mem_cons_self
  rw [List.cons_append, Decimal.splitSign]
  all_goals
    intro _ same
    rw [(List.cons.inj same).1] at digit
    contradiction

theorem readExponent?_append {exponent : Option (Bool × List Char)} {text rest : List Char}
    (exponentText : ExponentText exponent text)
    (isDigits : ∀ written ∈ exponent, IsDigits written.2) (ends : EndsNumber rest) :
    readExponent? (text ++ rest) = some (exponent, rest) := by
  have stops : ∀ c ∈ rest.head?, Decimal.isDigit c = false := fun c isHead => (ends c isHead).1
  cases exponentText with
  | none =>
      cases rest with
      | nil => rfl
      | cons c rest => simp [readExponent?, (ends c rfl).2.2]
  | unsigned isMark =>
      have isDigits := isDigits _ rfl
      simp [readExponent?, isMark, splitSign_append isDigits, readDigits?_append isDigits stops]
  | plus isMark =>
      have isDigits := isDigits _ rfl
      simp [readExponent?, isMark, Decimal.splitSign, readDigits?_append isDigits stops]
  | minus isMark =>
      have isDigits := isDigits _ rfl
      simp [readExponent?, isMark, Decimal.splitSign, readDigits?_append isDigits stops]

theorem endsFraction {exponent : Option (Bool × List Char)} {text rest : List Char}
    (exponentText : ExponentText exponent text) (ends : EndsNumber rest) :
    ∀ c ∈ (text ++ rest).head?, Decimal.isDigit c = false ∧ c ≠ '.' := by
  have ofMark : ∀ {mark : Char}, isDigitMark mark = true →
      Decimal.isDigit mark = false ∧ mark ≠ '.' := by
    intro mark isMark
    simp only [isDigitMark, Bool.or_eq_true, decide_eq_true_eq] at isMark
    rcases isMark with rfl | rfl <;> decide
  cases exponentText with
  | none => exact fun c isHead => ⟨(ends c isHead).1, (ends c isHead).2.1⟩
  | unsigned isMark | plus isMark | minus isMark =>
      rintro _ ⟨⟩
      exact ofMark isMark

theorem readFraction?_append {fraction : Option (List Char)} {rest : List Char}
    (isDigits : ∀ digits ∈ fraction, IsDigits digits)
    (ends : ∀ c ∈ rest.head?, Decimal.isDigit c = false ∧ c ≠ '.') :
    readFraction? (fractionText fraction ++ rest) = some (fraction, rest) := by
  cases fraction with
  | none =>
      rw [fractionText, List.nil_append, readFraction?]
      rintro _ rfl
      exact (ends '.' rfl).2 rfl
  | some digits =>
      have read := readDigits?_append (isDigits digits rfl) fun c isHead => (ends c isHead).1
      rw [fractionText, List.cons_append, readFraction?, read]
      rfl

theorem endsWhole (fraction : Option (List Char)) {rest : List Char}
    (ends : ∀ c ∈ rest.head?, Decimal.isDigit c = false ∧ c ≠ '.') :
    ∀ c ∈ (fractionText fraction ++ rest).head?, Decimal.isDigit c = false := by
  cases fraction with
  | none => exact fun c isHead => (ends c isHead).1
  | some digits =>
      rintro _ ⟨⟩
      decide

def readMagnitude? (negative : Bool) (text : List Char) : Option (Number × List Char) := do
  let (whole, rest) ← readDigits? text
  if whole.head? = some '0' && whole.length ≠ 1 then none
  else
    let (fraction, rest) ← readFraction? rest
    let (exponent, rest) ← readExponent? rest
    return (⟨negative, whole, fraction, exponent⟩, rest)

theorem readNumber?_minus (text : List Char) :
    readNumber? ('-' :: text) = readMagnitude? true text := rfl

theorem readNumber?_unsigned {c : Char} (unsigned : c ≠ '-') (text : List Char) :
    readNumber? (c :: text) = readMagnitude? false (c :: text) := by
  rw [readNumber?]
  · rfl
  · intro rest same
    exact unsigned (List.cons.inj same).1

theorem readNumber?_append {n : Number} {text rest : List Char} (numberText : NumberText n text)
    (ends : EndsNumber rest) : readNumber? (text ++ rest) = some (n, rest) := by
  obtain ⟨wellFormed, exponentText⟩ := numberText
  rename_i exponentDigits
  have endsFraction := endsFraction exponentText ends
  have whole := readDigits?_append wellFormed.whole (endsWhole n.fraction endsFraction)
  have fraction := readFraction?_append wellFormed.fraction endsFraction
  have exponent := readExponent?_append exponentText wellFormed.exponent ends
  have leading : (n.whole.head? = some '0' && n.whole.length ≠ 1) = false := by
    simpa using wellFormed.noLeadingZero
  have magnitude : readMagnitude? n.negative (n.whole ++ (fractionText n.fraction ++
      (exponentDigits ++ rest))) = some (n, rest) := by
    simp only [readMagnitude?, whole, fraction, exponent, leading, Option.bind_eq_bind,
      Option.bind_some]
    rfl
  obtain ⟨c, others, isWhole⟩ := List.exists_cons_of_ne_nil wellFormed.whole.1
  have unsigned : c ≠ '-' := by
    rintro rfl
    have digit := wellFormed.whole.2 '-' (isWhole ▸ List.mem_cons_self)
    contradiction
  rw [List.append_assoc, List.append_assoc, List.append_assoc, ← magnitude]
  cases n.negative with
  | true => exact readNumber?_minus _
  | false =>
      rw [isWhole]
      exact readNumber?_unsigned unsigned _

/-! Values. -/

theorem endsNumber_append {space rest : List Char} (isSpaceText : IsSpaceText space)
    (ends : EndsNumber rest) : EndsNumber (space ++ rest) := by
  cases space with
  | nil => exact ends
  | cons c space =>
      have space := isSpaceText c List.mem_cons_self
      simp only [isSpace, Bool.or_eq_true, decide_eq_true_eq] at space
      rintro _ ⟨⟩
      rcases space with ((rfl | rfl) | rfl) | rfl <;> decide

theorem exists_cons_of_numberText {n : Number} {text : List Char} (numberText : NumberText n text) :
    ∃ c rest, text = c :: rest ∧ (c = '-' ∨ Decimal.isDigit c = true) := by
  obtain ⟨wellFormed, _⟩ := numberText
  obtain ⟨c, others, isWhole⟩ := List.exists_cons_of_ne_nil wellFormed.whole.1
  cases n.negative with
  | true => exact ⟨'-', _, rfl, .inl rfl⟩
  | false =>
      rw [isWhole]
      exact ⟨c, _, rfl, .inr (wellFormed.whole.2 c (isWhole ▸ List.mem_cons_self))⟩

theorem exists_cons_of_written {json : Json} {text : List Char} (written : Written json text) :
    ∃ c rest, text = c :: rest ∧ isSpace c = false ∧ c ≠ ']' := by
  cases written with
  | number numberText =>
      obtain ⟨c, rest, rfl, isFirst⟩ := exists_cons_of_numberText numberText
      have differs : ∀ other, ¬ (other = '-' ∨ Decimal.isDigit other = true) → c ≠ other := by
        rintro _ notFirst rfl
        exact notFirst isFirst
      refine ⟨c, rest, rfl, ?_, differs ']' (by decide)⟩
      simp [isSpace, differs ' ' (by decide), differs '\t' (by decide), differs '\n' (by decide),
        differs '\r' (by decide)]
  | string stringText =>
      obtain ⟨_⟩ := stringText
      exact ⟨'"', _, rfl, by decide⟩
  | null => exact ⟨'n', _, rfl, by decide⟩
  | true => exact ⟨'t', _, rfl, by decide⟩
  | false => exact ⟨'f', _, rfl, by decide⟩
  | emptyArray | array => exact ⟨'[', _, rfl, by decide⟩
  | emptyObject | object => exact ⟨'{', _, rfl, by decide⟩

theorem exists_cons_of_writtenItems {items : List Json} {text : List Char}
    (written : WrittenItems items text) :
    ∃ c rest, text = c :: rest ∧ isSpace c = false ∧ c ≠ ']' := by
  cases written with
  | last written | cons written =>
      obtain ⟨c, rest, rfl, begins⟩ := exists_cons_of_written written
      exact ⟨c, _, rfl, begins⟩

theorem exists_cons_of_writtenMembers {members : List (String × Json)} {text : List Char}
    (written : WrittenMembers members text) : ∃ rest, text = '"' :: rest := by
  cases written with
  | last written | cons written =>
      obtain ⟨⟨_⟩, _, _, _, _⟩ := written
      exact ⟨_, rfl⟩

theorem readValue_number {c : Char} (isFirst : c = '-' ∨ Decimal.isDigit c = true)
    (fuel : Nat) (text : List Char) : readValue (fuel + 1) (c :: text) =
      (readNumber? (c :: text)).map fun (read, rest) => (.number read, rest) := by
  rw [readValue]
  all_goals
    intro rest same
    rw [(List.cons.inj same).1] at isFirst
    exact absurd isFirst (by decide)

theorem readValue_array {fuel : Nat} {text rest : List Char} {c : Char}
    (skipped : skipSpace text = c :: rest) (notClosed : c ≠ ']') :
    readValue (fuel + 1) ('[' :: text) =
      (readItems fuel (c :: rest) []).map fun (items, rest) => (.array items, rest) := by
  simp [readValue, skipped, notClosed]

theorem readValue_object {fuel : Nat} {text rest : List Char} {c : Char}
    (skipped : skipSpace text = c :: rest) (notClosed : c ≠ '}') :
    readValue (fuel + 1) ('{' :: text) =
      (readMembers fuel (c :: rest) []).map fun (members, rest) => (.object members, rest) := by
  simp [readValue, skipped, notClosed]

structure Reads (fuel : Nat) : Prop where
  value : ∀ {json : Json} {text rest : List Char}, Written json text → EndsNumber rest →
    text.length < fuel → readValue fuel (text ++ rest) = some (json, rest)
  items : ∀ {items : List Json} {text : List Char} (rest : List Char) (before : List Json),
    WrittenItems items text → text.length < fuel →
    readItems fuel (text ++ rest) before = some (before.reverse ++ items, rest)
  members : ∀ {members : List (String × Json)} {text : List Char} (rest : List Char)
    (before : List (Option String × Json)), WrittenMembers members text → text.length < fuel →
    readMembers fuel (text ++ rest) before =
      some (before.reverse ++ members.map (fun (name, value) => (some name, value)), rest)

namespace Reads

variable {fuel : Nat} (reads : Reads fuel)

include reads

theorem value_succ {json : Json} {text rest : List Char} (written : Written json text)
    (ends : EndsNumber rest) (short : text.length < fuel + 1) :
    readValue (fuel + 1) (text ++ rest) = some (json, rest) := by
  cases written with
  | null | true | false => rfl
  | number numberText =>
      obtain ⟨c, others, isText, isFirst⟩ := exists_cons_of_numberText numberText
      have read := readNumber?_append numberText ends
      rw [isText, List.cons_append] at read ⊢
      rw [readValue_number isFirst, read]
      rfl
  | string stringText =>
      obtain ⟨inner, split, read⟩ := readString_stringText stringText rest
      rw [split, readValue, read]
      rfl
  | emptyArray isSpaceText =>
      have skipped := skipSpace_append_cons isSpaceText (c := ']') (by decide) rest
      simp [readValue, skipped]
  | emptyObject isSpaceText =>
      have skipped := skipSpace_append_cons isSpaceText (c := '}') (by decide) rest
      simp [readValue, skipped, ofMembers]
  | array isSpaceText items =>
      rename_i itemsText
      obtain ⟨c, others, isText, notSpace, notClosed⟩ := exists_cons_of_writtenItems items
      have read := reads.items rest [] items (by simp at short; omega)
      have skipped := skipSpace_append_cons isSpaceText notSpace (others ++ rest)
      rw [isText, List.cons_append] at read
      rw [List.cons_append, List.append_assoc, isText, List.cons_append,
        readValue_array skipped notClosed, read]
      rfl
  | object isSpaceText members =>
      obtain ⟨others, isText⟩ := exists_cons_of_writtenMembers members
      have read := reads.members rest [] members (by simp at short; omega)
      have skipped := skipSpace_append_cons isSpaceText (c := '"') (by decide) (others ++ rest)
      rw [isText, List.cons_append] at read
      rw [List.cons_append, List.append_assoc, isText, List.cons_append,
        readValue_object skipped (by decide), read]
      rfl

theorem items_succ {items : List Json} {text : List Char} (rest : List Char) (before : List Json)
    (written : WrittenItems items text) (short : text.length < fuel + 1) :
    readItems (fuel + 1) (text ++ rest) before = some (before.reverse ++ items, rest) := by
  cases written with
  | last written isAfter =>
      have ends : EndsNumber (']' :: rest) := by
        rintro _ ⟨⟩
        decide
      have value := reads.value written (endsNumber_append isAfter ends) (by simp at short; omega)
      have skipped := skipSpace_append_cons isAfter (c := ']') (by decide) rest
      simp [readItems, value, skipped]
  | cons written isAfter isBefore others =>
      rename_i item items text after space more
      have ends : EndsNumber (',' :: (space ++ (more ++ rest))) := by
        rintro _ ⟨⟩
        decide
      have value := reads.value written (endsNumber_append isAfter ends) (by simp at short; omega)
      have skipped := skipSpace_append_cons isAfter (c := ',') (by decide) (space ++ (more ++ rest))
      obtain ⟨c, tail, isText, notSpace, _⟩ := exists_cons_of_writtenItems others
      have skipped' := skipSpace_append_cons isBefore notSpace (tail ++ rest)
      have read := reads.items rest (item :: before) others (by simp at short; omega)
      rw [isText, List.cons_append] at read value skipped
      simp [readItems, value, skipped, isText, skipped', read]

theorem member_succ {member : String × Json} {text : List Char} {mark : Char}
    (before : List (Option String × Json)) (written : WrittenMember member text)
    (isMark : mark = ',' ∨ mark = '}') (rest : List Char) (short : text.length < fuel) :
    readMembers (fuel + 1) (text ++ mark :: rest) before =
      if mark = ',' then readMembers fuel (skipSpace rest) ((some member.1, member.2) :: before)
      else some (((some member.1, member.2) :: before).reverse, rest) := by
  obtain ⟨nameText, isBefore, isBetween, valueText, isAfter⟩ := written
  rename_i name value nameText text space between after
  have ends : EndsNumber (mark :: rest) := by
    rintro _ ⟨⟩
    rcases isMark with rfl | rfl <;> decide
  have notSpace : isSpace mark = false := by
    rcases isMark with rfl | rfl <;> decide
  obtain ⟨inner, split, readName⟩ := readString_stringText nameText
    (space ++ ':' :: (between ++ (text ++ (after ++ mark :: rest))))
  obtain ⟨c, others, isText, valueBegins, _⟩ := exists_cons_of_written valueText
  have colon := skipSpace_append_cons isBefore (c := ':') (by decide)
    (between ++ (text ++ (after ++ mark :: rest)))
  have toValue : skipSpace (between ++ (text ++ (after ++ mark :: rest))) =
      text ++ (after ++ mark :: rest) := by
    rw [isText]
    exact skipSpace_append_cons isBetween valueBegins _
  have readValue := reads.value valueText (endsNumber_append isAfter ends) (by simp at short; omega)
  have behind := skipSpace_append_cons isAfter notSpace rest
  simp only [List.append_assoc, List.cons_append, split, readMembers, readName, colon, toValue,
    readValue, behind]
  rcases isMark with rfl | rfl <;> rfl

theorem members_succ {members : List (String × Json)} {text : List Char} (rest : List Char)
    (before : List (Option String × Json)) (written : WrittenMembers members text)
    (short : text.length < fuel + 1) : readMembers (fuel + 1) (text ++ rest) before =
      some (before.reverse ++ members.map (fun (name, value) => (some name, value)), rest) := by
  cases written with
  | last written =>
      have read := reads.member_succ before written (.inr rfl) rest (by simp at short; omega)
      simp [read]
  | cons written isBefore others =>
      rename_i member members text space more
      obtain ⟨tail, isText⟩ := exists_cons_of_writtenMembers others
      have skipped := skipSpace_append_cons isBefore (c := '"') (by decide) (tail ++ rest)
      have first := reads.member_succ before written (.inl rfl) (space ++ (more ++ rest))
        (by simp at short; omega)
      have read := reads.members rest ((some member.1, member.2) :: before) others
        (by simp at short; omega)
      rw [isText, List.cons_append] at read first
      simp [isText, first, skipped, read]

end Reads

theorem reads (fuel : Nat) : Reads fuel := by
  -- Each reader passes one unit less on to the next one, so all of them go together.
  induction fuel with
  | zero =>
      constructor
      all_goals
        intros
        contradiction
  | succ fuel ih => exact ⟨ih.value_succ, ih.items_succ, ih.members_succ⟩

/-- A text of the grammar, with space around it, is read as the value it was written for. -/
theorem read?_written {json : Json} {before text after : List Char} (isBefore : IsSpaceText before)
    (written : Written json text) (isAfter : IsSpaceText after) :
    read? (before ++ text ++ after) = some json := by
  obtain ⟨c, rest, isText, notSpace, _⟩ := exists_cons_of_written written
  have skipped : skipSpace (before ++ text ++ after) = text ++ after := by
    rw [isText, List.append_assoc]
    exact skipSpace_append_cons isBefore notSpace (rest ++ after)
  have ends : EndsNumber after := by
    have nothing : EndsNumber [] := by simp [EndsNumber]
    simpa using endsNumber_append isAfter nothing
  have read := (reads ((before ++ text ++ after).length + 1)).value written ends (by simp; omega)
  have nothingLeft : skipSpace after = [] := by
    have skipped := @skipSpace_append after [] isAfter (by simp)
    simpa using skipped
  rw [read?, skipped, read]
  simp [nothingLeft]

end IngressMeter.Json
