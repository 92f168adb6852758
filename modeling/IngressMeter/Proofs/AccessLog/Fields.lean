import IngressMeter.AccessLog.Common
import IngressMeter.Proofs.Text.Pieces
import Mathlib.Data.List.Chain

/-!
Each reader of the common log format takes a field off the front of a line at the first way it
tries, if the field is written as the format asks.
-/

namespace IngressMeter.AccessLog.Common

def IsWord (text : List Char) : Prop := text ≠ [] ∧ ∀ c ∈ text, isBlank c = false

instance (text : List Char) : Decidable (IsWord text) :=
  decidable_of_iff (text ≠ [] ∧ text.all (!isBlank ·) = true) (by simp [IsWord])

def IsBare (text : List Char) : Prop := ∀ c ∈ text, isBlank c = false ∧ c ≠ '"' ∧ c ≠ '\\'

instance (text : List Char) : Decidable (IsBare text) :=
  decidable_of_iff (text.all (fun c => !isBlank c && c ≠ '"' && c ≠ '\\') = true)
    (by simp [IsBare, and_assoc])

def IsQuotedOrDash (text : List Char) : Prop :=
  text = ['-'] ∨ ∃ inner, text = '"' :: (inner ++ ['"']) ∧ '"' ∉ inner

def IsEscaped (text : List Char) : Prop :=
  text.head? ≠ some '"' ∧ text.IsChain fun before c => c = '"' → before = '\\'

instance (text : List Char) : Decidable (IsEscaped text) :=
  inferInstanceAs (Decidable (text.head? ≠ some '"' ∧
    text.IsChain fun before c => c = '"' → before = '\\'))

def startShape : List (Char → Bool) :=
  let digits (count : Nat) : List (Char → Bool) := List.replicate count isDecimalDigit
  let the (c : Char) : List (Char → Bool) := [(· = c)]
  digits 2 ++ the '/' ++ List.replicate 3 isAsciiLetter ++ the '/' ++ digits 4 ++ the ':' ++
    digits 2 ++ the ':' ++ digits 2 ++ the ':' ++ digits 2 ++ the ' ' ++
    [fun c => c = '+' || c = '-'] ++ digits 4

def HasShape (shape : List (Char → Bool)) (text : List Char) : Prop :=
  List.Forall₂ (fun accept c => accept c = true) shape text

instance (shape : List (Char → Bool)) (text : List Char) : Decidable (HasShape shape text) :=
  inferInstanceAs (Decidable (List.Forall₂ (fun accept c => accept c = true) shape text))

theorem span_nonBlank {word : List Char} (noBlank : ∀ c ∈ word, isBlank c = false)
    (rest : List Char) : (word ++ ' ' :: rest).span isNonBlank = (word, ' ' :: rest) :=
  span_append_cons (by simpa [isNonBlank] using noBlank) (by decide) rest

@[simp] theorem blank?_space (rest : List Char) : blank? (' ' :: rest) = some rest := rfl

theorem blank?_eq_none {c : Char} (nonBlank : isBlank c = false) (rest : List Char) :
    blank? (c :: rest) = none := by
  simp [blank?, one?, nonBlank]

theorem word?_append {word : List Char} (isWord : IsWord word) (rest : List Char) :
    word? (word ++ ' ' :: rest) = some (word, rest) := by
  have nonempty : word.isEmpty = false := by simpa using isWord.1
  simp only [word?, span_nonBlank isWord.2, nonempty, blank?_space]
  rfl

theorem quoted?_append {inner : List Char} (unquoted : '"' ∉ inner) (rest : List Char) :
    quoted? ('"' :: (inner ++ ['"']) ++ ' ' :: rest) = some ('"' :: (inner ++ ['"']), rest) := by
  have spanned := span_ne unquoted (' ' :: rest)
  simp only [List.cons_append, List.append_assoc, List.nil_append, quoted?, spanned, blank?_space]
  rfl

theorem dash?_append (rest : List Char) : dash? (['-'] ++ ' ' :: rest) = some (['-'], rest) := rfl

theorem firstOf_append {α : Type} {field rest : List Char} (isField : IsQuotedOrDash field)
    (others : List (Option (List Char × List Char))) {next : List Char → List Char → Option α}
    {result : α} (later : next field rest = some result) :
    firstOf (quoted? (field ++ ' ' :: rest) :: dash? (field ++ ' ' :: rest) :: others) next =
      some result := by
  obtain rfl | ⟨inner, rfl, unquoted⟩ := isField
  · have unread : quoted? (['-'] ++ ' ' :: rest) = none := rfl
    simp only [firstOf, List.findSome?_cons, unread, dash?_append, Option.bind_none,
      Option.bind_some, later]
  · simp only [firstOf, List.findSome?_cons, quoted?_append unquoted, Option.bind_some, later]

theorem quotedOrDash_append {α : Type} {field rest : List Char} (isField : IsQuotedOrDash field)
    {next : List Char → List Char → Option α} {result : α}
    (later : next field rest = some result) :
    quotedOrDash (field ++ ' ' :: rest) next = some result :=
  firstOf_append isField [] later

theorem anyField_append {α : Type} {field rest : List Char} (isField : IsQuotedOrDash field)
    {next : List Char → List Char → Option α} {result : α}
    (later : next field rest = some result) :
    anyField (field ++ ' ' :: rest) next = some result :=
  firstOf_append isField [_] later

theorem giveBack_of_some {α : Type} {next : List Char → List Char → Option α}
    {taken text : List Char} {result : α} (found : next taken.reverse text = some result) :
    giveBack next taken text = some result := by
  cases taken with
  | nil => exact found
  | cons c taken => rw [giveBack, found, Option.orElse_eq_orElse, Option.orElse_eq_or, Option.some_or]

theorem giveBack_of_none {α : Type} {next : List Char → List Char → Option α} {c : Char}
    {taken text : List Char} (unread : next (c :: taken).reverse text = none) :
    giveBack next (c :: taken) text = giveBack next taken (c :: text) := by
  rw [giveBack, unread, Option.orElse_eq_orElse, Option.orElse_eq_or, Option.none_or]

theorem giveBack_word {α : Type} {next : List Char → List Char → Option α}
    (unread : ∀ taken c rest, isBlank c = false → next taken (c :: rest) = none)
    {word taken rest : List Char} {c : Char} (noBlank : ∀ c ∈ word, isBlank c = false)
    (nonBlank : isBlank c = false) :
    giveBack next (word ++ taken) (c :: rest) = giveBack next taken (word.reverse ++ c :: rest) := by
  induction word generalizing c rest with
  | nil => rfl
  | cons last word ih =>
      rw [List.forall_mem_cons] at noBlank
      rw [List.cons_append, giveBack_of_none (unread _ c rest nonBlank), ih noBlank.2 noBlank.1]
      simp

theorem escapedRun_cons {c : Char} {text : List Char} (unquoted : c ≠ '"')
    (unpaired : c = '\\' → text.head? ≠ some '"') (taken : List Char) :
    escapedRun taken (c :: text) = escapedRun (c :: taken) text := by
  rw [escapedRun, if_neg unquoted]
  rintro rest isBackslash rfl
  exact unpaired isBackslash rfl

theorem escapedRun_append {text rest : List Char} (escaped : IsEscaped text) (taken : List Char) :
    escapedRun taken (text ++ ' ' :: rest) = escapedRun (text.reverse ++ taken) (' ' :: rest) := by
  obtain ⟨first, chain⟩ := escaped
  induction taken, text using escapedRun.induct with
  | case1 taken text ih =>
      rw [List.isChain_cons_cons, List.isChain_cons] at chain
      obtain ⟨_, next, chain⟩ := chain
      have unquoted : text.head? ≠ some '"' := by
        intro quote
        exact absurd (next '"' quote rfl) (by decide)
      rw [List.cons_append, List.cons_append, escapedRun, ih unquoted chain]
      simp
  | case2 taken text unpaired => exact absurd rfl first
  | case3 taken c text unpaired unquoted ih =>
      rw [List.isChain_cons] at chain
      have unpaired' : text.head? ≠ some '"' := by
        intro quote
        obtain ⟨text', rfl⟩ := List.head?_eq_some_iff.mp quote
        exact unpaired text' (chain.1 '"' quote rfl) rfl
      rw [List.cons_append, escapedRun_cons unquoted, ih unpaired' chain.2]
      · simp
      · intro _
        cases text with
        | nil => simp
        | cons d text => exact unpaired'
  | case4 taken => rfl

theorem escapedRun_word {word : List Char} (plain : ∀ c ∈ word, c ≠ '"' ∧ c ≠ '\\')
    (taken rest : List Char) :
    escapedRun taken (word ++ '"' :: rest) = (word.reverse ++ taken, '"' :: rest) := by
  induction word generalizing taken with
  | nil => simp [escapedRun]
  | cons c word ih =>
      rw [List.forall_mem_cons] at plain
      simp [escapedRun, plain.1, ih plain.2]

def walk? : List (Char → Bool) → List Char → Option (List Char)
  | [], text => some text
  | accept :: shape, text => (one? accept text).bind (walk? shape)

theorem walk?_append {shape : List (Char → Bool)} {text : List Char} (hasShape : HasShape shape text)
    (rest : List Char) : walk? shape (text ++ rest) = some rest := by
  induction hasShape with
  | nil => rfl
  | cons accepted others ih => simp [walk?, one?, accepted, ih]

theorem exists_of_walk? {shape : List (Char → Bool)} {text rest : List Char}
    (walked : walk? shape text = some rest) : ∃ run, HasShape shape run ∧ text = run ++ rest := by
  induction shape generalizing text with
  | nil => exact ⟨[], .nil, Option.some.inj walked⟩
  | cons accept shape ih =>
      cases text with
      | nil => contradiction
      | cons c text =>
          by_cases accepted : accept c = true
          · rw [walk?, one?, if_pos accepted] at walked
            obtain ⟨run, hasShape, split⟩ := ih walked
            exact ⟨c :: run, .cons accepted hasShape, by rw [split, List.cons_append]⟩
          · rw [walk?, one?, if_neg accepted] at walked
            contradiction

theorem not_mem_of_hasShape {shape : List (Char → Bool)} {text : List Char}
    (hasShape : HasShape shape text) {c : Char} (rejected : ∀ accept ∈ shape, accept c = false) :
    c ∉ text := by
  induction hasShape with
  | nil => simp
  | cons accepted others ih =>
      rw [List.forall_mem_cons] at rejected
      rw [List.mem_cons, not_or]
      refine ⟨?_, ih rejected.2⟩
      rintro rfl
      simp [accepted] at rejected

theorem exists_mem_of_hasShape {shape : List (Char → Bool)} {text : List Char}
    (hasShape : HasShape shape text) {accept : Char → Bool} (isIn : accept ∈ shape) :
    ∃ c ∈ text, accept c = true := by
  induction hasShape with
  | nil => contradiction
  | cons accepted others ih =>
      rw [List.mem_cons] at isIn
      rcases isIn with rfl | isIn
      · exact ⟨_, List.mem_cons_self, accepted⟩
      · obtain ⟨c, isIn, accepted⟩ := ih isIn
        exact ⟨c, List.mem_cons_of_mem _ isIn, accepted⟩

theorem slash_mem_start {start : List Char} (hasShape : HasShape startShape start) : '/' ∈ start := by
  have inShape : (fun c => decide (c = '/')) ∈ startShape := by simp [startShape]
  obtain ⟨c, isIn, isSlash⟩ := exists_mem_of_hasShape hasShape inShape
  obtain rfl : c = '/' := of_decide_eq_true isSlash
  exact isIn

theorem walk?_append_shape (shape shape' : List (Char → Bool)) :
    walk? (shape ++ shape') = fun text => (walk? shape text).bind (walk? shape') := by
  induction shape with
  | nil => rfl
  | cons accept shape ih =>
      funext text
      simp only [List.cons_append, walk?, Option.bind_assoc, ih]

theorem walk?_replicate (accept : Char → Bool) (count : Nat) :
    walk? (List.replicate count accept) = repeat? accept count := by
  induction count with
  | zero => rfl
  | succ count ih =>
      funext text
      simp only [List.replicate_succ, walk?, repeat?, ih]

theorem walk?_singleton (accept : Char → Bool) : walk? [accept] = one? accept := by
  funext text
  simp [walk?]

theorem startsWithTimestamp_eq (text : List Char) : startsWithTimestamp ('[' :: text) =
    ((walk? startShape text).bind (char? ']')).isSome := by
  simp only [startShape, List.append_assoc, walk?_append_shape, walk?_replicate, walk?_singleton,
    Option.bind_assoc]
  rfl

theorem startsWithTimestamp_append {start : List Char} (hasShape : HasShape startShape start)
    (rest : List Char) : startsWithTimestamp ('[' :: (start ++ ']' :: rest)) = true := by
  rw [startsWithTimestamp_eq, walk?_append hasShape]
  rfl

theorem hasTimestamp_cons (c : Char) {text : List Char} (has : hasTimestamp text = true) :
    hasTimestamp (c :: text) = true := by
  rw [hasTimestamp, has, Bool.or_true]

theorem hasTimestamp_append (before : List Char) {text : List Char}
    (has : hasTimestamp text = true) : hasTimestamp (before ++ text) = true := by
  induction before with
  | nil => exact has
  | cons c before ih => exact hasTimestamp_cons c ih

theorem start?_append {start : List Char} (hasShape : HasShape startShape start)
    (rest : List Char) : start? ('[' :: (start ++ ']' :: ' ' :: rest)) = some (start, rest) := by
  have noBracket : ']' ∉ start := not_mem_of_hasShape hasShape (by decide)
  have nonempty : start.isEmpty = false := by
    cases hasShape
    rfl
  have opened : char? '[' ('[' :: (start ++ ']' :: ' ' :: rest)) = some (start ++ ']' :: ' ' :: rest) :=
    rfl
  have closed : char? ']' (']' :: ' ' :: rest) = some (' ' :: rest) := rfl
  simp only [start?, opened, span_ne noBracket, nonempty, closed, blank?_space, Option.bind_eq_bind,
    Option.bind_some]
  rfl

end IngressMeter.AccessLog.Common
