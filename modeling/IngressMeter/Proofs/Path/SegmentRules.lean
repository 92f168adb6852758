import IngressMeter.Proofs.Path.Passes
import IngressMeter.Proofs.Text.Pieces
import Mathlib.Data.List.Forall2

/-!
Which segments the three rules take: the numbers, the identifiers and the tokens.
-/

namespace IngressMeter.Path

def isNumber (segment : List Char) : Bool := 0 < segment.length && segment.all isDecimalDigit

def isUuid (segment : List Char) : Bool :=
  (segment.splitOn '-').map List.length = [8, 4, 4, 4, 12] &&
    segment.all fun c => c = '-' || isHexDigit c

def isToken (segment : List Char) : Bool := 20 ≤ segment.length && segment.all Char.isAlphanum

theorem isSegment_of_all {accept : Char → Bool} (slash : accept '/' = false)
    (query : accept '?' = false) {segment : List Char} (accepted : segment.all accept = true) :
    IsSegment segment := by
  rw [List.all_eq_true] at accepted
  constructor
  · intro isIn
    simp [accepted _ isIn] at slash
  · intro isIn
    simp [accepted _ isIn] at query

theorem span_segment {accept : Char → Bool} (slash : accept '/' = false)
    (query : accept '?' = false) {segment rest : List Char}
    (accepted : segment.all accept = true) (ends : endsSegment rest = true) :
    (segment ++ rest).span accept = (segment, rest) := by
  refine span_append (List.all_eq_true.mp accepted) ?_
  intro c isHead
  obtain ⟨rest, rfl⟩ := List.head?_eq_some_iff.mp isHead
  simp only [endsSegment, Bool.or_eq_true, decide_eq_true_eq] at ends
  obtain rfl | rfl := ends
  · exact slash
  · exact query

/-- A text is a segment and what ends it in one way only. -/
theorem segment_unique {segment other rest rest' : List Char} (isSegment : IsSegment segment)
    (isOther : IsSegment other) (ends : endsSegment rest = true) (ends' : endsSegment rest' = true)
    (same : segment ++ rest = other ++ rest') : segment = other := by
  have undelimited : ∀ {piece}, IsSegment piece → piece.all (fun c => c ≠ '/' && c ≠ '?') = true := by
    intro piece isPiece
    rw [List.all_eq_true]
    intro c isIn
    have noSlash : c ≠ '/' := fun slash => isPiece.1 (slash ▸ isIn)
    have noQuery : c ≠ '?' := fun query => isPiece.2 (query ▸ isIn)
    simp [noSlash, noQuery]
  have first := span_segment (by decide) (by decide) (undelimited isSegment) ends
  rw [same, span_segment (by decide) (by decide) (undelimited isOther) ends'] at first
  exact (congrArg Prod.fst first).symm

theorem SegmentRule.recognizes_of {rule : SegmentRule} {fits : List Char → Bool}
    (takes : ∀ {text length}, rule.length? text = some length ↔ ∃ segment rest,
      text = segment ++ rest ∧ fits segment = true ∧ endsSegment rest = true ∧
        segment.length = length)
    (isSegment_of_fits : ∀ {segment}, fits segment = true → IsSegment segment)
    (isSegment : IsSegment rule.mark) (unfit : fits rule.mark = false) : rule.Recognizes fits where
  isSegment := isSegment
  unfit := unfit
  length? segment rest isSegment ends := by
    split
    · rename_i fitting
      exact takes.mpr ⟨segment, rest, rfl, fitting, ends, rfl⟩
    · rename_i unfitting
      rw [Option.eq_none_iff_forall_ne_some]
      intro length found
      obtain ⟨other, rest', same, fitting, ends', _⟩ := takes.mp found
      have isOther := isSegment_of_fits fitting
      rw [segment_unique isSegment isOther ends ends' same] at unfitting
      exact unfitting fitting

theorem wholeRun_recognizes {accept : Char → Bool} (slash : accept '/' = false)
    (query : accept '?' = false) {least : Nat} {mark : List Char} (isSegment : IsSegment mark)
    (unfit : mark.all accept = false) :
    SegmentRule.Recognizes ⟨wholeRun? accept least, mark⟩
      fun segment => least ≤ segment.length && segment.all accept := by
  refine SegmentRule.recognizes_of ?_ ?_ isSegment (by simp [unfit])
  · intro text length
    simp only [wholeRun?, Bool.and_eq_true, decide_eq_true_eq]
    constructor
    · intro found
      rw [List.span_eq_takeWhile_dropWhile] at found
      split at found
      · rename_i whole
        exact ⟨text.takeWhile accept, text.dropWhile accept, List.takeWhile_append_dropWhile.symm,
          ⟨whole.1, List.all_takeWhile⟩, whole.2, Option.some.inj found⟩
      · contradiction
    · rintro ⟨segment, rest, rfl, ⟨long, accepted⟩, ends, rfl⟩
      rw [span_segment slash query accepted ends, if_pos ⟨long, ends⟩]
  · intro segment fitting
    rw [Bool.and_eq_true] at fitting
    exact isSegment_of_all slash query fitting.2

theorem numberRule_recognizes : numberRule.Recognizes isNumber :=
  wholeRun_recognizes (by decide) (by decide) (by decide) (by decide)

theorem isTokenChar_eq : isTokenChar = Char.isAlphanum := by
  funext c
  have isUpper : c.isUpper = ('A' ≤ c && c ≤ 'Z') := Bool.decide_and _ _
  have isLower : c.isLower = ('a' ≤ c && c ≤ 'z') := rfl
  have isDigit : c.isDigit = ('0' ≤ c && c ≤ '9') := rfl
  calc isTokenChar c = ((c.isLower || c.isUpper) || c.isDigit) := by
        rw [isTokenChar, isUpper, isLower, isDigit]
    _ = c.isAlphanum := by
        rw [Bool.or_comm c.isLower]
        rfl

theorem tokenRule_recognizes : tokenRule.Recognizes isToken := by
  have recognizes : tokenRule.Recognizes fun segment =>
      20 ≤ segment.length && segment.all isTokenChar :=
    wholeRun_recognizes (by decide) (by decide) (by decide) (by decide)
  rwa [isTokenChar_eq] at recognizes

def dashed (first : Nat) : List Nat → List (Option Unit)
  | [] => List.replicate first (some ())
  | next :: sizes => List.replicate first (some ()) ++ none :: dashed next sizes

def Takes : Option Unit → Char → Prop
  | some () => (isHexDigit · = true)
  | none => (· = '-')

theorem dropShape?_eq_some_iff {shape : List (Option Unit)} {text rest : List Char} :
    dropShape? shape text = some rest ↔
      ∃ segment, text = segment ++ rest ∧ List.Forall₂ Takes shape segment := by
  induction shape generalizing text with
  | nil => simp [dropShape?]
  | cons slot shape ih =>
      have step : ∀ c text, dropShape? (slot :: shape) (c :: text) = some rest ↔
          Takes slot c ∧ dropShape? shape text = some rest := by
        intro c text
        cases slot <;> simp [dropShape?, Takes]
      constructor
      · intro found
        cases text with
        | nil => cases slot <;> contradiction
        | cons c text =>
            rw [step, ih] at found
            obtain ⟨taken, segment, rfl, others⟩ := found
            exact ⟨c :: segment, rfl, .cons taken others⟩
      · rintro ⟨_, rfl, taken | ⟨taken, others⟩⟩
        rw [List.cons_append, step, ih]
        exact ⟨taken, _, rfl, others⟩

theorem dashed_succ (first : Nat) (sizes : List Nat) :
    dashed (first + 1) sizes = some () :: dashed first sizes := by
  cases sizes with
  | nil => rfl
  | cons next sizes => rfl

theorem forall₂_dashed_iff {text : List Char} {first : Nat} {sizes : List Nat} :
    List.Forall₂ Takes (dashed first sizes) text ↔
      (text.splitOn '-').map List.length = first :: sizes ∧
        text.all (fun c => c = '-' || isHexDigit c) = true := by
  induction text generalizing first sizes with
  | nil => cases first <;> cases sizes <;> simp [dashed, List.replicate_succ]
  | cons c text ih =>
      obtain ⟨piece, pieces, split⟩ := List.exists_cons_of_ne_nil (List.splitOn_ne_nil '-' text)
      rw [split] at ih
      rw [List.splitOn_cons_eq_if_modifyHead, List.all_cons]
      by_cases dash : c = '-'
      · subst dash
        have notHex : isHexDigit '-' = false := by decide
        cases first with
        | zero =>
            cases sizes with
            | nil => simp [dashed, split]
            | cons next sizes => simp [dashed, ih, Takes, split]
        | succ first => simp [dashed_succ, Takes, notHex]
      · cases first with
        | zero => cases sizes <;> simp [dashed, Takes, dash, split]
        | succ first => simp [dashed_succ, Takes, dash, split, ih, and_left_comm]

theorem uuidRule_recognizes : uuidRule.Recognizes isUuid := by
  have isShape : uuidShape = dashed 8 [4, 4, 4, 12] := rfl
  have fits_iff : ∀ segment, isUuid segment = true ↔ List.Forall₂ Takes uuidShape segment := by
    intro segment
    rw [isShape, forall₂_dashed_iff, isUuid, Bool.and_eq_true, decide_eq_true_eq]
  refine SegmentRule.recognizes_of ?_ ?_ (by decide) (by decide)
  · intro text length
    simp only [fits_iff, uuidRule]
    constructor
    · intro found
      split at found
      · rename_i rest dropped
        obtain ⟨segment, same, taken⟩ := dropShape?_eq_some_iff.mp dropped
        rw [Option.ite_none_right_eq_some] at found
        exact ⟨segment, rest, same, taken, found.1, taken.length_eq ▸ Option.some.inj found.2⟩
      · contradiction
    · rintro ⟨segment, rest, same, taken, ends, rfl⟩
      rw [dropShape?_eq_some_iff.mpr ⟨segment, same, taken⟩]
      simp [ends, taken.length_eq]
  · intro segment fitting
    rw [isUuid, Bool.and_eq_true] at fitting
    exact isSegment_of_all (by decide) (by decide) fitting.2

end IngressMeter.Path
