import IngressMeter.Proofs.AccessLog.Fields
import Mathlib.Data.List.TakeWhile

/-!
A line written from fields in the common format is told apart into these fields.
-/

namespace IngressMeter.AccessLog.Common.Fields

structure WellFormed (fields : Fields) : Prop where
  host : IsWord fields.host
  user : IsWord fields.user
  start : HasShape startShape fields.start
  method : IsWord fields.method
  path : IsEscaped fields.path
  protocol : IsBare fields.protocol
  status : IsWord fields.status
  size : IsWord fields.size
  referrer : IsQuotedOrDash fields.referrer
  agent : IsQuotedOrDash fields.agent
  count : IsWord fields.count
  router : IsQuotedOrDash fields.router
  backend : IsQuotedOrDash fields.backend
  duration : IsWord fields.duration

def originLine (fields : Fields) : List Char :=
  [' '].intercalate [fields.status, fields.size, fields.referrer, fields.agent, fields.count,
    fields.router, fields.backend, fields.duration]

def line (fields : Fields) : List Char :=
  [' '].intercalate [fields.host, ['-'], fields.user, '[' :: (fields.start ++ [']']),
    '"' :: fields.method, fields.path, fields.protocol ++ ['"'], fields.originLine]

theorem suffix_intercalate {pieces : List (List Char)} {last : List Char}
    (isLast : pieces.getLast? = some last) : last <:+ [' '].intercalate pieces := by
  induction pieces with
  | nil => contradiction
  | cons first others ih =>
      cases others with
      | nil =>
          obtain rfl : first = last := Option.some.inj isLast
          simp
      | cons second others =>
          rw [List.getLast?_cons_cons] at isLast
          rw [intercalate_cons]
          exact (ih isLast).trans ((List.suffix_cons ' ' _).trans (List.suffix_append first _))

theorem duration_suffix_line (fields : Fields) : fields.duration <:+ fields.line := by
  have last : fields.duration <:+ fields.originLine := suffix_intercalate rfl
  have origin : fields.originLine <:+ fields.line := suffix_intercalate rfl
  exact last.trans origin

variable {fields : Fields} (wellFormed : fields.WellFormed)

include wellFormed

theorem origin?_originLine (read : Fields) :
    origin? read fields.originLine = some { fields with
      host := read.host
      user := read.user
      start := read.start
      method := read.method
      path := read.path
      protocol := read.protocol } := by
  have duration : fields.duration.takeWhile isNonBlank = fields.duration := by
    rw [List.takeWhile_eq_self_iff]
    simpa [isNonBlank] using wellFormed.duration.2
  have nonempty : fields.duration.isEmpty = false := by simpa using wellFormed.duration.1
  simp only [originLine, intercalate_cons, List.intercalate_singleton]
  rw [origin?, word?_append wellFormed.status]
  simp only [Option.bind_eq_bind, Option.bind_some]
  rw [word?_append wellFormed.size, Option.bind_some]
  refine anyField_append wellFormed.referrer ?_
  refine anyField_append wellFormed.agent ?_
  rw [word?_append wellFormed.count, Option.bind_some]
  refine quotedOrDash_append wellFormed.router ?_
  refine quotedOrDash_append wellFormed.backend ?_
  simp only [duration, nonempty]
  rfl

theorem protocol?_append (read : Fields) :
    protocol? read (fields.protocol ++ '"' :: ' ' :: fields.originLine) = some { fields with
      host := read.host
      user := read.user
      start := read.start
      method := read.method
      path := read.path } := by
  have unquoted : '"' ∉ fields.protocol := fun quote => (wellFormed.protocol _ quote).2.1 rfl
  simp only [protocol?, span_ne unquoted, blank?_space, Option.bind_some,
    origin?_originLine wellFormed]

theorem path?_append (read : Fields) :
    path? read (fields.path ++ ' ' :: (fields.protocol ++ '"' :: ' ' :: fields.originLine)) =
      some { fields with
        host := read.host
        user := read.user
        start := read.start
        method := read.method } := by
  have plain : ∀ c ∈ fields.protocol, c ≠ '"' ∧ c ≠ '\\' :=
    fun c isIn => (wellFormed.protocol c isIn).2
  have noBlank : ∀ c ∈ fields.protocol.reverse, isBlank c = false :=
    fun c isIn => (wellFormed.protocol c (List.mem_reverse.mp isIn)).1
  have run : escapedRun []
      (fields.path ++ ' ' :: (fields.protocol ++ '"' :: ' ' :: fields.originLine)) =
        (fields.protocol.reverse ++ ' ' :: fields.path.reverse, '"' :: ' ' :: fields.originLine) := by
    rw [escapedRun_append wellFormed.path, escapedRun_cons (by decide) (fun space => absurd space (by decide)),
      escapedRun_word plain, List.append_nil]
  simp only [path?, run]
  -- The path runs up to the quote behind the protocol at first. No blank follows it before it has
  -- been given back down to the blank in front of the protocol.
  rw [giveBack_word _ noBlank (by decide), List.reverse_reverse, giveBack_of_none]
  · refine giveBack_of_some ?_
    rw [List.reverse_reverse, blank?_space, Option.bind_some, protocol?_append wellFormed]
  · cases text : fields.protocol with
    | nil => rfl
    | cons c protocol =>
        have isIn : c ∈ fields.protocol := text ▸ List.mem_cons_self
        rw [List.cons_append, blank?_eq_none (wellFormed.protocol c isIn).1]
        rfl
  · intro taken c rest nonBlank
    rw [blank?_eq_none nonBlank]
    rfl

theorem request?_append (read : Fields) :
    request? read (fields.method ++ ' ' :: (fields.path ++ ' ' ::
      (fields.protocol ++ '"' :: ' ' :: fields.originLine))) = some { fields with
        host := read.host
        user := read.user
        start := read.start } := by
  rw [request?, span_nonBlank wellFormed.method.2]
  refine giveBack_of_some ?_
  simp only [List.reverse_reverse, blank?_space, Option.bind_some, path?_append wellFormed]
  rfl

theorem fieldsHere?_line : fieldsHere? fields.line = some fields := by
  have dash : ∀ rest, char? '-' ('-' :: rest) = some rest := fun _ => rfl
  have quote : ∀ rest, char? '"' ('"' :: rest) = some rest := fun _ => rfl
  simp only [line, intercalate_cons, List.intercalate_singleton, List.cons_append,
    List.append_assoc, List.nil_append]
  rw [fieldsHere?, word?_append wellFormed.host]
  simp only [Option.bind_eq_bind, Option.bind_some, dash, blank?_space,
    word?_append wellFormed.user, start?_append wellFormed.start, quote,
    request?_append wellFormed]

theorem fields?_line : fields? fields.line = some fields := by
  have here := fieldsHere?_line wellFormed
  cases text : fields.line with
  | nil =>
      rw [text] at here
      contradiction
  | cons c rest =>
      rw [text] at here
      rw [fields?, here]
      rfl

theorem hasTimestamp_line : hasTimestamp fields.line = true := by
  simp only [line, intercalate_cons, List.intercalate_singleton, List.cons_append,
    List.append_assoc, List.nil_append]
  refine hasTimestamp_append _ (hasTimestamp_cons _ (hasTimestamp_cons _ (hasTimestamp_cons _ ?_)))
  refine hasTimestamp_append _ (hasTimestamp_cons _ ?_)
  rw [hasTimestamp, startsWithTimestamp_append wellFormed.start, Bool.true_or]

end IngressMeter.AccessLog.Common.Fields
