import IngressMeter.Proofs.Source.Disk
import IngressMeter.Proofs.Source.Lines

/-!
Following a log file misses nothing and repeats nothing. An observer who knows every incarnation of
the files tells what each of them held; what is passed on are the lines of that, although the tail
only knows the number of its file and how much of it has been read.
-/

namespace IngressMeter

structure Observation where
  incarnation : Incarnation
  bytes : Bytes
  deriving DecidableEq, Repr

namespace Observation

def lines (seen : Observation) : List LogLine :=
  (FileTail.wholeLines seen.bytes).map fun line => LogLine.ofText (FileTail.lineText line)

def look (seen : Observation) (history : DiskHistory) : Observation :=
  if history.incarnation seen.incarnation.number = seen.incarnation then
    { seen with bytes := history.disk.content seen.incarnation.number }
  else seen

theorem incarnation_look (seen : Observation) (history : DiskHistory) :
    (seen.look history).incarnation = seen.incarnation := by
  rw [look]
  split <;> rfl

theorem lines_eq_takeLines (seen : Observation) :
    seen.lines =
      (FileTail.takeLines seen.bytes).1.map fun line => LogLine.ofText (FileTail.lineText line) := by
  rw [FileTail.takeLines_eq_wholeLines, List.map_map]
  refine List.map_congr_left fun line _ => ?_
  rw [Function.comp_apply, FileTail.lineText_append_lineFeed]

end Observation

/-- An observer of the incarnations at a path, who stays with one until the path has another. -/
structure Observer where
  left : List Observation := []
  current : Option Observation := none
  deriving DecidableEq, Repr

namespace Observer

def seen (observer : Observer) : List Observation := observer.left ++ observer.current.toList

def look (observer : Observer) (history : DiskHistory) : Observer :=
  match observer.current <|> history.atPath?.map (⟨·, []⟩) with
  | none => observer
  | some opened =>
    let seen := opened.look history
    if history.hasAnother seen.incarnation then
      { left := observer.left ++ [seen], current := none }
    else { observer with current := some seen }

end Observer

structure TailRun where
  history : DiskHistory := {}
  tail : FileTail := {}
  observer : Observer := {}
  sent : List LogLine := []

namespace TailRun

def look (run : TailRun) : TailRun :=
  let (tail, lines) := run.tail.poll run.history.disk
  { run with tail, observer := run.observer.look run.history, sent := run.sent ++ lines }

def round (run : TailRun) (operations : List FileOperation) : TailRun :=
  { run with history := run.history.applyAll operations }.look

def rounds (run : TailRun) (rounds : List (List FileOperation)) : TailRun := rounds.foldl round run

/-- Whether the open file, if it is cut off, is still shorter than what was read of it when the tail
looks next. -/
def CutShort (run : TailRun) (operations : List FileOperation) : Prop :=
  let history := run.history.applyAll operations
  ∀ file ∈ run.tail.current, history.cutsOf file.number ≠ run.history.cutsOf file.number →
    (history.disk.content file.number).length < file.offset

def StaysCutShort (run : TailRun) : List (List FileOperation) → Prop
  | [] => True
  | operations :: rest => run.CutShort operations ∧ (run.round operations).StaysCutShort rest

instance (run : TailRun) (operations : List FileOperation) : Decidable (run.CutShort operations) :=
  inferInstanceAs (Decidable (∀ file ∈ run.tail.current, _ → _ < file.offset))

instance decidableStaysCutShort (run : TailRun) :
    (rounds : List (List FileOperation)) → Decidable (run.StaysCutShort rounds)
  | [] => instDecidableTrue
  | operations :: rest =>
    have := decidableStaysCutShort (run.round operations) rest
    inferInstanceAs (Decidable (run.CutShort operations ∧ (run.round operations).StaysCutShort rest))

end TailRun

def DiskHistory.Past (history : DiskHistory) (incarnation : Incarnation) : Prop :=
  incarnation.number < history.disk.nextNumber ∧
    (history.disk.entry = .file incarnation.number →
      incarnation.cuts < history.cutsOf incarnation.number)

namespace DiskHistory.Past

variable {history after : DiskHistory} {incarnation : Incarnation}

theorem later (past : history.Past incarnation)
    (later : history.Later incarnation.number after) : after.Past incarnation :=
  ⟨Nat.lt_of_lt_of_le past.1 later.used,
    fun atPath => Nat.lt_of_lt_of_le (past.2 (later.atPath atPath)) later.cuts⟩

theorem ne_incarnation (past : history.Past incarnation) {number : Nat}
    (atPath : history.disk.entry = .file number) : incarnation ≠ history.incarnation number := by
  rintro rfl
  exact Nat.lt_irrefl _ (past.2 atPath)

end DiskHistory.Past

namespace OpenFile

structure Tracks (file : OpenFile) (history : DiskHistory) (seen : Observation) : Prop where
  number : file.number = seen.incarnation.number
  used : file.number < history.disk.nextNumber
  offset : file.offset = seen.bytes.length
  unfinished : file.unfinished = (FileTail.takeLines seen.bytes).2
  cuts : seen.incarnation.cuts ≤ history.cutsOf file.number
  grown : history.cutsOf file.number = seen.incarnation.cuts →
    seen.bytes <+: history.disk.content file.number
  short : history.cutsOf file.number ≠ seen.incarnation.cuts →
    (history.disk.content file.number).length < file.offset

structure Settled (file : OpenFile) (history : DiskHistory) (seen : Observation) : Prop
    extends file.Tracks history seen where
  aside : history.cutsOf file.number ≠ seen.incarnation.cuts →
    history.disk.entry ≠ .file file.number

variable {history : DiskHistory} {file : OpenFile} {seen : Observation}

namespace Tracks

theorem incarnation_eq_iff (tracks : file.Tracks history seen) :
    history.incarnation seen.incarnation.number = seen.incarnation ↔
      history.cutsOf file.number = seen.incarnation.cuts := by
  rw [tracks.number]
  obtain ⟨⟨number, cuts⟩, bytes⟩ := seen
  simp [DiskHistory.incarnation]

theorem opened (sound : history.disk.Sound) {number : Nat}
    (atPath : history.disk.entry = .file number) :
    ({ number } : OpenFile).Tracks history ⟨history.incarnation number, []⟩ where
  number := rfl
  used := sound.named number atPath
  offset := rfl
  unfinished := rfl
  cuts := le_rfl
  grown := fun _ => List.nil_prefix
  short := fun cut => absurd rfl cut

theorem drain (tracks : file.Tracks history seen) :
    (FileTail.drain history.disk file).1.Tracks history (seen.look history) ∧
      (seen.look history).lines = seen.lines ++ (FileTail.drain history.disk file).2 := by
  rw [FileTail.drain, Observation.look]
  by_cases uncut : history.cutsOf file.number = seen.incarnation.cuts
  · obtain ⟨added, grown⟩ := tracks.grown uncut
    have isAdded : (history.disk.content file.number).drop file.offset = added := by
      rw [← grown, tracks.offset, List.drop_left]
    have whole := FileTail.takeLines_append seen.bytes added
    rw [if_pos (tracks.incarnation_eq_iff.mpr uncut), isAdded, tracks.unfinished,
      Observation.lines_eq_takeLines, Observation.lines_eq_takeLines, ← tracks.number, ← grown,
      whole, List.map_append]
    refine ⟨?_, rfl⟩
    exact {
      number := tracks.number
      used := tracks.used
      offset := by simp [tracks.offset]
      unfinished := by rw [whole]
      cuts := tracks.cuts
      grown := fun _ => by rw [grown]
      short := fun cut => absurd uncut cut }
  · have nothing : (history.disk.content file.number).drop file.offset = [] :=
      List.drop_eq_nil_of_le (tracks.short uncut).le
    rw [if_neg fun same => uncut (tracks.incarnation_eq_iff.mp same), nothing, List.append_nil,
      tracks.unfinished, FileTail.takeLines_unfinished]
    refine ⟨?_, (List.append_nil _).symm⟩
    exact ⟨tracks.number, tracks.used, tracks.offset, rfl, tracks.cuts, tracks.grown, tracks.short⟩

theorem offset_drain (tracks : file.Tracks history seen)
    (uncut : history.cutsOf file.number = seen.incarnation.cuts) :
    (FileTail.drain history.disk file).1.offset = (history.disk.content file.number).length := by
  have looked : (seen.look history).bytes = history.disk.content file.number := by
    rw [Observation.look, if_pos (tracks.incarnation_eq_iff.mpr uncut), tracks.number]
  rw [tracks.drain.1.offset, looked]

/-- By number and length the tail tells what the observer tells by the incarnation. -/
theorem isRotated_eq (tracks : file.Tracks history seen)
    (noDirectory : history.disk.entry ≠ .directory)
    (read : history.cutsOf file.number = seen.incarnation.cuts →
      file.offset = (history.disk.content file.number).length) :
    FileTail.isRotated history.disk file = history.hasAnother seen.incarnation := by
  rw [FileTail.isRotated, DiskHistory.hasAnother, DiskHistory.atPath?]
  cases place : history.disk.entry with
  | directory => contradiction
  | absent => rfl
  | file number =>
      rw [Bool.eq_iff_iff, Option.any_some, Bool.or_eq_true, decide_eq_true_eq, decide_eq_true_eq,
        decide_eq_true_eq]
      by_cases same : number = file.number
      · have isThis := tracks.incarnation_eq_iff
        rw [← tracks.number] at isThis
        rw [same, ne_eq, ne_eq, isThis, or_iff_right (not_not.mpr rfl)]
        constructor
        · intro shorter uncut
          exact absurd (read uncut) (Nat.ne_of_gt shorter)
        · exact tracks.short
      · refine iff_of_true (Or.inl same) ?_
        intro isThis
        exact same ((congrArg Incarnation.number isThis).trans tracks.number.symm)

theorem past (tracks : file.Tracks history seen)
    (another : history.hasAnother seen.incarnation = true) : history.Past seen.incarnation := by
  refine ⟨tracks.number ▸ tracks.used, fun atPath => ?_⟩
  refine Nat.lt_of_le_of_ne (tracks.number ▸ tracks.cuts) fun uncut => ?_
  obtain ⟨number, place, differs⟩ := DiskHistory.hasAnother_eq_true_iff.mp another
  have same : seen.incarnation.number = number := PathEntry.file.inj (atPath.symm.trans place)
  rw [← same, ne_eq, tracks.incarnation_eq_iff, tracks.number] at differs
  exact differs uncut.symm

theorem settled (tracks : file.Tracks history seen)
    (another : ¬history.hasAnother seen.incarnation = true) : file.Settled history seen where
  toTracks := tracks
  aside := by
    intro cut atPath
    refine another (DiskHistory.hasAnother_eq_true_iff.mpr ⟨file.number, atPath, ?_⟩)
    rw [tracks.number, ne_eq, tracks.incarnation_eq_iff]
    exact cut

end Tracks

/-- Whatever is done at the path, an open file goes on agreeing with what was seen of it, provided
that it is still shorter than that if it was cut off. -/
theorem Settled.tracks_later {after : DiskHistory} (settled : file.Settled history seen)
    (later : history.Later file.number after)
    (short : after.cutsOf file.number ≠ history.cutsOf file.number →
      (after.disk.content file.number).length < file.offset) : file.Tracks after seen where
  number := settled.number
  used := Nat.lt_of_lt_of_le settled.used later.used
  offset := settled.offset
  unfinished := settled.unfinished
  cuts := settled.cuts.trans later.cuts
  grown := by
    intro uncut
    have before : history.cutsOf file.number = seen.incarnation.cuts :=
      Nat.le_antisymm (uncut ▸ later.cuts) settled.cuts
    exact (settled.grown before).trans (later.grows (uncut.trans before.symm))
  short := by
    intro cut
    by_cases same : after.cutsOf file.number = history.cutsOf file.number
    · have cutBefore : history.cutsOf file.number ≠ seen.incarnation.cuts := same ▸ cut
      have cutOnce : history.cutsOf file.number ≠ 0 :=
        Nat.ne_of_gt (Nat.zero_lt_of_lt (Nat.lt_of_le_of_ne settled.cuts (Ne.symm cutBefore)))
      rw [(later.aside (settled.aside cutBefore)).2 cutOnce]
      exact settled.short cutBefore
    · exact short same

end OpenFile

namespace TailRun

structure Agrees (how : OpenFile → DiskHistory → Observation → Prop) (run : TailRun) : Prop where
  sound : run.history.disk.Sound
  current : Option.Rel (how · run.history ·) run.tail.current run.observer.current
  left : ∀ seen ∈ run.observer.left, run.history.Past seen.incarnation
  distinct : (run.observer.seen.map (·.incarnation)).Nodup
  sent : run.sent = run.observer.seen.flatMap (·.lines)

theorem agrees_empty : ({} : TailRun).Agrees OpenFile.Settled where
  sound := Disk.sound_empty
  current := .none
  left := nofun
  distinct := List.nodup_nil
  sent := rfl

variable {run : TailRun}

theorem Agrees.applyAll (agrees : run.Agrees OpenFile.Settled) {operations : List FileOperation}
    (short : run.CutShort operations) :
    ({ run with history := run.history.applyAll operations }).Agrees OpenFile.Tracks := by
  obtain ⟨sound, later⟩ := DiskHistory.applyAll_later agrees.sound operations
  exact {
    sound := sound
    current := by
      obtain ⟨history, ⟨current⟩, ⟨left, seen⟩, sent⟩ := run
      cases agrees.current with
      | none => exact .none
      | some settled => exact .some (settled.tracks_later (later _ settled.used) (short _ rfl))
    left := fun seen member => (agrees.left seen member).later (later _ (agrees.left seen member).1)
    distinct := agrees.distinct
    sent := agrees.sent }

def opens (run : TailRun) (number : Nat) : TailRun :=
  { run with
    tail := { current := some { number } }
    observer := { run.observer with current := some ⟨run.history.incarnation number, []⟩ } }

theorem look_opens {number : Nat} (atPath : run.history.disk.entry = .file number)
    (closed : run.tail.current = none) (unseen : run.observer.current = none) :
    (run.opens number).look = run.look := by
  simp only [look, opens, FileTail.poll, Observer.look, DiskHistory.atPath?, atPath, closed, unseen]
  rfl

theorem Agrees.opens (agrees : run.Agrees OpenFile.Tracks) {number : Nat}
    (atPath : run.history.disk.entry = .file number) (unseen : run.observer.current = none) :
    (run.opens number).Agrees OpenFile.Tracks where
  sound := agrees.sound
  current := .some (.opened agrees.sound atPath)
  left := agrees.left
  distinct := by
    have before := agrees.distinct
    rw [Observer.seen, unseen, Option.toList_none, List.append_nil] at before
    simp only [TailRun.opens, Observer.seen, Option.toList_some, List.map_append,
      List.map_singleton]
    refine List.Nodup.append before (List.nodup_singleton _) ?_
    rw [List.disjoint_singleton, List.mem_map]
    rintro ⟨seen, member, same⟩
    exact (agrees.left seen member).ne_incarnation atPath same
  sent := by
    have before := agrees.sent
    rw [Observer.seen, unseen] at before
    simpa [TailRun.opens, Observer.seen, Observation.lines, FileTail.wholeLines] using before

theorem look_eq {file : OpenFile} {seen : Observation} (isOpen : run.tail.current = some file)
    (isSeen : run.observer.current = some seen) :
    run.look =
      { run with
        tail := { current :=
          if FileTail.isRotated run.history.disk (FileTail.drain run.history.disk file).1 then none
          else some (FileTail.drain run.history.disk file).1 }
        observer :=
          if run.history.hasAnother (seen.look run.history).incarnation then
            { left := run.observer.left ++ [seen.look run.history], current := none }
          else { run.observer with current := some (seen.look run.history) }
        sent := run.sent ++ (FileTail.drain run.history.disk file).2 } := by
  simp only [look, FileTail.poll, Observer.look, isOpen, isSeen]
  rfl

theorem Agrees.look_open (agrees : run.Agrees OpenFile.Tracks) {file : OpenFile} {seen : Observation}
    (isOpen : run.tail.current = some file) (isSeen : run.observer.current = some seen) :
    run.look.Agrees OpenFile.Settled := by
  have tracks : file.Tracks run.history seen := by
    have current := agrees.current
    rw [isOpen, isSeen] at current
    cases current
    assumption
  obtain ⟨drained, lines⟩ := tracks.drain
  have incarnation := seen.incarnation_look run.history
  have rotated := drained.isRotated_eq agrees.sound.noDirectory fun uncut =>
    tracks.offset_drain (uncut.trans (congrArg Incarnation.cuts incarnation))
  have distinct := agrees.distinct
  have sent := agrees.sent
  simp only [Observer.seen, isSeen, Option.toList_some, List.map_append, List.map_singleton,
    List.flatMap_append, List.flatMap_singleton] at distinct sent
  have sentNow : run.sent ++ (FileTail.drain run.history.disk file).2 =
      run.observer.left.flatMap (·.lines) ++ (seen.look run.history).lines := by
    rw [sent, lines, List.append_assoc]
  rw [look_eq isOpen isSeen, rotated]
  by_cases another : run.history.hasAnother (seen.look run.history).incarnation = true
  · simp only [another, if_true]
    exact {
      sound := agrees.sound
      current := .none
      left := by
        intro past member
        rcases List.mem_append.mp member with before | this
        · exact agrees.left past before
        · rw [List.mem_singleton.mp this]
          exact drained.past another
      distinct := by simpa [Observer.seen, incarnation] using distinct
      sent := by simpa [Observer.seen] using sentNow }
  · simp only [another, Bool.false_eq_true, if_false]
    exact {
      sound := agrees.sound
      current := .some (drained.settled another)
      left := agrees.left
      distinct := by simpa [Observer.seen, incarnation] using distinct
      sent := by simpa [Observer.seen] using sentNow }

theorem Agrees.look (agrees : run.Agrees OpenFile.Tracks) : run.look.Agrees OpenFile.Settled := by
  obtain ⟨history, ⟨current⟩, ⟨left, observed⟩, sent⟩ := run
  cases agrees.current with
  | some tracks => exact agrees.look_open rfl rfl
  | none =>
      cases place : history.disk.entry with
      | directory => exact absurd place agrees.sound.noDirectory
      | absent =>
          have same : (TailRun.mk history ⟨none⟩ ⟨left, none⟩ sent).look =
              ⟨history, ⟨none⟩, ⟨left, none⟩, sent⟩ := by
            simp [TailRun.look, FileTail.poll, Observer.look, DiskHistory.atPath?, place]
          rw [same]
          exact ⟨agrees.sound, .none, agrees.left, agrees.distinct, agrees.sent⟩
      | file number =>
          rw [← look_opens place rfl rfl]
          exact (agrees.opens place rfl).look_open rfl rfl

theorem Agrees.round (agrees : run.Agrees OpenFile.Settled) {operations : List FileOperation}
    (short : run.CutShort operations) : (run.round operations).Agrees OpenFile.Settled :=
  (agrees.applyAll short).look

theorem Agrees.rounds (agrees : run.Agrees OpenFile.Settled) {rounds : List (List FileOperation)}
    (short : run.StaysCutShort rounds) : (run.rounds rounds).Agrees OpenFile.Settled := by
  induction rounds generalizing run with
  | nil => exact agrees
  | cons operations rest ih => exact ih (agrees.round short.1) short.2

theorem Agrees.number_eq (agrees : run.Agrees OpenFile.Settled) :
    run.tail.current.map (·.number) = run.observer.current.map (·.incarnation.number) := by
  obtain ⟨history, ⟨current⟩, ⟨left, seen⟩, sent⟩ := run
  cases agrees.current with
  | none => rfl
  | some settled => exact congrArg some settled.number

/-- However the bytes arrive and the files change between the looks, what is passed on are the whole
lines of what the incarnations held, one incarnation after the other and each once. -/
theorem sent_rounds {rounds : List (List FileOperation)} (short : StaysCutShort {} rounds) :
    let run := TailRun.rounds {} rounds
    run.sent = run.observer.seen.flatMap (·.lines) ∧
      (run.observer.seen.map (·.incarnation)).Nodup ∧
      run.tail.current.map (·.number) = run.observer.current.map (·.incarnation.number) := by
  have agrees := agrees_empty.rounds short
  exact ⟨agrees.sent, agrees.distinct, agrees.number_eq⟩

theorem sent_rounds_pieces :
    let rounds : List (List FileOperation) :=
      [[.append [97, 0xC3]], [.append [0xA4, 13], .remove], [.appendTo 0 [10, 98], .append [99, 10]],
        [.append [100, 10]], [.truncate 0, .append [101, 10]], []]
    let run := TailRun.rounds {} rounds
    StaysCutShort {} rounds ∧
      (run.sent = run.observer.seen.flatMap (·.lines) ∧
        (run.observer.seen.map (·.incarnation)).Nodup ∧
        run.tail.current.map (·.number) = run.observer.current.map (·.incarnation.number)) ∧
      run.sent = ["aä", "c", "d", "e"].map LogLine.ofText :=
  have short : StaysCutShort {} _ := by decide +kernel
  ⟨short, sent_rounds short, by decide +kernel⟩

end TailRun

end IngressMeter
