import IngressMeter.Proofs.Entries
import IngressMeter.Source.Disk
import Mathlib.Data.List.Infix

/-!
What becomes of the files of a disk while things are done at its path. A file that is cut off counts
as another incarnation of it; as long as it is not, its bytes only grow. One that was cut off and is no
longer at the path stays as it is.
-/

namespace IngressMeter

namespace Disk

structure Sound (disk : Disk) : Prop where
  stored : ∀ number, number ∈ disk.files.map (·.1) ↔ number < disk.nextNumber
  named : ∀ number, disk.entry = .file number → number < disk.nextNumber
  noDirectory : disk.entry ≠ .directory

theorem sound_empty : ({} : Disk).Sound where
  stored := by simp
  named := by simp
  noDirectory := by simp

theorem keys_setContent (disk : Disk) (number : Nat) (bytes : Bytes) :
    (disk.setContent number bytes).files.map (·.1) = disk.files.map (·.1) := by
  rw [setContent, List.map_map]
  refine List.map_congr_left fun entry _ => ?_
  by_cases same : entry.1 = number <;> simp [same]

namespace Sound

variable {disk : Disk} (sound : disk.Sound)

include sound

theorem content_setContent {number : Nat} (used : number < disk.nextNumber) (bytes : Bytes)
    (other : Nat) :
    (disk.setContent number bytes).content other =
      if other = number then bytes else disk.content other := by
  have asEntries : (disk.setContent number bytes).files =
      disk.files.map fun entry => if entry.1 = number then (entry.1, bytes) else entry := by
    refine List.map_congr_left fun entry _ => ?_
    by_cases same : entry.1 = number <;> simp [same]
  rw [content, asEntries, Entries.lookup_replace]
  split
  · rename_i same
    obtain ⟨old, found⟩ := Entries.exists_lookup ((sound.stored number).mpr used)
    simp [same, found]
  · rfl

theorem content_create (bytes : Bytes) (number : Nat) :
    (disk.create bytes).content number =
      if number = disk.nextNumber then bytes else disk.content number := by
  rw [content, create, List.lookup_append]
  split
  · rename_i same
    have fresh : disk.files.lookup number = none := by
      rw [Entries.lookup_eq_none, sound.stored, same]
      exact Nat.lt_irrefl _
    simp [same ▸ fresh, same]
  · rename_i different
    simp [List.lookup_cons, beq_eq_false_iff_ne.mpr different, content]

theorem setContent (number : Nat) (bytes : Bytes) : (disk.setContent number bytes).Sound where
  stored := by
    rw [keys_setContent]
    exact sound.stored
  named := sound.named
  noDirectory := sound.noDirectory

theorem create (bytes : Bytes) : (disk.create bytes).Sound where
  stored := by
    intro number
    have before := sound.stored number
    simp only [Disk.create, List.map_append, List.mem_append, before, List.map_singleton,
      List.mem_singleton]
    omega
  named := by
    rintro number ⟨⟩
    exact Nat.lt_succ_self _
  noDirectory := nofun

theorem remove : ({ disk with entry := .absent } : Disk).Sound where
  stored := sound.stored
  named := nofun
  noDirectory := nofun

end Sound

end Disk

inductive FileOperation where
  | append (bytes : Bytes)
  /-- A writer who still has a file open goes on with it, be it at the path or not. It has never been
  cut off. -/
  | appendTo (number : Nat) (bytes : Bytes)
  | remove
  | replace (bytes : Bytes)
  | truncate (length : Nat)

/-- A file between two cuts: its number and how often it was cut off before. -/
structure Incarnation where
  number : Nat
  cuts : Nat
  deriving DecidableEq, Repr

/-- A disk that remembers which files were cut off. -/
structure DiskHistory where
  disk : Disk := {}
  cuts : List Nat := []

namespace DiskHistory

def cutsOf (history : DiskHistory) (number : Nat) : Nat := history.cuts.count number

def incarnation (history : DiskHistory) (number : Nat) : Incarnation :=
  ⟨number, history.cutsOf number⟩

def atPath? (history : DiskHistory) : Option Incarnation :=
  match history.disk.entry with
  | .file number => some (history.incarnation number)
  | _ => none

def hasAnother (history : DiskHistory) (incarnation : Incarnation) : Bool :=
  history.atPath?.any (· ≠ incarnation)

theorem hasAnother_eq_true_iff {history : DiskHistory} {incarnation : Incarnation} :
    history.hasAnother incarnation = true ↔
      ∃ number, history.disk.entry = .file number ∧ history.incarnation number ≠ incarnation := by
  rw [hasAnother, atPath?]
  cases history.disk.entry <;> simp

def cutOff (history : DiskHistory) (number length : Nat) : DiskHistory where
  disk := history.disk.setContent number ((history.disk.content number).take length)
  cuts := number :: history.cuts

def apply (history : DiskHistory) : FileOperation → DiskHistory
  | .append bytes => { history with disk := history.disk.change (.append bytes) }
  | .appendTo number bytes =>
    if number < history.disk.nextNumber ∧ history.cutsOf number = 0 then
      { history with
        disk := history.disk.setContent number (history.disk.content number ++ bytes) }
    else history
  | .remove => { history with disk := history.disk.change .remove }
  | .replace bytes => { history with disk := history.disk.change (.replace bytes) }
  | .truncate length =>
    match history.disk.entry with
    | .file number => history.cutOff number length
    | _ => history

def applyAll (history : DiskHistory) (operations : List FileOperation) : DiskHistory :=
  operations.foldl apply history

inductive Effect (history : DiskHistory) : DiskHistory → Prop where
  | nothing : Effect history history
  | creates (bytes : Bytes) : Effect history { history with disk := history.disk.create bytes }
  | appends (number : Nat) (bytes : Bytes) : number < history.disk.nextNumber →
      history.disk.entry = .file number ∨ history.cutsOf number = 0 → Effect history
        { history with
          disk := history.disk.setContent number (history.disk.content number ++ bytes) }
  | removes : Effect history { history with disk := { history.disk with entry := .absent } }
  | cuts (number length : Nat) : history.disk.entry = .file number →
      Effect history (history.cutOff number length)

theorem effect_appendTo (history : DiskHistory) (number : Nat) (bytes : Bytes) :
    history.Effect (history.apply (.appendTo number bytes)) := by
  rw [apply]
  split
  · rename_i usable
    exact .appends number bytes usable.1 (Or.inr usable.2)
  · exact .nothing

theorem effect_apply {history : DiskHistory} (sound : history.disk.Sound)
    (operation : FileOperation) : history.Effect (history.apply operation) := by
  cases place : history.disk.entry with
  | directory => exact absurd place sound.noDirectory
  | absent =>
      cases operation with
      | append bytes => simpa [apply, Disk.change, place] using Effect.creates bytes
      | appendTo number bytes => exact history.effect_appendTo number bytes
      | remove => simpa [apply, Disk.change, place] using Effect.nothing
      | replace bytes => simpa [apply, Disk.change, place] using Effect.creates bytes
      | truncate length => simpa [apply, place] using Effect.nothing
  | file number =>
      cases operation with
      | append bytes =>
          simpa [apply, Disk.change, place] using
            Effect.appends number bytes (sound.named number place) (Or.inl place)
      | appendTo number bytes => exact history.effect_appendTo number bytes
      | remove => simpa [apply, Disk.change, place] using Effect.removes
      | replace bytes => simpa [apply, Disk.change, place] using Effect.creates bytes
      | truncate length => simpa [apply, place] using Effect.cuts number length place

theorem sound_effect {before after : DiskHistory} (sound : before.disk.Sound)
    (effect : before.Effect after) : after.disk.Sound := by
  cases effect with
  | nothing => exact sound
  | creates bytes => exact sound.create bytes
  | appends number bytes _ _ => exact sound.setContent number _
  | removes => exact sound.remove
  | cuts number length _ => exact sound.setContent number _

structure Later (before : DiskHistory) (number : Nat) (after : DiskHistory) : Prop where
  used : before.disk.nextNumber ≤ after.disk.nextNumber
  cuts : before.cutsOf number ≤ after.cutsOf number
  grows : after.cutsOf number = before.cutsOf number →
    before.disk.content number <+: after.disk.content number
  atPath : after.disk.entry = .file number → before.disk.entry = .file number
  aside : before.disk.entry ≠ .file number → after.cutsOf number = before.cutsOf number ∧
    (before.cutsOf number ≠ 0 → after.disk.content number = before.disk.content number)

namespace Later

variable {number : Nat} {before middle after : DiskHistory}

theorem refl (number : Nat) (history : DiskHistory) : history.Later number history where
  used := le_rfl
  cuts := le_rfl
  grows := fun _ => List.prefix_rfl
  atPath := id
  aside := fun _ => ⟨rfl, fun _ => rfl⟩

theorem trans (first : before.Later number middle) (second : middle.Later number after) :
    before.Later number after where
  used := first.used.trans second.used
  cuts := first.cuts.trans second.cuts
  grows := by
    intro uncut
    have firstUncut : middle.cutsOf number = before.cutsOf number :=
      Nat.le_antisymm (uncut ▸ second.cuts) first.cuts
    exact (first.grows firstUncut).trans (second.grows (uncut.trans firstUncut.symm))
  atPath := fun place => first.atPath (second.atPath place)
  aside := by
    intro aside
    obtain ⟨firstCuts, firstContent⟩ := first.aside aside
    obtain ⟨secondCuts, secondContent⟩ := second.aside fun place => aside (first.atPath place)
    refine ⟨secondCuts.trans firstCuts, fun cut => ?_⟩
    rw [secondContent (firstCuts ▸ cut), firstContent cut]

theorem of_effect (sound : before.disk.Sound) (used : number < before.disk.nextNumber)
    (effect : before.Effect after) : before.Later number after := by
  cases effect with
  | nothing => exact refl number before
  | creates bytes =>
      have unchanged : (before.disk.create bytes).content number = before.disk.content number := by
        rw [sound.content_create, if_neg (Nat.ne_of_lt used)]
      exact {
        used := Nat.le_succ _
        cuts := le_rfl
        grows := fun _ => by rw [unchanged]
        atPath := fun place => absurd (PathEntry.file.inj place) (Nat.ne_of_gt used)
        aside := fun _ => ⟨rfl, fun _ => unchanged⟩ }
  | appends written bytes writtenUsed usable =>
      have content := sound.content_setContent writtenUsed (before.disk.content written ++ bytes) number
      exact {
        used := le_rfl
        cuts := le_rfl
        grows := fun _ => by
          rw [content]
          split
          · rename_i same
            rw [same]
            exact List.prefix_append _ _
          · exact List.prefix_rfl
        atPath := id
        aside := by
          intro aside
          refine ⟨rfl, fun cut => ?_⟩
          have different : number ≠ written := by
            rintro rfl
            exact usable.elim aside cut
          rw [content, if_neg different] }
  | removes => exact ⟨le_rfl, le_rfl, fun _ => List.prefix_rfl, nofun, fun _ => ⟨rfl, fun _ => rfl⟩⟩
  | cuts cut length place =>
      by_cases same : number = cut
      · subst same
        have moreCuts : before.cutsOf number < (before.cutOff number length).cutsOf number := by
          rw [cutsOf, cutsOf, cutOff, List.count_cons_self]
          exact Nat.lt_succ_self _
        exact {
          used := le_rfl
          cuts := moreCuts.le
          grows := fun uncut => absurd uncut (Nat.ne_of_gt moreCuts)
          atPath := id
          aside := fun aside => absurd place aside }
      · have sameCuts : (before.cutOff cut length).cutsOf number = before.cutsOf number := by
          rw [cutsOf, cutsOf, cutOff, List.count_cons_of_ne (Ne.symm same)]
        have content : (before.cutOff cut length).disk.content number =
            before.disk.content number := by
          rw [cutOff, sound.content_setContent (sound.named cut place), if_neg same]
        exact {
          used := le_rfl
          cuts := sameCuts.ge
          grows := fun _ => by rw [content]
          atPath := id
          aside := fun _ => ⟨sameCuts, fun _ => content⟩ }

end Later

theorem applyAll_later {history : DiskHistory} (sound : history.disk.Sound)
    (operations : List FileOperation) :
    (history.applyAll operations).disk.Sound ∧ ∀ number < history.disk.nextNumber,
      history.Later number (history.applyAll operations) := by
  induction operations generalizing history with
  | nil => exact ⟨sound, fun number _ => Later.refl number history⟩
  | cons operation rest ih =>
      have effect := effect_apply sound operation
      obtain ⟨after, later⟩ := ih (sound_effect sound effect)
      refine ⟨after, fun number used => ?_⟩
      have first := Later.of_effect sound used effect
      exact first.trans (later number (Nat.lt_of_lt_of_le used first.used))

end DiskHistory

end IngressMeter
