import IngressMeter.Proofs.Json.Record

/-!
What a merge patch makes of a stored value. Each member of the patch takes the place of the stored
one, or is merged into it if it is an object; a null member removes the stored one, and what the
patch does not name stays. A record that is read from the outcome has the fields of the patch, and
otherwise those that it had.
-/

namespace IngressMeter.Json

def membersOf : Json → List (Option String × Json)
  | .object members => members
  | _ => []

mutual

def mergePatch (stored : Json) : Json → Json
  | .object members => .object (mergeMembers stored.membersOf members)
  | patch => patch

def mergeMembers (stored : List (Option String × Json)) :
    List (Option String × Json) → List (Option String × Json)
  | [] => stored
  | member :: rest => mergeMembers (mergeMember stored member) rest

def mergeMember (stored : List (Option String × Json)) :
    Option String × Json → List (Option String × Json)
  | (name, .null) => stored.filter (·.1 ≠ name)
  | (name, value) =>
    stored.filter (·.1 ≠ name) ++ [(name, mergePatch ((stored.lookup name).getD .null) value)]

end

def mergeField (stored : Option Json) : Option Json → Option Json
  | none => stored
  | some sent => some (mergePatch (stored.getD .null) sent)

theorem lookup_some (texts : List (String × Json)) (name : String) :
    (texts.map fun (name, value) => (some name, value)).lookup (some name) = texts.lookup name := by
  induction texts with
  | nil => rfl
  | cons text texts ih =>
      rw [List.map_cons, List.lookup_cons, List.lookup_cons, ih]
      rfl

theorem mergeMember_ofMembers (texts : List (String × Json)) (name : String) {value : Json}
    (notNull : value ≠ .null) :
    Json.object (mergeMember (membersOf (.ofMembers texts)) (some name, value)) =
      .ofMembers (texts.filter (·.1 ≠ name) ++
        [(name, mergePatch ((texts.lookup name).getD .null) value)]) := by
  rw [Json.ofMembers, Json.ofMembers, membersOf, mergeMember, lookup_some, List.filter_map,
    List.map_append]
  · simp [Function.comp_def]
  · exact notNull

namespace Fields

variable {names : List String}

theorem exists_ofMembers {members : List (Option String × Json)} {fields : List (String × Json)}
    (read : ofMembers? names members = some fields) :
    ∃ texts, Json.object members = .ofMembers texts ∧ fields = known names texts ∧
      ((known names texts).map (·.1)).Nodup := by
  induction members generalizing fields with
  | nil => exact ⟨[], rfl, (Option.some.inj read).symm, List.nodup_nil⟩
  | cons member members ih =>
      obtain ⟨_ | name, value⟩ := member
      · contradiction
      rw [ofMembers?] at read
      cases later : ofMembers? names members with
      | none => simp [later] at read
      | some rest =>
          obtain ⟨texts, same, rfl, distinct⟩ := ih later
          have written : Json.object ((some name, value) :: members) =
              .ofMembers ((name, value) :: texts) := by
            rw [Json.ofMembers, Json.object.injEq] at same ⊢
            rw [same, List.map_cons]
          refine ⟨(name, value) :: texts, written, ?_⟩
          simp only [later] at read
          by_cases isKnown : names.contains name = true
          · rw [known_cons, if_pos isKnown, List.map_cons, List.nodup_cons]
            rw [if_pos isKnown] at read
            split at read
            · contradiction
            · rename_i fresh
              refine ⟨(Option.some.inj read).symm, fun again => fresh ?_, distinct⟩
              obtain ⟨other, isIn, isName⟩ := List.mem_map.mp again
              exact List.any_eq_true.mpr ⟨other, isIn, decide_eq_true isName⟩
          · rw [known_cons, if_neg isKnown]
            rw [if_neg isKnown] at read
            exact ⟨(Option.some.inj read).symm, distinct⟩

theorem of?_mergeMember {stored : List (Option String × Json)} {fields : Fields} {name : String}
    {value : Json} (read : of? names (.object stored) = some fields) (isName : name ∈ names)
    (notNull : value ≠ .null) :
    ∃ merged, of? names (.object (mergeMember stored (some name, value))) = some merged ∧
      ∀ other, merged.get? other =
        if other = name then mergeField (fields.get? name) (some value) else fields.get? other := by
  obtain ⟨_, isRead, rfl⟩ := Option.map_eq_some_iff.mp read
  obtain ⟨texts, written, rfl, distinct⟩ := exists_ofMembers isRead
  obtain rfl : stored = membersOf (.ofMembers texts) := congrArg membersOf written
  have found : texts.lookup name = (known names texts).lookup name := by
    refine (Entries.lookup_filter_of_keeps (fun _ => ?_) texts).symm
    exact List.contains_iff_mem.mpr isName
  have split : ∀ json, known names (texts.filter (·.1 ≠ name) ++ [(name, json)]) =
      (known names texts).filter (·.1 ≠ name) ++ [(name, json)] := by
    intro json
    rw [known, known, List.filter_append, List.filter_filter, List.filter_filter]
    simp [isName, Bool.and_comm]
  rw [mergeMember_ofMembers texts name notNull, found]
  refine ⟨_, of?_ofMembers ?_, ?_⟩
  · rw [split, List.map_append, List.map_singleton, ← List.concat_eq_append]
    refine List.Nodup.concat ?_ (distinct.sublist (List.filter_sublist.map _))
    simp
  · intro other
    simp only [get?, split, List.lookup_append, Entries.lookup_filter_ne]
    by_cases same : other = name
    · simp [same, mergeField]
    · simp [same, List.lookup_cons, beq_eq_false_iff_ne.mpr same]

theorem of?_mergeMembers {entries : List (String × Json)} (distinct : (entries.map (·.1)).Nodup)
    (entryOk : ∀ entry ∈ entries, entry.1 ∈ names ∧ entry.2 ≠ .null)
    {stored : List (Option String × Json)} {fields : Fields}
    (read : of? names (.object stored) = some fields) :
    ∃ merged,
      of? names (.object (mergeMembers stored (membersOf (.ofMembers entries)))) = some merged ∧
        ∀ name, merged.get? name = mergeField (fields.get? name) (entries.lookup name) := by
  induction entries generalizing stored fields with
  | nil => exact ⟨fields, read, fun _ => rfl⟩
  | cons entry rest ih =>
      obtain ⟨name, value⟩ := entry
      rw [List.map_cons, List.nodup_cons] at distinct
      rw [List.forall_mem_cons] at entryOk
      obtain ⟨⟨isName, notNull⟩, restOk⟩ := entryOk
      obtain ⟨between, readBetween, getBetween⟩ := of?_mergeMember read isName notNull
      obtain ⟨merged, readMerged, get⟩ := ih distinct.2 restOk readBetween
      refine ⟨merged, readMerged, ?_⟩
      intro other
      rw [get, getBetween, List.lookup_cons]
      by_cases same : other = name
      · -- No later member of the patch has the same name.
        have once : rest.lookup other = none := Entries.lookup_eq_none.mpr (same ▸ distinct.1)
        simp [same, same ▸ once, mergeField]
      · simp [same, beq_eq_false_iff_ne.mpr same]

theorem of?_mergePatch (options : List (String × Option Json))
    (distinct : (options.map (·.1)).Nodup)
    (optionOk : ∀ option ∈ options, option.1 ∈ names ∧ ∀ json ∈ option.2, json ≠ .null)
    {stored : Json} {fields : Fields} (read : of? names (.object stored.membersOf) = some fields) :
    ∃ merged, of? names (stored.mergePatch (.ofOptions options)) = some merged ∧
      (∀ option ∈ options, merged.get? option.1 = mergeField (fields.get? option.1) option.2) ∧
      ∀ name ∉ options.map (·.1), merged.get? name = fields.get? name := by
  have entryOk : ∀ entry ∈ present options, entry.1 ∈ names ∧ entry.2 ≠ .null := by
    intro entry isPresent
    obtain ⟨isName, notNull⟩ := optionOk _ (mem_present.mp isPresent)
    exact ⟨isName, notNull entry.2 rfl⟩
  obtain ⟨merged, readMerged, get⟩ :=
    of?_mergeMembers (distinct.sublist (map_present_sublist options)) entryOk read
  refine ⟨merged, readMerged, ?_, ?_⟩
  · intro option isIn
    rw [get, lookup_present distinct, Entries.lookup_of_mem distinct isIn, Option.join_some]
  · intro name missing
    rw [get, lookup_present distinct, Entries.lookup_eq_none.mpr missing]
    rfl

theorem bind_of?_mergePatch {α : Type} {options : List (String × Option Json)}
    {decode : Fields → Option α} {value : α} (areNames : options.map (·.1) = names)
    (distinct : names.Nodup) (notNull : ∀ option ∈ options, ∀ json ∈ option.2, json ≠ .null)
    {stored : Json} {fields : Fields} (read : of? names (.object stored.membersOf) = some fields)
    (decodes : ∀ merged : Fields,
      (∀ option ∈ options, merged.get? option.1 = mergeField (fields.get? option.1) option.2) →
        decode merged = some value) :
    (of? names (stored.mergePatch (.ofOptions options))).bind decode = some value := by
  subst areNames
  obtain ⟨merged, readMerged, get, -⟩ := of?_mergePatch options distinct
    (fun option isIn => ⟨List.mem_map_of_mem isIn, notNull option isIn⟩) read
  rw [readMerged, Option.bind_some]
  exact decodes merged get

section Field

variable {α : Type} {fields merged : Fields} {name : String}

theorem withDefault?_congr (same : merged.get? name = fields.get? name) (missing : α)
    (decode : Json → Option α) :
    merged.withDefault? name missing decode = fields.withDefault? name missing decode := by
  rw [withDefault?, withDefault?, same]

/-- A list that is sent is read back, and so is an empty one if an empty one is stored. -/
theorem withDefault?_mergeField_unlessEmpty {decode : Json → Option (List α)}
    {encode : List α → List Json} {items : List α}
    (found : merged.get? name =
      mergeField (fields.get? name) (unlessEmpty (fun items => .array (encode items)) items))
    (stored : items = [] → fields.withDefault? name [] decode = some [])
    (decodes : decode (.array (encode items)) = some items) :
    merged.withDefault? name [] decode = some items := by
  cases items with
  | nil => exact (withDefault?_congr found [] decode).trans (stored rfl)
  | cons item items => exact (withDefault?_of_get? found []).trans decodes

theorem optionalOrMissing?_mergeField_map {decode : Json → Option α} {encode : α → Json.Number}
    {value : Option α}
    (found : merged.get? name =
      mergeField (fields.get? name) (value.map fun content => .number (encode content)))
    (stored : value = none → fields.optionalOrMissing? name decode = some none)
    (decodes : ∀ content ∈ value, decode (.number (encode content)) = some content) :
    merged.optionalOrMissing? name decode = some value := by
  cases value with
  | none => exact (withDefault?_congr found none _).trans (stored rfl)
  | some content =>
      have found : merged.get? name =
          (some content).map fun content => Json.number (encode content) := found
      exact optionalOrMissing?_map found decodes fun _ => Json.noConfusion

end Field

end Fields

end IngressMeter.Json
