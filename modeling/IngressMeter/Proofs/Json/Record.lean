import IngressMeter.Proofs.Entries
import IngressMeter.Proofs.Json.Printing
import IngressMeter.Resource.Codec

/-!
Reading a record from an object: no known member may stand there twice, the others are passed over,
and a field that was left out in writing gets the value it was left out for.
-/

namespace IngressMeter.Json

namespace Fields

def known (names : List String) (members : List (String × Json)) : List (String × Json) :=
  members.filter fun member => names.contains member.1

theorem known_cons (names : List String) (member : String × Json) (members : List (String × Json)) :
    known names (member :: members) =
      if names.contains member.1 then member :: known names members else known names members :=
  List.filter_cons

theorem ofMembers?_eq {names : List String} {members : List (String × Json)}
    (distinct : ((known names members).map (·.1)).Nodup) :
    ofMembers? names (members.map fun (name, value) => (some name, value)) =
      some (known names members) := by
  induction members with
  | nil => rfl
  | cons member members ih =>
      obtain ⟨name, value⟩ := member
      by_cases isKnown : names.contains name = true
      · rw [known_cons, if_pos isKnown, List.map_cons, List.nodup_cons] at distinct
        have fresh : ((known names members).any fun other => other.1 = name) = false := by
          rw [List.any_eq_false]
          intro other isIn
          have differs : other.1 ≠ name := by
            rintro rfl
            exact distinct.1 (List.mem_map.mpr ⟨other, isIn, rfl⟩)
          simp [differs]
        rw [List.map_cons, ofMembers?, ih distinct.2, known_cons, if_pos isKnown]
        simp only [isKnown, fresh]
        rfl
      · rw [known_cons, if_neg isKnown] at distinct ⊢
        rw [List.map_cons, ofMembers?, ih distinct]
        simp only [isKnown]
        rfl

theorem of?_ofMembers {names : List String} {members : List (String × Json)}
    (distinct : ((known names members).map (·.1)).Nodup) :
    of? names (.ofMembers members) = some ⟨false, known names members⟩ := by
  rw [Json.ofMembers, of?, ofMembers?_eq distinct]
  rfl

end Fields

/-! Members that may be left out. -/

def present (options : List (String × Option Json)) : List (String × Json) :=
  options.filterMap fun (name, value) => value.map (name, ·)

theorem mem_present {options : List (String × Option Json)} {member : String × Json} :
    member ∈ present options ↔ (member.1, some member.2) ∈ options := by
  obtain ⟨name, json⟩ := member
  simp only [present, List.mem_filterMap, Option.map_eq_some_iff, Prod.mk.injEq, Prod.exists]
  constructor
  · rintro ⟨_, _, isIn, _, rfl, rfl, rfl⟩
    exact isIn
  · intro isIn
    exact ⟨name, some json, isIn, json, rfl, rfl, rfl⟩

theorem map_present_sublist (options : List (String × Option Json)) :
    ((present options).map (·.1)).Sublist (options.map (·.1)) := by
  induction options with
  | nil => exact .slnil
  | cons option options ih =>
      obtain ⟨name, value⟩ := option
      cases value with
      | none => exact ih.cons name
      | some json => exact ih.cons_cons name

theorem lookup_present {options : List (String × Option Json)}
    (distinct : (options.map (·.1)).Nodup) (name : String) :
    (present options).lookup name = (options.lookup name).join := by
  have distinctPresent := distinct.sublist (map_present_sublist options)
  cases found : options.lookup name with
  | none =>
      refine Entries.lookup_eq_none.mpr fun isIn => Entries.lookup_eq_none.mp found ?_
      exact (map_present_sublist options).subset isIn
  | some value =>
      have isIn := Entries.mem_of_lookup found
      cases value with
      | some json => exact Entries.lookup_of_mem distinctPresent (mem_present.mpr isIn)
      | none =>
          rw [Option.join_some, Entries.lookup_eq_none]
          intro isPresent
          obtain ⟨json, again⟩ := Entries.exists_lookup isPresent
          have other := mem_present.mp (Entries.mem_of_lookup again)
          have same := Entries.lookup_of_mem distinct other
          rw [found] at same
          exact Option.some_ne_none _ (Option.some.inj same).symm

theorem member?_ofMembers_eq_some {members : List (String × Json)}
    (distinct : (members.map (·.1)).Nodup) {name : String} {json : Json} :
    member? name (.ofMembers members) = some json ↔ members.lookup name = some json := by
  have mem_iff : ∀ other, (other ∈ (members.map fun (name, value) => (some name, value)).reverse ↔
      ∃ member ∈ members, (some member.1, member.2) = other) := by
    simp
  rw [Json.ofMembers, member?, Option.map_eq_some_iff]
  constructor
  · rintro ⟨found, isFound, rfl⟩
    obtain ⟨member, isIn, rfl⟩ := (mem_iff found).mp (List.mem_of_find?_eq_some isFound)
    have isName : member.1 = name := by simpa using List.find?_some isFound
    exact isName ▸ Entries.lookup_of_mem distinct isIn
  · intro found
    have isIn := (mem_iff (some name, json)).mpr ⟨_, Entries.mem_of_lookup found, rfl⟩
    have present := List.find?_isSome (p := fun other => other.1 = some name).mpr
      ⟨_, isIn, decide_eq_true rfl⟩
    obtain ⟨other, isFound⟩ := Option.isSome_iff_exists.mp present
    refine ⟨other, isFound, ?_⟩
    obtain ⟨member, isMember, rfl⟩ := (mem_iff other).mp (List.mem_of_find?_eq_some isFound)
    have isName : member.1 = name := by simpa using List.find?_some isFound
    have again := Entries.lookup_of_mem distinct isMember
    rw [isName, found] at again
    exact (Option.some.inj again).symm

theorem member?_ofOptions {options : List (String × Option Json)}
    (distinct : (options.map (·.1)).Nodup) :
    ∀ option ∈ options, member? option.1 (.ofOptions options) = option.2 := by
  intro option isIn
  have distinctPresent := distinct.sublist (map_present_sublist options)
  have found := lookup_present distinct option.1
  rw [Entries.lookup_of_mem distinct isIn, Option.join_some] at found
  refine Option.ext fun json => ?_
  rw [ofOptions, ← present, member?_ofMembers_eq_some distinctPresent, found]

theorem Fields.bind_of?_ofOptions {α : Type} {names : List String}
    {options : List (String × Option Json)} {decode : Fields → Option α} {value : α}
    (areNames : options.map (·.1) = names) (distinct : names.Nodup)
    (decodes : ∀ fields : Fields, (∀ option ∈ options, fields.get? option.1 = option.2) →
      decode fields = some value) :
    (Fields.of? names (.ofOptions options)).bind decode = some value := by
  subst areNames
  have allKnown : known (options.map (·.1)) (present options) = present options := by
    rw [known, List.filter_eq_self]
    intro member isIn
    exact List.contains_iff_mem.mpr (List.mem_map_of_mem (mem_present.mp isIn))
  have distinctPresent := distinct.sublist (map_present_sublist options)
  have distinctKnown : ((known (options.map (·.1)) (present options)).map (·.1)).Nodup := by
    rwa [allKnown]
  have read := of?_ofMembers distinctKnown
  rw [allKnown] at read
  rw [ofOptions, ← present, read, Option.bind_some]
  refine decodes _ fun option isIn => ?_
  rw [get?, lookup_present distinct, Entries.lookup_of_mem distinct isIn]
  rfl

theorem wellFormed_ofOptions {options : List (String × Option Json)}
    (wellFormed : ∀ option ∈ options, ∀ json ∈ option.2, WellFormed json) :
    WellFormed (.ofOptions options) := by
  refine .object fun member isIn => ?_
  exact wellFormed _ (mem_present.mp isIn) member.2 rfl

theorem wellFormed_some {json : Json} (wellFormed : WellFormed json) :
    ∀ value ∈ some json, WellFormed value := by
  rintro _ ⟨⟩
  exact wellFormed

theorem wellFormed_map {α : Type} {encode : α → Json}
    (wellFormed : ∀ content, WellFormed (encode content)) (content : Option α) :
    ∀ value ∈ content.map encode, WellFormed value := by
  cases content with
  | none => nofun
  | some content => exact wellFormed_some (wellFormed content)

theorem wellFormed_unlessEmpty {α : Type} {encode : List α → Json} {items : List α}
    (wellFormed : WellFormed (encode items)) :
    ∀ value ∈ unlessEmpty encode items, WellFormed value := by
  rw [unlessEmpty]
  split
  · nofun
  · exact wellFormed_some wellFormed

theorem wellFormed_textUnlessEmpty (s : String) :
    ∀ value ∈ textUnlessEmpty s, WellFormed value := by
  rw [textUnlessEmpty]
  split
  · nofun
  · exact wellFormed_some (.text s)

theorem wellFormed_map_array {α : Type} {encode : α → Json}
    (wellFormed : ∀ item, WellFormed (encode item)) (items : List α) :
    WellFormed (.array (items.map encode)) := by
  refine .array fun json isIn => ?_
  obtain ⟨item, _, rfl⟩ := List.mem_map.mp isIn
  exact wellFormed item

/-! Fields. -/

section Field

variable {α : Type} {fields : Fields} {name : String} {decode : Json → Option α}

theorem Fields.required?_of_get? {json : Json} (found : fields.get? name = some json) :
    fields.required? name decode = decode json := by
  rw [required?, found]

theorem Fields.withDefault?_of_get? {json : Json} (found : fields.get? name = some json)
    (missing : α) : fields.withDefault? name missing decode = decode json := by
  rw [withDefault?, found]

theorem Fields.exists_withDefault? (missing : α)
    (decodes : ∀ json, fields.get? name = some json → ∃ value, decode json = some value) :
    ∃ value, fields.withDefault? name missing decode = some value := by
  cases found : fields.get? name with
  | none => exact ⟨missing, by rw [withDefault?, found]⟩
  | some json =>
      rw [withDefault?_of_get? found]
      exact decodes json found

theorem Fields.withDefault?_unlessEmpty {decode : Json → Option (List α)} {encode : List α → Json}
    {items : List α} (found : fields.get? name = unlessEmpty encode items)
    (decodes : decode (encode items) = some items) :
    fields.withDefault? name [] decode = some items := by
  cases items with
  | nil =>
      rw [withDefault?, found]
      rfl
  | cons item items => rw [withDefault?_of_get? found, decodes]

theorem Fields.withDefault?_textUnlessEmpty {text : String}
    (found : fields.get? name = textUnlessEmpty text) :
    fields.withDefault? name "" toText? = some text := by
  rw [textUnlessEmpty] at found
  split at found
  · rename_i empty
    rw [withDefault?, found, String.isEmpty_iff.mp empty]
  · rw [withDefault?_of_get? found]
    rfl

theorem Fields.nullable?_of_ne {json : Json} (notNull : json ≠ .null) :
    nullable? decode json = (decode json).map some := by
  rw [nullable?]
  exact notNull

theorem Fields.optional?_of_get? {json : Json} {value : α} (found : fields.get? name = some json)
    (notNull : json ≠ .null) (decoded : decode json = some value) :
    fields.optional? name decode = some (some value) := by
  rw [optional?, found]
  exact (nullable?_of_ne notNull).trans (congrArg (Option.map some) decoded)

theorem Fields.optionalOrMissing?_map {encode : α → Json} {value : Option α}
    (found : fields.get? name = value.map encode)
    (decodes : ∀ content ∈ value, decode (encode content) = some content)
    (notNull : ∀ content, encode content ≠ .null) :
    fields.optionalOrMissing? name decode = some value := by
  cases value with
  | none =>
      rw [optionalOrMissing?, withDefault?, found]
      rfl
  | some content =>
      rw [optionalOrMissing?, withDefault?_of_get? found, nullable?_of_ne (notNull content),
        decodes content rfl]
      rfl

end Field

theorem toList?_map {α : Type} {decode : Json → Option α} {encode : α → Json} {items : List α}
    (decodes : ∀ item ∈ items, decode (encode item) = some item) :
    toList? decode (.array (items.map encode)) = some items := by
  rw [toList?]
  induction items with
  | nil => rfl
  | cons item items ih =>
      rw [List.forall_mem_cons] at decodes
      simp [decodes.1, ih decodes.2]

@[simp] theorem toText?_text (s : String) : toText? (.text s) = some s := rfl

theorem toTexts?_ofTexts (texts : List String) : toTexts? (ofTexts texts) = some texts :=
  toList?_map fun _ _ => rfl

theorem toInt?_natDigits (negative : Bool) {n : Nat} (notMinusZero : negative = true → n ≠ 0) :
    Number.toInt? ⟨negative, Decimal.natDigits n, none, none⟩ =
      some (if negative then -(n : Int) else n) := by
  have isInteger : Number.isInteger ⟨negative, Decimal.natDigits n, none, none⟩ = true := by
    cases negative with
    | false => rfl
    | true =>
        have notZero : Decimal.natDigits n ≠ ['0'] := fun zero =>
          notMinusZero rfl (eq_zero_of_head?_natDigits (by rw [zero]; rfl))
        simpa [Number.isInteger] using notZero
  rw [Number.toInt?, if_pos isInteger, Decimal.digitsValue_natDigits]

theorem toUnsigned?_ofNat {bound n : Nat} (below : n < bound) :
    toUnsigned? bound (.ofNat n) = some n := by
  have value := @toInt?_natDigits false n (by simp)
  rw [ofNat, toUnsigned?, Number.toUnsigned?, value]
  simp [below]

theorem toInt64?_ofInt {n : Int} (fits : fitsSigned 64 n = true) : toInt64? (.ofInt n) = some n := by
  have value := @toInt?_natDigits (n < 0) n.natAbs (by simp; omega)
  have same : (if decide (n < 0) = true then -(n.natAbs : Int) else n.natAbs) = n := by
    split
    · rename_i isNegative
      have isNegative := of_decide_eq_true isNegative
      omega
    · rename_i notNegative
      rw [decide_eq_true_iff] at notNegative
      omega
  rw [same] at value
  rw [ofInt, toInt64?, Number.toInt64?, value]
  simp [fits]

theorem ofInt_natCast (n : Nat) : Json.ofInt n = .ofNat n := by
  have notNegative : decide ((n : Int) < 0) = false := decide_eq_false (by omega)
  rw [ofInt, notNegative]
  rfl

theorem toInt32?_ofInt {n : Int} (fits : fitsSigned 32 n = true) : toInt32? (.ofInt n) = some n := by
  have fits64 : fitsSigned 64 n = true := by
    have wider : powerOfTwo (32 - 1) ≤ powerOfTwo (64 - 1) := by decide
    simp only [fitsSigned, Bool.and_eq_true, decide_eq_true_eq] at fits ⊢
    omega
  rw [toInt32?, toInt64?_ofInt fits64]
  simp [fits]

end IngressMeter.Json
