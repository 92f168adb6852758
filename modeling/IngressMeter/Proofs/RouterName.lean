import IngressMeter.Proofs.Rules.Contents
import IngressMeter.Proofs.Target
import IngressMeter.Proofs.Text.Pieces
import IngressMeter.Service
import Mathlib.Data.Bool.AllAny

/-!
The name of a router leads back to the key of the resource that it was made from. The decoder may
put the boundary between namespace and name in the wrong place, but the key joins the two again.
-/

namespace IngressMeter

namespace RouterIdentity

theorem splitDashes_eq (text : List Char) : splitDashes text = text.splitOn '-' := by
  induction text with
  | nil => rfl
  | cons c text ih =>
      rw [splitDashes, List.splitOn_cons_eq_if_modifyHead, ih]
      by_cases dash : c = '-'
      · simp [dash]
      · obtain ⟨part, parts, split⟩ := List.exists_cons_of_ne_nil (List.splitOn_ne_nil '-' text)
        simp [dash, split]

theorem joinDashes_eq (parts : List (List Char)) : joinDashes parts = ['-'].intercalate parts := by
  induction parts with
  | nil => rfl
  | cons part parts ih =>
      cases parts with
      | nil => simp [joinDashes]
      | cons next parts =>
          rw [joinDashes, ih, intercalate_cons]
          exact List.cons_ne_nil next parts

theorem beforeLastHash?_concat {hash : List Char} (hashes : isHash hash = true)
    (parts : List (List Char)) : beforeLastHash? (parts ++ [hash]) = some parts := by
  induction parts with
  | nil => simp [beforeLastHash?, hashes]
  | cons part parts ih => rw [List.cons_append, beforeLastHash?, ih]

theorem not_mem_of_isHash {hash : List Char} (hashes : isHash hash = true) {c : Char}
    (other : isHashChar c = false) : c ∉ hash := by
  intro isIn
  rw [isHash, Bool.and_eq_true, List.all_eq_true] at hashes
  exact Bool.false_ne_true (other.symm.trans (hashes.2 c isIn))

theorem ofParts_resource (kind : TargetKind) (namespaceName name : List Char) {hash : List Char}
    (hashes : isHash hash = true) :
    ∃ first rest, '-' ∉ first ∧ first ++ '-' :: rest = namespaceName ++ '-' :: name ∧
      ofParts kind (splitDashes (namespaceName ++ '-' :: name ++ '-' :: hash)) =
        ⟨first, rest, kind⟩ := by
  have single : hash.splitOn '-' = [hash] :=
    List.splitOn_eq_singleton (not_mem_of_isHash hashes (by decide))
  have split : splitDashes (namespaceName ++ '-' :: name ++ '-' :: hash) =
      namespaceName.splitOn '-' ++ name.splitOn '-' ++ [hash] := by
    rw [splitDashes_eq, splitOn_append_cons, splitOn_append_cons, single]
  have joined : ['-'].intercalate (namespaceName.splitOn '-' ++ name.splitOn '-') =
      namespaceName ++ '-' :: name := by
    rw [← splitOn_append_cons, List.intercalate_splitOn]
  have noDash : ∀ part ∈ namespaceName.splitOn '-', '-' ∉ part := not_mem_of_mem_splitOn
  obtain ⟨first, others, begins⟩ :=
    List.exists_cons_of_ne_nil (List.splitOn_ne_nil '-' namespaceName)
  obtain ⟨second, more, continues⟩ :
      ∃ second more, others ++ name.splitOn '-' = second :: more :=
    List.exists_cons_of_ne_nil (List.append_ne_nil_of_right_ne_nil _ (List.splitOn_ne_nil '-' name))
  rw [begins, List.cons_append, continues] at joined split
  refine ⟨first, joinDashes (second :: more), noDash first (by simp [begins]), ?_, ?_⟩
  · rw [joinDashes_eq, ← intercalate_cons, joined]
  · rw [split, List.cons_append, ofParts, beforeLastHash?_concat hashes]

end RouterIdentity

structure RouterSource where
  kind : TargetRefKind
  /-- Only the names made from an Ingress have one. -/
  entryPoint : String := ""
  namespaceName : String
  targetName : String
  hash : String

namespace RouterSource

def routerName (source : RouterSource) : String :=
  let resource := source.namespaceName ++ "-" ++ source.targetName ++ "-" ++ source.hash
  match source.kind with
  | .ingressRoute => resource ++ "@kubernetescrd"
  | .ingress => source.entryPoint ++ "-" ++ resource ++ "@kubernetes"

structure WellFormed (source : RouterSource) : Prop where
  namespaceName : source.namespaceName ≠ ""
  noLeadingDash : source.namespaceName.toList.head? ≠ some '-'
  targetName : source.targetName ≠ ""
  plain : ∀ c ∈ source.namespaceName.toList ++ source.targetName.toList,
    c ≠ '@' ∧ isBlank c = false
  entryPoint : source.kind = .ingress → ∀ c ∈ source.entryPoint.toList, c ≠ '-' ∧ c ≠ '@'
  hashLength : 12 ≤ source.hash.toList.length
  hashDigits : ∀ c ∈ source.hash.toList, c ∈ "0123456789abcdef".toList

def resource (source : RouterSource) : List Char :=
  source.namespaceName.toList ++ '-' :: source.targetName.toList

section Decode

variable {source : RouterSource} (wellFormed : source.WellFormed)

include wellFormed

theorem WellFormed.isHash : RouterIdentity.isHash source.hash.toList = true := by
  have digits : ∀ c ∈ "0123456789abcdef".toList, RouterIdentity.isHashChar c = true :=
    List.all_iff_forall_prop.mp (by decide)
  simp only [RouterIdentity.isHash, wellFormed.hashLength, decide_true, Bool.true_and,
    List.all_eq_true]
  exact fun c isIn => digits c (wellFormed.hashDigits c isIn)

theorem WellFormed.isBlank_of_mem_resource {c : Char} (isIn : c ∈ source.resource) :
    isBlank c = false := by
  rw [resource, List.mem_append, List.mem_cons] at isIn
  rcases isIn with inNamespace | rfl | inName
  · exact (wellFormed.plain c (List.mem_append_left _ inNamespace)).2
  · decide
  · exact (wellFormed.plain c (List.mem_append_right _ inName)).2

theorem WellFormed.not_mem_hashed : '@' ∉ source.resource ++ '-' :: source.hash.toList := by
  intro isIn
  simp only [resource, List.mem_append, List.mem_cons, Char.reduceEq, false_or] at isIn
  rcases isIn with inResource | inHash
  · exact (wellFormed.plain '@' (List.mem_append.mpr inResource)).1 rfl
  · exact RouterIdentity.not_mem_of_isHash wellFormed.isHash (by decide) inHash

theorem decode_routerName :
    RouterIdentity.decode source.routerName =
      RouterIdentity.ofParts source.kind.toTargetKind
        (RouterIdentity.splitDashes (source.resource ++ '-' :: source.hash.toList)) := by
  have noAt := wellFormed.not_mem_hashed
  cases isKind : source.kind with
  | ingressRoute =>
      have name : source.routerName.toList =
          (source.resource ++ '-' :: source.hash.toList) ++ '@' :: "kubernetescrd".toList := by
        simp [routerName, isKind, resource]
      have cut := span_ne noAt "kubernetescrd".toList
      rw [← name, List.span_eq_takeWhile_dropWhile, Prod.mk.injEq] at cut
      simp only [RouterIdentity.decode, RouterIdentity.decodeChars, RouterIdentity.kindOf, cut]
      rfl
  | ingress =>
      have entry : ∀ c ∈ source.entryPoint.toList, c ≠ '-' ∧ c ≠ '@' := wellFormed.entryPoint isKind
      have name : source.routerName.toList =
          (source.entryPoint.toList ++ '-' :: (source.resource ++ '-' :: source.hash.toList)) ++
            '@' :: "kubernetes".toList := by
        simp [routerName, isKind, resource]
      have stillNoAt :
          '@' ∉ source.entryPoint.toList ++ '-' :: (source.resource ++ '-' :: source.hash.toList) := by
        rw [List.mem_append, List.mem_cons, not_or, not_or]
        exact ⟨fun isIn => (entry '@' isIn).2 rfl, by decide, noAt⟩
      have cut := span_ne stillNoAt "kubernetes".toList
      rw [← name, List.span_eq_takeWhile_dropWhile, Prod.mk.injEq] at cut
      have behindEntry : (RouterIdentity.splitDashes (source.entryPoint.toList ++
          '-' :: (source.resource ++ '-' :: source.hash.toList))).tail =
            RouterIdentity.splitDashes (source.resource ++ '-' :: source.hash.toList) := by
        have noDash : '-' ∉ source.entryPoint.toList := fun isIn => (entry '-' isIn).1 rfl
        rw [RouterIdentity.splitDashes_eq, splitOn_append_cons, List.splitOn_eq_singleton noDash,
          List.singleton_append, List.tail_cons, RouterIdentity.splitDashes_eq]
      simp only [RouterIdentity.decode, RouterIdentity.decodeChars, RouterIdentity.kindOf, cut]
      rw [behindEntry]
      rfl

theorem decode_eq :
    ∃ first rest, first ≠ [] ∧ rest ≠ [] ∧ first ++ '-' :: rest = source.resource ∧
      RouterIdentity.decode source.routerName = ⟨first, rest, source.kind.toTargetKind⟩ := by
  obtain ⟨first, rest, noDash, whole, parts⟩ :=
    RouterIdentity.ofParts_resource source.kind.toTargetKind source.namespaceName.toList
      source.targetName.toList wellFormed.isHash
  refine ⟨first, rest, ?_, ?_, whole, (decode_routerName wellFormed).trans parts⟩
  · rintro rfl
    obtain ⟨c, others, begins⟩ := List.exists_cons_of_ne_nil
      (mt String.toList_eq_nil_iff.mp wellFormed.namespaceName)
    rw [begins, List.nil_append, List.cons_append, List.cons.injEq] at whole
    exact wellFormed.noLeadingDash (by rw [begins, ← whole.1, List.head?_cons])
  · rintro rfl
    -- Otherwise the dash behind the namespace would stand inside the first half.
    obtain ⟨c, others, begins⟩ := List.exists_cons_of_ne_nil
      (mt String.toList_eq_nil_iff.mp wellFormed.targetName)
    have before := congrArg List.dropLast whole
    rw [List.dropLast_concat, begins, List.dropLast_append_of_ne_nil (List.cons_ne_nil _ _),
      List.dropLast_cons_of_ne_nil (List.cons_ne_nil _ _)] at before
    exact noDash (before ▸ by simp)

theorem targetKey_source :
    targetKey source.namespaceName source.targetName = String.ofList source.resource := by
  rw [targetKey, targetKeyChars_eq (mt String.toList_eq_nil_iff.mp wellFormed.namespaceName)
    (mt String.toList_eq_nil_iff.mp wellFormed.targetName)
    fun c isIn => wellFormed.isBlank_of_mem_resource isIn]
  rfl

/-- The key does not depend on where the decoder puts the boundary. -/
theorem decode_key? :
    (RouterIdentity.decode source.routerName).isComplete = true ∧
      (RouterIdentity.decode source.routerName).key? =
        some (targetKey source.namespaceName source.targetName) := by
  obtain ⟨first, rest, hasFirst, hasRest, whole, decoded⟩ := decode_eq wellFormed
  have complete : (RouterIdentity.decode source.routerName).isComplete = true := by
    cases isKind : source.kind <;>
      simp [decoded, RouterIdentity.isComplete, hasFirst, hasRest, isKind,
        TargetRefKind.toTargetKind]
  have noBlanks : ∀ c ∈ first ++ '-' :: rest, isBlank c = false := by
    rw [whole]
    exact fun c isIn => wellFormed.isBlank_of_mem_resource isIn
  refine ⟨complete, ?_⟩
  rw [RouterIdentity.key?, if_pos complete, decoded, targetKeyChars_eq hasFirst hasRest noBlanks,
    whole, targetKey_source wellFormed]

end Decode

/-- The name of a well-formed source leads to its key, and so to the rules that were stored for it:
those of the object, or older ones that say the same. -/
theorem routerName_resolves {source : RouterSource} (wellFormed : source.WellFormed) :
    let identity := RouterIdentity.decode source.routerName
    identity.isComplete = true ∧ identity.kind = source.kind.toTargetKind ∧
      identity.key? = some (targetKey source.namespaceName source.targetName) ∧
      ∀ (format : LogFormat) (store : RulesStore) (object : UrlPerformance) (now : Timestamp)
          (rules : TargetRules),
        object.spec.enabled = true → object.spec.target.kind = source.kind →
        object.targetNamespace = source.namespaceName →
        object.spec.target.name = source.targetName → object.toRules now = .ok rules →
          ∃ stored, Processor.resolve ⟨format, .operator⟩ (store.upsert rules).1 source.routerName =
              .ok stored ∧
            (store.upsert rules).1.get? object.targetKey = some stored ∧
            stored.sameRules rules = true ∧
            ((store.upsert rules).2 ≠ .unchanged → stored = rules) ∧
            (store.Sound → store.Compiled → stored.timeless = rules.timeless) := by
  intro identity
  obtain ⟨complete, key⟩ := decode_key? wellFormed
  have kind : identity.kind = source.kind.toTargetKind := by
    obtain ⟨first, rest, _, _, _, decoded⟩ := decode_eq wellFormed
    simp only [identity, decoded]
  refine ⟨complete, kind, key, ?_⟩
  intro format store object now rules enabled sameKind sameNamespace sameName made
  obtain ⟨urlPatterns, whitelist, ignored, _, _, _, isMade⟩ := UrlPerformance.toRules_eq_ok made
  have ownKey : rules.key = object.targetKey := by rw [isMade]; rfl
  obtain ⟨stored, found, same, _⟩ := store.get?_upsert_contents rules
  have alike : stored.sameRules rules = true := TargetRules.sameRules_iff.mpr same
  have storedKind : stored.kind = identity.kind := by
    rw [kind, ← sameKind, show stored.kind = rules.kind from congrArg (·.2.2.2.1) same, isMade]
    rfl
  have storedEnabled : stored.enabled = true := by
    rw [show stored.enabled = rules.enabled from congrArg (·.2.2.2.2.2.2.2.2.2.2) same, isMade]
    exact enabled
  have target : targetKey source.namespaceName source.targetName = object.targetKey := by
    rw [UrlPerformance.targetKey, sameNamespace, sameName]
  rw [ownKey] at found
  refine ⟨stored, ?_, found, alike, ?_, ?_⟩
  · have lookup : identity.key?.bind (store.upsert rules).1.get? = some stored := by
      rw [key, Option.bind_some, target, found]
    simp only [Processor.resolve, Processor.resolveStored]
    rw [lookup]
    simp [storedKind, storedEnabled, identity]
  · intro changed
    have kept := store.get?_upsert_changed rules changed
    rw [ownKey, found] at kept
    exact Option.some.inj kept
  · intro sound compiled
    have isCompiled := UrlPerformance.isCompiled_of_toRules made
    have kept := compiled.upsert sound.distinct isCompiled
    exact (kept object.targetKey stored found).timeless_eq isCompiled same

theorem routerName_resolves_dashed :
    let source : RouterSource :=
      { kind := .ingress, entryPoint := "web", namespaceName := "team-0123456789ab-"
        targetName := "-a-bbbbbbbbbbbb", hash := "0123456789abcdef" }
    let object : UrlPerformance :=
      { metadata := { name := some "perf", namespaceName := some "shop" }
        spec := { target := { name := source.targetName
                              namespaceName := some source.namespaceName } } }
    let rules := object.rulesWith [] [] [] (.ofSeconds 0)
    source.WellFormed ∧ object.toRules (.ofSeconds 0) = .ok rules ∧
      source.routerName = "web-team-0123456789ab---a-bbbbbbbbbbbb-0123456789abcdef@kubernetes" ∧
      (RouterIdentity.decode source.routerName).key? =
        some "team-0123456789ab---a-bbbbbbbbbbbb" ∧
      ∃ stored, Processor.resolve ⟨.common, .operator⟩ (({} : RulesStore).upsert rules).1
          source.routerName = .ok stored ∧ stored.timeless = rules.timeless := by
  intro source object rules
  have wellFormed : source.WellFormed := {
    namespaceName := by decide
    noLeadingDash := by decide
    targetName := by decide
    plain := List.all_iff_forall_prop.mp (by decide)
    entryPoint := fun _ => List.all_iff_forall_prop.mp (by decide)
    hashLength := by decide
    hashDigits := List.all_iff_forall_prop.mp (by decide) }
  have made : object.toRules (.ofSeconds 0) = .ok rules := rfl
  have compiled : ({} : RulesStore).Compiled := by simp [RulesStore.Compiled, RulesStore.get?]
  obtain ⟨_, _, key, resolves⟩ := routerName_resolves wellFormed
  obtain ⟨stored, resolved, _, _, _, timeless⟩ :=
    resolves .common {} object (.ofSeconds 0) rules rfl rfl (by decide) rfl made
  have name : source.routerName =
      "web-team-0123456789ab---a-bbbbbbbbbbbb-0123456789abcdef@kubernetes" := by decide +kernel
  have whole : targetKey source.namespaceName source.targetName =
      "team-0123456789ab---a-bbbbbbbbbbbb" := by decide +kernel
  exact ⟨wellFormed, made, name, key.trans (congrArg some whole), stored, resolved,
    timeless RulesStore.sound_empty compiled⟩

end RouterSource

end IngressMeter
