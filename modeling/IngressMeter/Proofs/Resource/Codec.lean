import IngressMeter.Controller
import IngressMeter.Proofs.Json.MergePatch
import IngressMeter.Proofs.Reconcile.Outcomes
import IngressMeter.Proofs.Time.Timestamp

/-!
What is written of an object is read back as the same. Each field has a rule for leaving it out, and
reading has the default that belongs to it. A status is merged into the object, so what it leaves out
stays there as it was; but an attempt edits the status that it finds and clears nothing of it.
-/

namespace IngressMeter

open Json

theorem ConditionType.toCase?_label (type : ConditionType) :
    toCase? ofLabel? (.text type.label) = some type := by
  cases type <;> decide

theorem ConditionStatus.toCase?_label (status : ConditionStatus) :
    toCase? ofLabel? (.text status.label) = some status := by
  cases status <;> decide

theorem TargetRefKind.toCase?_label (kind : TargetRefKind) :
    toCase? ofLabel? (.text kind.label) = some kind := by
  cases kind <;> decide

theorem Phase.toCase?_label (phase : Phase) : toCase? ofLabel? (.text phase.label) = some phase := by
  cases phase <;> decide

theorem Json.text_ne_null (s : String) : Json.text s ≠ .null := by
  rw [Json.text]
  exact Json.noConfusion

theorem Timestamp.toTimestamp?_toText {time : Timestamp} (storable : time.IsStorable) :
    toTimestamp? (.text time.toText) = some time := by
  have isText : toText? (.text time.toText) = some time.toText := rfl
  rw [toTimestamp?, isText, Option.bind_some, ofText?_toText storable]

theorem Condition.ofJson?_toJson {condition : Condition}
    (storable : ∀ time ∈ condition.lastTransition, time.IsStorable) :
    ofJson? condition.toJson = some condition := by
  rw [ofJson?, toJson]
  refine Fields.bind_of?_ofOptions rfl (by decide) fun fields get => ?_
  simp only [List.forall_mem_cons] at get
  obtain ⟨type, status, time, reason, message, -⟩ := get
  have time := Fields.optionalOrMissing?_map time
    (fun time isTime => Timestamp.toTimestamp?_toText (storable time isTime))
    (fun time => Json.text_ne_null time.toText)
  rw [Fields.required?_of_get? type, Fields.required?_of_get? status, time,
    Fields.withDefault?_textUnlessEmpty reason, Fields.withDefault?_textUnlessEmpty message,
    ConditionType.toCase?_label, ConditionStatus.toCase?_label]
  rfl

theorem TargetReference.ofJson?_toJson (target : TargetReference) :
    ofJson? target.toJson = some target := by
  rw [ofJson?, toJson]
  refine Fields.bind_of?_ofOptions rfl (by decide) fun fields get => ?_
  simp only [List.forall_mem_cons] at get
  obtain ⟨kind, name, namespaceName, -⟩ := get
  have namespaceName : fields.optionalOrMissing? "namespace" toText? = some target.namespaceName :=
    Fields.optionalOrMissing?_map namespaceName (fun _ _ => rfl) Json.text_ne_null
  rw [Fields.withDefault?_of_get? kind, Fields.required?_of_get? name, namespaceName,
    TargetRefKind.toCase?_label]
  rfl

theorem PatternSpec.ofJson?_toJson (spec : PatternSpec) : ofJson? spec.toJson = some spec := by
  have written : spec.toJson =
      .ofOptions [("pattern", some (.text spec.pattern)),
        ("replacement", some (.text spec.replacement))] := rfl
  rw [ofJson?, written]
  refine Fields.bind_of?_ofOptions rfl (by decide) fun fields get => ?_
  simp only [List.forall_mem_cons] at get
  obtain ⟨pattern, replacement, -⟩ := get
  rw [Fields.required?_of_get? pattern, Fields.required?_of_get? replacement]
  rfl

theorem PerformanceSpec.ofJson?_toJson {spec : PerformanceSpec}
    (fits : spec.topCount < powerOfTwo 32) : ofJson? spec.toJson = some spec := by
  rw [ofJson?, toJson]
  refine Fields.bind_of?_ofOptions rfl (by decide) fun fields get => ?_
  simp only [List.forall_mem_cons] at get
  obtain ⟨target, whitelist, ignored, mergePrefixes, urlPatterns, topCount, enabled, -⟩ := get
  have urlPatterns := Fields.withDefault?_unlessEmpty urlPatterns
    (toList?_map fun spec _ => spec.ofJson?_toJson)
  rw [Fields.required?_of_get? target, TargetReference.ofJson?_toJson,
    Fields.withDefault?_unlessEmpty whitelist (toTexts?_ofTexts _),
    Fields.withDefault?_unlessEmpty ignored (toTexts?_ofTexts _),
    Fields.withDefault?_unlessEmpty mergePrefixes (toTexts?_ofTexts _), urlPatterns,
    Fields.withDefault?_of_get? topCount, toUnsigned?_ofNat fits, Fields.withDefault?_of_get? enabled]
  rfl

/-- What the types of the fields can hold, and times that their text tells. -/
structure PerformanceStatus.IsStorable (status : PerformanceStatus) : Prop where
  times : ∀ condition ∈ status.conditions, ∀ time ∈ condition.lastTransition, time.IsStorable
  monitoredPaths : ∀ count ∈ status.monitoredPaths, fitsSigned 32 count = true
  observedGeneration : ∀ generation ∈ status.observedGeneration, fitsSigned 64 generation = true

theorem PerformanceStatus.ofJson?_toJson {status : PerformanceStatus}
    (storable : status.IsStorable) : ofJson? status.toJson = some status := by
  rw [ofJson?, toJson]
  refine Fields.bind_of?_ofOptions rfl (by decide) fun fields get => ?_
  simp only [List.forall_mem_cons] at get
  obtain ⟨phase, conditions, monitoredPaths, observedGeneration, -⟩ := get
  have notNull : ∀ n : Int, Json.ofInt n ≠ .null := fun _ => Json.noConfusion
  have conditions := Fields.withDefault?_unlessEmpty conditions
    (toList?_map fun condition isIn => Condition.ofJson?_toJson (storable.times condition isIn))
  have monitoredPaths := Fields.optionalOrMissing?_map monitoredPaths
    (fun count isCount => toInt32?_ofInt (storable.monitoredPaths count isCount)) notNull
  have observedGeneration := Fields.optionalOrMissing?_map observedGeneration
    (fun generation isIn => toInt64?_ofInt (storable.observedGeneration generation isIn)) notNull
  rw [Fields.withDefault?_of_get? phase, Phase.toCase?_label, conditions, monitoredPaths,
    observedGeneration]
  rfl

/-! The text of an object. -/

theorem Condition.wellFormed_toJson (condition : Condition) : WellFormed condition.toJson := by
  refine wellFormed_ofOptions ?_
  simp only [List.forall_mem_cons]
  refine ⟨wellFormed_some (.text _), wellFormed_some (.text _), ?_, wellFormed_textUnlessEmpty _,
    wellFormed_textUnlessEmpty _, nofun⟩
  exact wellFormed_map (fun time => .text (Timestamp.toText time)) _

theorem TargetReference.wellFormed_toJson (target : TargetReference) :
    WellFormed target.toJson := by
  refine wellFormed_ofOptions ?_
  simp only [List.forall_mem_cons]
  exact ⟨wellFormed_some (.text _), wellFormed_some (.text _), wellFormed_map .text _, nofun⟩

theorem PatternSpec.wellFormed_toJson (spec : PatternSpec) : WellFormed spec.toJson := by
  refine .object ?_
  simp only [List.forall_mem_cons]
  exact ⟨.text _, .text _, nofun⟩

theorem PerformanceSpec.wellFormed_toJson (spec : PerformanceSpec) : WellFormed spec.toJson := by
  have texts (texts : List String) : WellFormed (.ofTexts texts) := wellFormed_map_array .text texts
  refine wellFormed_ofOptions ?_
  simp only [List.forall_mem_cons]
  refine ⟨wellFormed_some spec.target.wellFormed_toJson, wellFormed_unlessEmpty (texts _),
    wellFormed_unlessEmpty (texts _), wellFormed_unlessEmpty (texts _), ?_,
    wellFormed_some (wellFormed_ofNat _), wellFormed_some (.bool _), nofun⟩
  exact wellFormed_unlessEmpty (wellFormed_map_array PatternSpec.wellFormed_toJson _)

theorem PerformanceStatus.wellFormed_toJson (status : PerformanceStatus) :
    WellFormed status.toJson := by
  refine wellFormed_ofOptions ?_
  simp only [List.forall_mem_cons]
  refine ⟨wellFormed_some (.text _), ?_, wellFormed_map wellFormed_ofInt _,
    wellFormed_map wellFormed_ofInt _, nofun⟩
  exact wellFormed_unlessEmpty (wellFormed_map_array Condition.wellFormed_toJson _)

/-! What is left out. -/

structure Condition.OmitsEmpty (condition : Condition) (json : Json) : Prop where
  lastTransition : json.member? "lastTransitionTime" = none ↔ condition.lastTransition = none
  reason : json.member? "reason" = none ↔ condition.reason = ""
  message : json.member? "message" = none ↔ condition.message = ""

structure PerformanceStatus.OmitsEmpty (status : PerformanceStatus) (json : Json) : Prop where
  conditions : json.member? "conditions" = none ↔ status.conditions = []
  eachCondition : ∀ items, json.member? "conditions" = some (.array items) →
    List.Forall₂ Condition.OmitsEmpty status.conditions items
  monitoredPaths : json.member? "monitoredPaths" = none ↔ status.monitoredPaths = none
  observedGeneration : json.member? "observedGeneration" = none ↔ status.observedGeneration = none

structure PerformanceSpec.OmitsEmpty (spec : PerformanceSpec) (json : Json) : Prop where
  namespaceName : (json.member? "targetRef").bind (Json.member? "namespace") = none ↔
    spec.target.namespaceName = none
  whitelist : json.member? "whitelistPathsRegex" = none ↔ spec.whitelist = []
  ignored : json.member? "ignoredPathsRegex" = none ↔ spec.ignored = []
  mergePrefixes : json.member? "mergePathsWithExtensions" = none ↔ spec.mergePrefixes = []
  urlPatterns : json.member? "urlPatterns" = none ↔ spec.urlPatterns = []

theorem unlessEmpty_eq_none {α : Type} {encode : List α → Json} {items : List α} :
    unlessEmpty encode items = none ↔ items = [] := by
  cases items <;> simp [unlessEmpty]

theorem textUnlessEmpty_eq_none {s : String} : textUnlessEmpty s = none ↔ s = "" := by
  simp [textUnlessEmpty]

theorem Condition.omitsEmpty_toJson (condition : Condition) :
    condition.OmitsEmpty condition.toJson := by
  have members : ∀ option : String × Option Json, option ∈ _ →
      condition.toJson.member? option.1 = option.2 := member?_ofOptions (by simp)
  simp only [List.forall_mem_cons] at members
  obtain ⟨-, -, lastTransition, reason, message, -⟩ := members
  constructor
  · rw [lastTransition, Option.map_eq_none_iff]
  · rw [reason, textUnlessEmpty_eq_none]
  · rw [message, textUnlessEmpty_eq_none]

theorem PerformanceStatus.omitsEmpty_toJson (status : PerformanceStatus) :
    status.OmitsEmpty status.toJson := by
  have members : ∀ option : String × Option Json, option ∈ _ →
      status.toJson.member? option.1 = option.2 := member?_ofOptions (by simp)
  simp only [List.forall_mem_cons] at members
  obtain ⟨-, conditions, monitoredPaths, observedGeneration, -⟩ := members
  constructor
  · rw [conditions, unlessEmpty_eq_none]
  · intro items isItems
    rw [conditions, unlessEmpty, Option.ite_none_left_eq_some] at isItems
    obtain ⟨-, same⟩ := isItems
    obtain rfl : status.conditions.map Condition.toJson = items := Json.array.inj (Option.some.inj same)
    exact List.forall₂_map_right_iff.mpr (List.forall₂_same.mpr fun condition _ =>
      condition.omitsEmpty_toJson)
  · rw [monitoredPaths, Option.map_eq_none_iff]
  · rw [observedGeneration, Option.map_eq_none_iff]

theorem PerformanceSpec.omitsEmpty_toJson (spec : PerformanceSpec) :
    spec.OmitsEmpty spec.toJson := by
  have members : ∀ option : String × Option Json, option ∈ _ →
      spec.toJson.member? option.1 = option.2 := member?_ofOptions (by simp)
  have targetMembers : ∀ option : String × Option Json, option ∈ _ →
      spec.target.toJson.member? option.1 = option.2 := member?_ofOptions (by simp)
  simp only [List.forall_mem_cons] at members targetMembers
  obtain ⟨target, whitelist, ignored, mergePrefixes, urlPatterns, -⟩ := members
  obtain ⟨-, -, namespaceName, -⟩ := targetMembers
  constructor
  · rw [target, Option.bind_some, namespaceName, Option.map_eq_none_iff]
  · rw [whitelist, unlessEmpty_eq_none]
  · rw [ignored, unlessEmpty_eq_none]
  · rw [mergePrefixes, unlessEmpty_eq_none]
  · rw [urlPatterns, unlessEmpty_eq_none]

/-! Writing a status and reading it back. -/

/-- Whether a status leaves out nothing that another one says. -/
structure PerformanceStatus.Keeps (status before : PerformanceStatus) : Prop where
  conditions : status.conditions = [] → before.conditions = []
  monitoredPaths : status.monitoredPaths = none → before.monitoredPaths = none
  observedGeneration : status.observedGeneration = none → before.observedGeneration = none

structure PerformanceStatus.Fills (before : PerformanceStatus) (fields : Fields) : Prop where
  conditions : fields.withDefault? "conditions" [] (toList? Condition.ofJson?) =
    some before.conditions
  monitoredPaths : fields.optionalOrMissing? "monitoredPaths" toInt32? = some before.monitoredPaths
  observedGeneration : fields.optionalOrMissing? "observedGeneration" toInt64? =
    some before.observedGeneration

theorem PerformanceStatus.fills_empty : Fills {} ⟨false, []⟩ where
  conditions := rfl
  monitoredPaths := rfl
  observedGeneration := rfl

theorem PerformanceStatus.fills_of_ofJson? {members : List (Option String × Json)}
    {before : PerformanceStatus} (read : ofJson? (.object members) = some before) :
    ∃ fields, Fields.of? ["phase", "conditions", "monitoredPaths", "observedGeneration"]
      (.object members) = some fields ∧ before.Fills fields := by
  simp only [ofJson?, Option.bind_eq_bind, Option.bind_eq_some_iff, Option.pure_def,
    Option.some.injEq] at read
  obtain ⟨fields, isRead, phase, _, conditions, isConditions, monitoredPaths, isMonitored,
    generation, isGeneration, rfl⟩ := read
  exact ⟨fields, isRead, isConditions, isMonitored, isGeneration⟩

theorem Json.ne_null_of_mem_map {α : Type} {encode : α → Json} (notNull : ∀ a, encode a ≠ .null)
    {option : Option α} : ∀ json ∈ option.map encode, json ≠ .null := by
  intro json sent
  obtain ⟨a, _, rfl⟩ := Option.map_eq_some_iff.mp sent
  exact notNull a

theorem PerformanceStatus.ofJson?_mergePatch_of_fills {status before : PerformanceStatus}
    (storable : status.IsStorable) (keeps : status.Keeps before) {stored : Json} {fields : Fields}
    (read : Fields.of? ["phase", "conditions", "monitoredPaths", "observedGeneration"]
      (.object stored.membersOf) = some fields)
    (fills : before.Fills fields) : ofJson? (stored.mergePatch status.toJson) = some status := by
  rw [ofJson?, toJson]
  refine Fields.bind_of?_mergePatch (by rfl) (by decide) ?_ read fun merged get => ?_
  · simp only [List.forall_mem_cons]
    refine ⟨?_, ?_, ?_, ?_, nofun⟩
    · rintro _ ⟨⟩
      exact Json.noConfusion
    · intro json isSent
      rw [unlessEmpty, Option.mem_def, Option.ite_none_left_eq_some] at isSent
      rw [← Option.some.inj isSent.2]
      exact Json.noConfusion
    · exact ne_null_of_mem_map fun _ => Json.noConfusion
    · exact ne_null_of_mem_map fun _ => Json.noConfusion
  · simp only [List.forall_mem_cons] at get
    obtain ⟨phase, conditions, monitoredPaths, observedGeneration, -⟩ := get
    have phase : merged.get? "phase" = some (.text status.phase.label) := phase
    have conditions := Fields.withDefault?_mergeField_unlessEmpty conditions
      (fun empty => by rw [fills.conditions, keeps.conditions empty])
      (toList?_map fun condition isIn => Condition.ofJson?_toJson (storable.times condition isIn))
    have monitoredPaths := Fields.optionalOrMissing?_mergeField_map monitoredPaths
      (fun missing => by rw [fills.monitoredPaths, keeps.monitoredPaths missing])
      (fun count isCount => toInt32?_ofInt (storable.monitoredPaths count isCount))
    have observedGeneration := Fields.optionalOrMissing?_mergeField_map observedGeneration
      (fun missing => by rw [fills.observedGeneration, keeps.observedGeneration missing])
      (fun generation isIn => toInt64?_ofInt (storable.observedGeneration generation isIn))
    rw [Fields.withDefault?_of_get? phase, Phase.toCase?_label, conditions, monitoredPaths,
      observedGeneration]
    rfl

theorem PerformanceStatus.ofJson?_mergePatch_fresh {status : PerformanceStatus}
    (storable : status.IsStorable) {stored : Json} (noMembers : stored.membersOf = []) :
    ofJson? (stored.mergePatch status.toJson) = some status := by
  refine ofJson?_mergePatch_of_fills storable ⟨fun _ => rfl, fun _ => rfl, fun _ => rfl⟩ ?_
    fills_empty
  rw [noMembers]
  rfl

theorem PerformanceStatus.ofJson?_mergePatch {status before : PerformanceStatus}
    (storable : status.IsStorable) (keeps : status.Keeps before) {stored : Json}
    (read : ofJson? stored = some before) :
    ofJson? (stored.mergePatch status.toJson) = some status := by
  cases stored with
  | object members =>
      obtain ⟨fields, isRead, fills⟩ := fills_of_ofJson? read
      exact ofJson?_mergePatch_of_fills storable keeps isRead fills
  | _ => exact ofJson?_mergePatch_fresh storable rfl

/-- Merged into the object that it was made for, a status is all that changes of the object. -/
theorem UrlPerformance.ofJson?_mergePatch {members : List (Option String × Json)}
    {object : UrlPerformance} (read : ofJson? (.object members) = some object)
    {status : PerformanceStatus} (storable : status.IsStorable)
    (keeps : status.Keeps (object.status.getD {})) :
    ofJson? ((Json.object members).mergePatch (.ofMembers [("status", status.toJson)])) =
      some { object with status := some status } := by
  simp only [ofJson?, Option.bind_eq_bind, Option.bind_eq_some_iff, Option.pure_def,
    Option.some.injEq] at read
  obtain ⟨fields, isRead, metadata, isMetadata, spec, isSpec, before, isStatus, rfl⟩ := read
  have sendable : ∀ option ∈ [("status", some status.toJson)],
      option.1 ∈ ["metadata", "spec", "status"] ∧ ∀ json ∈ option.2, json ≠ .null := by
    simp [PerformanceStatus.toJson, ofOptions, Json.ofMembers]
  have isRead : Fields.of? ["metadata", "spec", "status"]
      (.object (membersOf (.object members))) = some fields := isRead
  obtain ⟨merged, readMerged, sent, kept⟩ := Fields.of?_mergePatch _ (by simp) sendable isRead
  have metadataSame : merged.get? "metadata" = fields.get? "metadata" := kept _ (by simp)
  have specSame : merged.get? "spec" = fields.get? "spec" := kept _ (by simp)
  have statusSent := List.forall_mem_singleton.mp sent
  have written : (Json.ofMembers [("status", status.toJson)]) =
      .ofOptions [("status", some status.toJson)] := rfl
  have decoded : PerformanceStatus.ofJson?
      (mergePatch ((fields.get? "status").getD .null) status.toJson) = some status := by
    rw [Fields.optional?] at isStatus
    cases stored : fields.get? "status" with
    | none => exact PerformanceStatus.ofJson?_mergePatch_fresh storable rfl
    | some json =>
        by_cases isNull : json = .null
        · rw [isNull]
          exact PerformanceStatus.ofJson?_mergePatch_fresh storable rfl
        · simp only [stored, Fields.nullable?_of_ne isNull] at isStatus
          obtain ⟨earlier, isEarlier, rfl⟩ := Option.map_eq_some_iff.mp isStatus
          exact PerformanceStatus.ofJson?_mergePatch storable keeps isEarlier
  rw [written, ofJson?, readMerged]
  simp only [Option.bind_eq_bind, Option.bind_some]
  rw [Fields.required?, metadataSame, ← Fields.required?, isMetadata, Option.bind_some,
    Fields.required?, specSame, ← Fields.required?, isSpec, Option.bind_some,
    Fields.optional?_of_get? statusSent ?_ decoded]
  · rfl
  · exact Json.noConfusion

theorem PerformanceStatus.wellFormed_patch (status : PerformanceStatus) :
    WellFormed (.ofMembers [("status", status.toJson)]) := by
  refine .object ?_
  simp only [List.forall_mem_cons]
  exact ⟨status.wellFormed_toJson, nofun⟩

theorem PerformanceStatus.ofText?_render_status (status : PerformanceStatus) :
    (Json.ofText? (Json.ofMembers [("status", status.toJson)]).render).bind (Json.member? "status") =
      some status.toJson := by
  rw [status.wellFormed_patch.ofText?_render, Option.bind_some, member?_ofMembers_eq_some (by simp)]
  rfl

namespace Controller

theorem body_of_mem_writeStatus {controller : Controller} {answers : ApiAnswers}
    {object : UrlPerformance} {status : PerformanceStatus} {request : ApiRequest}
    (sent : request ∈ controller.writeStatus answers object status) :
    request.body = some (.ofMembers [("status", status.toJson)]) ∧
      request.contentType = some "application/merge-patch+json" := by
  rw [writeStatus] at sent
  split at sent
  · contradiction
  · split at sent
    · rename_i namespaceName name _ _
      simp only [send, Client.patchStatus, Call.sendable] at sent
      split at sent
      · rename_i isRequest
        rw [Option.ite_none_right_eq_some] at isRequest
        rw [List.mem_singleton.mp sent, ← Option.some.inj isRequest.2]
        exact ⟨rfl, rfl⟩
      · contradiction
    · contradiction

theorem writeStatus_of_same (controller : Controller) (answers : ApiAnswers)
    {object : UrlPerformance} {status : PerformanceStatus} (same : object.status = some status) :
    controller.writeStatus answers object status = [] := by
  rw [writeStatus, same]
  simp

end Controller

/-- An attempt takes nothing from the status that it finds, as long as the object has a generation. -/
theorem Reconciler.Ends.keeps {reconciler : Reconciler} {service : Service} {object : UrlPerformance}
    {now : Timestamp} {lookup : TargetLookup}
    {result : Service × Except ReconcileError PerformanceStatus}
    (ends : reconciler.Ends service object now lookup result) {status : PerformanceStatus}
    (returned : result.2 = .ok status) (numbered : object.metadata.generation ≠ none) :
    status.Keeps (object.status.getD {}) := by
  cases ends with
  | unidentified | unanswered => contradiction
  | disabled | missing | invalid =>
      cases returned
      exact ⟨fun empty => absurd empty (Condition.set_ne_nil _ _ _ _ _ _), id, id⟩
  | active identity enabled made =>
      cases returned
      refine ⟨fun empty => absurd empty (Condition.set_ne_nil _ _ _ _ _ _), ?_,
        fun missing => absurd missing numbered⟩
      intro missing
      rw [observeGeneration] at missing
      split at missing
      · contradiction
      · exact missing

/-- What is written of a specification or a status is read back as the same, without the fields that
say nothing. A status that was written into an object is not written again, whether the object is
read back with what was sent or with the outcome of merging it into what was stored; the status of
an attempt leaves out nothing that stands there. -/
theorem UrlPerformance.codec_lossless :
    (∀ spec : PerformanceSpec, spec.topCount < powerOfTwo 32 →
      ∃ json, Json.ofText? spec.toJson.render = some json ∧
        PerformanceSpec.ofJson? json = some spec ∧ spec.OmitsEmpty json) ∧
    (∀ status : PerformanceStatus, status.IsStorable →
      (∃ json, Json.ofText? status.toJson.render = some json ∧
        PerformanceStatus.ofJson? json = some status ∧ status.OmitsEmpty json) ∧
      ∀ (controller : Controller) (answers : ApiAnswers) (object : UrlPerformance),
        ∀ request ∈ controller.writeStatus answers object status, ∃ body,
          request.body = some body ∧
          request.contentType = some "application/merge-patch+json" ∧
          (∀ (later : Controller) (answers : ApiAnswers) (written : UrlPerformance),
            written.status = ((Json.ofText? body.render).bind (Json.member? "status")).bind
              PerformanceStatus.ofJson? →
            written.status = some status ∧ later.writeStatus answers written status = []) ∧
          ∀ members, UrlPerformance.ofJson? (.object members) = some object →
            status.Keeps (object.status.getD {}) →
            ∃ patch, Json.ofText? body.render = some patch ∧
              let written := { object with status := some status }
              UrlPerformance.ofJson? ((Json.object members).mergePatch patch) = some written ∧
                ∀ (later : Controller) (answers : ApiAnswers),
                  later.writeStatus answers written status = []) ∧
    ∀ (reconciler : Reconciler) (service : Service) (object : UrlPerformance)
      (lookup : TargetLookup) (now : Timestamp) (status : PerformanceStatus),
      (reconciler.reconcile service object lookup now).2 = .ok status →
      object.metadata.generation ≠ none → status.Keeps (object.status.getD {}) := by
  refine ⟨?_, ?_, ?_⟩
  · intro spec fits
    exact ⟨spec.toJson, spec.wellFormed_toJson.ofText?_render, PerformanceSpec.ofJson?_toJson fits,
      spec.omitsEmpty_toJson⟩
  · intro status storable
    have readBack := PerformanceStatus.ofJson?_toJson storable
    refine ⟨⟨status.toJson, status.wellFormed_toJson.ofText?_render, readBack,
      status.omitsEmpty_toJson⟩, ?_⟩
    intro controller answers object request sent
    obtain ⟨isBody, isPatch⟩ := Controller.body_of_mem_writeStatus sent
    refine ⟨_, isBody, isPatch, ?_, ?_⟩
    · intro later answers written isRead
      rw [status.ofText?_render_status, Option.bind_some, readBack] at isRead
      exact ⟨isRead, later.writeStatus_of_same answers isRead⟩
    · intro members isStored keeps
      exact ⟨_, status.wellFormed_patch.ofText?_render,
        UrlPerformance.ofJson?_mergePatch isStored storable keeps,
        fun later answers => later.writeStatus_of_same answers rfl⟩
  · intro reconciler service object lookup now status computed numbered
    exact (reconciler.reconcile_ends service object lookup now).keeps computed numbered

theorem UrlPerformance.codec_lossless_since :
    let spec : PerformanceSpec := {
      target := { kind := .ingressRoute, name := "web" }
      ignored := ["^/\"\\d+\u0007", ""]
      urlPatterns := [{ pattern := "ü😀", replacement := "/x" }]
      enabled := false }
    let status : PerformanceStatus := {
      phase := .active
      conditions := [⟨.ready, .true, some (.ofSeconds 1709164800), "Ready", "\n"⟩,
        ⟨.targetExists, .unknown, some (.ofSeconds (-62135596800)), "", ""⟩,
        ⟨.configGenerated, .false, none, "", "-"⟩]
      monitoredPaths := some (-2147483648)
      observedGeneration := some 9223372036854775807 }
    let earlier : PerformanceStatus := { phase := .error, observedGeneration := some 1 }
    let object : UrlPerformance := {
      metadata := { name := some "perf", namespaceName := some "shop", generation := some 2 }
      spec
      status := some earlier }
    let members := [(some "metadata", Json.ofMembers [("name", .text "perf"),
        ("namespace", .text "shop"), ("generation", .ofNat 2)]),
      (some "spec", spec.toJson), (some "status", earlier.toJson)]
    (∃ json, Json.ofText? spec.toJson.render = some json ∧
      PerformanceSpec.ofJson? json = some spec ∧ spec.OmitsEmpty json) ∧
    (∃ json, Json.ofText? status.toJson.render = some json ∧
      PerformanceStatus.ofJson? json = some status ∧ status.OmitsEmpty json) ∧
    (∃ request ∈ Controller.writeStatus {} (fun _ => .never) object status, ∃ body patch,
      request.body = some body ∧ Json.ofText? body.render = some patch ∧
      UrlPerformance.ofJson? ((Json.object members).mergePatch patch) =
        some { object with status := some status } ∧
      let readBack := ((Json.ofText? body.render).bind (Json.member? "status")).bind
        PerformanceStatus.ofJson?
      readBack = some status ∧ Controller.writeStatus {} (fun _ => .never)
        { object with status := readBack } status = []) ∧
    ∃ computed, (Reconciler.reconcile {} {} object .missing (.ofSeconds 0)).2 = .ok computed ∧
      computed.Keeps earlier := by
  intro spec status earlier object members
  obtain ⟨ofSpec, ofStatus, keeps⟩ := codec_lossless
  have fits : spec.topCount < powerOfTwo 32 := by decide +kernel
  have storable : status.IsStorable := by
    constructor <;> decide +kernel
  have stored : UrlPerformance.ofJson? (.object members) = some object := by decide +kernel
  have keepsEarlier : status.Keeps earlier := by
    constructor <;> decide
  obtain ⟨isRead, settles⟩ := ofStatus status storable
  have isSent : (Controller.writeStatus {} (fun _ => .never) object status).length = 1 := by
    decide +kernel
  obtain ⟨request, sent⟩ := List.length_eq_one_iff.mp isSent
  have isIn : request ∈ Controller.writeStatus {} (fun _ => .never) object status := by simp [sent]
  obtain ⟨body, isBody, _, skips, merges⟩ := settles {} (fun _ => .never) object request isIn
  obtain ⟨patch, isPatch, merged, _⟩ := merges members stored keepsEarlier
  have computed : ∃ computed,
      (Reconciler.reconcile {} {} object .missing (.ofSeconds 0)).2 = .ok computed := by
    rw [Reconciler.reconcile_disabled {} {} object _ _ (by decide) rfl]
    exact ⟨_, rfl⟩
  obtain ⟨computed, isComputed⟩ := computed
  refine ⟨ofSpec spec fits, isRead, ⟨request, isIn, body, patch, isBody, isPatch, merged, ?_⟩,
    computed, isComputed, keeps {} {} object .missing _ computed isComputed nofun⟩
  exact skips {} (fun _ => .never) { object with status := _ } rfl

end IngressMeter
