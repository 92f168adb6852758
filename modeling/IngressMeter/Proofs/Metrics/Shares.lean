import IngressMeter.Proofs.Metrics.Freshness
import Mathlib.Data.Set.Defs

/-!
What of the families of series belongs to one router. A change of a series is a change of what
belongs to its router and of nothing else, as long as no label values of other routers have the slot
of its own.
-/

namespace IngressMeter

namespace SeriesMap

variable {α : Type}

theorem slot_append_eq {labels more : List String} (same : slot labels = slot more)
    (rest : List String) : slot (labels ++ rest) = slot (more ++ rest) := by
  have append : ∀ values, slot (values ++ rest) = rest.foldl hashText (slot values) :=
    fun _ => List.foldl_append
  rw [append, append, same]

def restrict (family : SeriesMap α) (chosen : List String → Bool) : SeriesMap α :=
  ⟨family.series.filter fun entry => chosen entry.1⟩

theorem labelSets_restrict (family : SeriesMap α) (chosen : List String → Bool) :
    (family.restrict chosen).labelSets = family.labelSets.filter chosen := by
  simp only [labelSets, restrict, List.filter_map]
  rfl

/-- Whether a series in the slot of some label values is chosen exactly if these are. -/
def Respects (family : SeriesMap α) (chosen : List String → Bool) (labels : List String) : Prop :=
  ∀ shown ∈ family.labelSets, slot shown = slot labels → chosen shown = chosen labels

variable {family : SeriesMap α} {chosen : List String → Bool}

theorem Respects.slot_ne {labels : List String} (respects : family.Respects chosen labels)
    (other : chosen labels = false) {entry : List String × α}
    (member : entry ∈ (family.restrict chosen).series) : slot entry.1 ≠ slot labels := by
  obtain ⟨inFamily, isChosen⟩ := List.mem_filter.mp member
  intro same
  rw [respects entry.1 (List.mem_map_of_mem inFamily) same, other] at isChosen
  exact Bool.false_ne_true isChosen

theorem Respects.known_iff {labels : List String} (respects : family.Respects chosen labels)
    (isChosen : chosen labels = true) :
    slot labels ∈ (family.restrict chosen).labelSets.map slot ↔
      slot labels ∈ family.labelSets.map slot := by
  rw [labelSets_restrict]
  constructor
  · exact fun known => (List.filter_sublist.map _).subset known
  · intro known
    obtain ⟨shown, member, here⟩ := List.mem_map.mp known
    refine List.mem_map.mpr ⟨shown, List.mem_filter.mpr ⟨member, ?_⟩, here⟩
    rw [respects shown member here, isChosen]

theorem restrict_update {labels : List String} (respects : family.Respects chosen labels)
    (start : α) (change : α → α) :
    (family.update labels start change).restrict chosen =
      if chosen labels then (family.restrict chosen).update labels start change
      else family.restrict chosen := by
  have changed : (family.series.map fun entry =>
      if slot entry.1 = slot labels then (entry.1, change entry.2) else entry).filter
        (fun entry => chosen entry.1) =
      (family.restrict chosen).series.map fun entry =>
        if slot entry.1 = slot labels then (entry.1, change entry.2) else entry := by
    -- A series keeps the label values that it began with, whoever writes it.
    rw [List.filter_map]
    congr 2
    funext entry
    by_cases here : slot entry.1 = slot labels <;> simp [here]
  cases isChosen : chosen labels with
  | true =>
      have sameKnown := respects.known_iff isChosen
      rw [if_pos rfl, update, update]
      simp only [any_slot_iff, sameKnown]
      split
      · rw [restrict, changed]
      · simp [restrict, List.filter_append, isChosen]
  | false =>
      rw [if_neg Bool.false_ne_true, update]
      split
      · rw [restrict, changed, List.map_congr_left (g := id), List.map_id]
        intro entry member
        simp [respects.slot_ne isChosen member]
      · simp [restrict, List.filter_append, isChosen]

theorem restrict_remove {labels : List String} (respects : family.Respects chosen labels) :
    (family.remove labels).restrict chosen =
      if chosen labels then (family.restrict chosen).remove labels else family.restrict chosen := by
  have commutes : (family.remove labels).restrict chosen =
      (family.restrict chosen).remove labels := by
    simp only [restrict, remove, List.filter_filter, Bool.and_comm]
  rw [commutes]
  cases isChosen : chosen labels with
  | true => rw [if_pos rfl]
  | false =>
      rw [if_neg Bool.false_ne_true, remove, List.filter_eq_self.mpr]
      intro entry member
      simpa using respects.slot_ne isChosen member

theorem restrict_removeAll {removed : List (List String)}
    (respects : ∀ labels ∈ removed, family.Respects chosen labels) :
    (removed.foldl remove family).restrict chosen =
      (removed.filter chosen).foldl remove (family.restrict chosen) := by
  induction removed generalizing family with
  | nil => rfl
  | cons labels rest ih =>
      have later : ∀ other ∈ rest, (family.remove labels).Respects chosen other := by
        intro other member shown isShown
        rw [labelSets_remove] at isShown
        exact respects other (List.mem_cons_of_mem _ member) shown (List.mem_of_mem_filter isShown)
      rw [List.foldl_cons, ih later, restrict_remove (respects labels List.mem_cons_self)]
      cases isChosen : chosen labels with
      | true => rw [List.filter_cons_of_pos isChosen, List.foldl_cons, if_pos rfl]
      | false => rw [List.filter_cons_of_neg (by simp [isChosen]), if_neg Bool.false_ne_true]

end SeriesMap

structure Traffic where
  targets : Set EndpointTarget
  paths : Set String
  requests : Set AccessRecord
  keyed : ∀ target ∈ targets, target.IsKeyed

def ofRouter (router : String) : List String → Bool
  | namespaceName :: ingress :: _ => targetKey namespaceName ingress = router
  | _ => false

namespace Metrics

def only (metrics : Metrics) (router : String) : Metrics where
  endpointRequests := metrics.endpointRequests.restrict (ofRouter router)
  endpointDuration := metrics.endpointDuration.restrict (ofRouter router)
  avgLatency := metrics.avgLatency.restrict (ofRouter router)
  maxLatency := metrics.maxLatency.restrict (ofRouter router)
  errorRate := metrics.errorRate.restrict (ofRouter router)
  clientErrorRate := metrics.clientErrorRate.restrict (ofRouter router)
  serverErrorRate := metrics.serverErrorRate.restrict (ofRouter router)

def gauges (metrics : Metrics) : List (SeriesMap Float) :=
  [metrics.avgLatency, metrics.maxLatency, metrics.errorRate, metrics.clientErrorRate,
    metrics.serverErrorRate]

end Metrics

namespace Traffic

variable (traffic : Traffic)

def Sends (target : EndpointTarget) (path : String) (record : AccessRecord) : Prop :=
  target ∈ traffic.targets ∧ path ∈ traffic.paths ∧ record ∈ traffic.requests

def IsGauge (labels : List String) : Prop :=
  ∃ target path record, traffic.Sends target path record ∧ labels = target.gauge path

def IsGaugeOf (router : String) (labels : List String) : Prop :=
  traffic.IsGauge labels ∧ ∀ other, ofRouter other labels = decide (router = other)

def IsSeries (labels : List String) : Prop :=
  ∃ target path record, traffic.Sends target path record ∧ labels = target.series path record

/-- Label values under which requests of different routers are counted have different slots. -/
def Apart : Prop :=
  ∀ ⦃target path record other otherPath otherRecord⦄, traffic.Sends target path record →
    traffic.Sends other otherPath otherRecord →
    SeriesMap.slot (target.series path record) =
      SeriesMap.slot (other.series otherPath otherRecord) → target.router = other.router

def Separate : Prop :=
  ∀ ⦃labels more⦄, traffic.IsGauge labels → traffic.IsGauge more →
    SeriesMap.slot labels = SeriesMap.slot more → labels = more

structure Covers (metrics : Metrics) : Prop where
  gauges : ∀ family ∈ metrics.gauges, ∀ labels ∈ family.labelSets, traffic.IsGauge labels
  requests : ∀ labels ∈ metrics.endpointRequests.labelSets, traffic.IsSeries labels
  durations : ∀ labels ∈ metrics.endpointDuration.labelSets, traffic.IsSeries labels

variable {traffic}

theorem ofRouter_gauge {target : EndpointTarget} (member : target ∈ traffic.targets)
    (router path : String) :
    ofRouter router (target.gauge path) = decide (target.router = router) := by
  rw [traffic.keyed target member]
  rfl

theorem ofRouter_series {target : EndpointTarget} (member : target ∈ traffic.targets)
    (router path : String) (record : AccessRecord) :
    ofRouter router (target.series path record) = decide (target.router = router) := by
  rw [traffic.keyed target member]
  rfl

theorem Apart.ofRouter_gauge (apart : traffic.Apart) {labels more : List String}
    (isGauge : traffic.IsGauge labels) (isGaugeToo : traffic.IsGauge more)
    (same : SeriesMap.slot labels = SeriesMap.slot more) (router : String) :
    ofRouter router labels = ofRouter router more := by
  obtain ⟨target, path, record, ⟨isTarget, isPath, isRecord⟩, rfl⟩ := isGauge
  obtain ⟨other, otherPath, _, ⟨isOther, isOtherPath, _⟩, rfl⟩ := isGaugeToo
  have sameSeries : SeriesMap.slot (target.series path record) =
      SeriesMap.slot (other.series otherPath record) := SeriesMap.slot_append_eq same _
  rw [Traffic.ofRouter_gauge isTarget, Traffic.ofRouter_gauge isOther,
    apart ⟨isTarget, isPath, isRecord⟩ ⟨isOther, isOtherPath, isRecord⟩ sameSeries]

theorem Apart.ofRouter_series (apart : traffic.Apart) {labels more : List String}
    (isSeries : traffic.IsSeries labels) (isSeriesToo : traffic.IsSeries more)
    (same : SeriesMap.slot labels = SeriesMap.slot more) (router : String) :
    ofRouter router labels = ofRouter router more := by
  obtain ⟨target, path, record, sends, rfl⟩ := isSeries
  obtain ⟨other, otherPath, otherRecord, sendsToo, rfl⟩ := isSeriesToo
  rw [Traffic.ofRouter_series sends.1, Traffic.ofRouter_series sendsToo.1,
    apart sends sendsToo same]

section Covers

variable {metrics : Metrics} (covered : traffic.Covers metrics)

include covered

theorem Covers.removeLatencies (removed : List (List String)) :
    traffic.Covers (removed.foldl Metrics.removeLatency metrics) := by
  rw [Metrics.removeLatencies_eq]
  refine ⟨?_, covered.requests, covered.durations⟩
  have gauges := covered.gauges
  simp only [Metrics.gauges, List.forall_mem_cons] at gauges ⊢
  obtain ⟨average, longest, rates⟩ := gauges
  refine ⟨?_, ?_, rates⟩
  · intro labels shown
    exact average labels (SeriesMap.mem_labelSets_removeAll.mp shown).1
  · intro labels shown
    exact longest labels (SeriesMap.mem_labelSets_removeAll.mp shown).1

theorem Covers.resetEndpointSeries : traffic.Covers metrics.resetEndpointSeries := by
  have nothing : ∀ {α : Type}, ∀ labels ∈ ({} : SeriesMap α).labelSets, False := by
    simp [SeriesMap.labelSets]
  have gauges := covered.gauges
  simp only [Metrics.gauges, List.forall_mem_cons] at gauges
  obtain ⟨_, _, rates⟩ := gauges
  refine ⟨?_, fun labels shown => (nothing labels shown).elim,
    fun labels shown => (nothing labels shown).elim⟩
  simp only [Metrics.gauges, List.forall_mem_cons]
  exact ⟨fun labels shown => (nothing labels shown).elim,
    fun labels shown => (nothing labels shown).elim, rates⟩

theorem Covers.resetErrorRates : traffic.Covers metrics.resetErrorRates := by
  have nothing : ∀ labels ∈ ({} : SeriesMap Float).labelSets, traffic.IsGauge labels := by
    simp [SeriesMap.labelSets]
  have gauges := covered.gauges
  simp only [Metrics.gauges, List.forall_mem_cons] at gauges
  obtain ⟨average, longest, _⟩ := gauges
  refine ⟨?_, covered.requests, covered.durations⟩
  simp only [Metrics.gauges, List.forall_mem_cons]
  exact ⟨average, longest, nothing, nothing, nothing, List.forall_mem_nil _⟩

theorem Covers.countRequest (target : EndpointTarget) (record : AccessRecord) :
    traffic.Covers (Engine.countRequest target record metrics) :=
  ⟨covered.gauges, covered.requests, covered.durations⟩

variable {target : EndpointTarget} {path : String} {record : AccessRecord}
  (sends : traffic.Sends target path record)

include sends

theorem Covers.set {family : SeriesMap Float} (isFamily : family ∈ metrics.gauges)
    (value : Float) :
    ∀ labels ∈ (family.set (target.gauge path) value).labelSets, traffic.IsGauge labels := by
  intro labels shown
  rcases SeriesMap.mem_labelSets_update shown with before | rfl
  · exact covered.gauges family isFamily labels before
  · exact ⟨target, path, record, sends, rfl⟩

theorem Covers.setWhen {family : SeriesMap Float} (isFamily : family ∈ metrics.gauges)
    (written : Prop) [Decidable written] (value : Float) :
    ∀ labels ∈ (if written then family.set (target.gauge path) value else family).labelSets,
      traffic.IsGauge labels := by
  split
  · exact covered.set sends isFamily value
  · exact covered.gauges family isFamily

theorem Covers.countEndpoint (stat : EndpointStat) :
    traffic.Covers (Engine.countEndpoint target record path stat metrics) := by
  have counted : ∀ {labels}, labels = target.series path record → traffic.IsSeries labels := by
    rintro labels rfl
    exact ⟨target, path, record, sends, rfl⟩
  rw [Engine.countEndpoint_eq]
  refine ⟨?_, ?_, ?_⟩
  · simp only [Metrics.gauges, List.forall_mem_cons]
    exact ⟨covered.set sends (by simp [Metrics.gauges]) _,
      covered.set sends (by simp [Metrics.gauges]) _,
      covered.setWhen sends (by simp [Metrics.gauges]) _ _,
      covered.setWhen sends (by simp [Metrics.gauges]) _ _,
      covered.setWhen sends (by simp [Metrics.gauges]) _ _, List.forall_mem_nil _⟩
  · intro labels shown
    exact (SeriesMap.mem_labelSets_update shown).elim (covered.requests labels) counted
  · intro labels shown
    exact (SeriesMap.mem_labelSets_update shown).elim (covered.durations labels) counted

end Covers

section Only

variable {metrics : Metrics} (apart : traffic.Apart) (covered : traffic.Covers metrics)
  (router : String)

include apart covered

theorem Apart.respects_gauge {family : SeriesMap Float} (isFamily : family ∈ metrics.gauges)
    {labels : List String} (isGauge : traffic.IsGauge labels) :
    family.Respects (ofRouter router) labels := by
  intro shown member same
  exact apart.ofRouter_gauge (covered.gauges family isFamily shown member) isGauge same router

theorem Apart.only_removeLatencies {removed : List (List String)}
    (isGauge : ∀ labels ∈ removed, traffic.IsGauge labels) :
    (removed.foldl Metrics.removeLatency metrics).only router =
      (removed.filter (ofRouter router)).foldl Metrics.removeLatency (metrics.only router) := by
  have left : ∀ family ∈ metrics.gauges, (removed.foldl SeriesMap.remove family).restrict
      (ofRouter router) = (removed.filter (ofRouter router)).foldl SeriesMap.remove
        (family.restrict (ofRouter router)) := by
    intro family isFamily
    refine SeriesMap.restrict_removeAll fun labels isRemoved => ?_
    exact apart.respects_gauge covered router isFamily (isGauge labels isRemoved)
  rw [Metrics.removeLatencies_eq, Metrics.removeLatencies_eq, Metrics.only,
    left metrics.avgLatency (by simp [Metrics.gauges]),
    left metrics.maxLatency (by simp [Metrics.gauges])]
  rfl

theorem Apart.only_removeLatencies_of {removed : List (List String)} {owner : String}
    (owned : ∀ labels ∈ removed, traffic.IsGaugeOf owner labels) :
    (removed.foldl Metrics.removeLatency metrics).only router =
      if owner = router then removed.foldl Metrics.removeLatency (metrics.only router)
      else metrics.only router := by
  rw [apart.only_removeLatencies covered router fun labels isRemoved => (owned labels isRemoved).1]
  split
  · rename_i own
    rw [List.filter_eq_self.mpr]
    intro labels isRemoved
    simpa [(owned labels isRemoved).2] using own
  · rename_i foreign
    rw [List.filter_eq_nil_iff.mpr, List.foldl_nil]
    intro labels isRemoved
    simpa [(owned labels isRemoved).2] using foreign

/-- A request of an endpoint changes what is measured of its router and of no other. -/
theorem Apart.only_countEndpoint {target : EndpointTarget} {path : String} {record : AccessRecord}
    (sends : traffic.Sends target path record) (stat : EndpointStat) :
    (Engine.countEndpoint target record path stat metrics).only router =
      if target.router = router then
        Engine.countEndpoint target record path stat (metrics.only router)
      else metrics.only router := by
  have isSeries : traffic.IsSeries (target.series path record) := ⟨target, path, record, sends, rfl⟩
  have isGauge : traffic.IsGauge (target.gauge path) := ⟨target, path, record, sends, rfl⟩
  have requests : metrics.endpointRequests.Respects (ofRouter router) (target.series path record) :=
    fun shown member same =>
      apart.ofRouter_series (covered.requests shown member) isSeries same router
  have durations : metrics.endpointDuration.Respects (ofRouter router)
      (target.series path record) :=
    fun shown member same =>
      apart.ofRouter_series (covered.durations shown member) isSeries same router
  have set : ∀ family ∈ metrics.gauges, ∀ value,
      (family.set (target.gauge path) value).restrict (ofRouter router) =
        if target.router = router then
          (family.restrict (ofRouter router)).set (target.gauge path) value
        else family.restrict (ofRouter router) := by
    intro family isFamily value
    rw [SeriesMap.set,
      SeriesMap.restrict_update (apart.respects_gauge covered router isFamily isGauge),
      Traffic.ofRouter_gauge sends.1]
    simp only [decide_eq_true_eq]
    rfl
  have counted := SeriesMap.restrict_update requests 0 (· + 1)
  have timed := SeriesMap.restrict_update durations (.start latencyBounds)
    (·.observe record.durationSeconds)
  rw [Traffic.ofRouter_series sends.1] at counted timed
  simp only [Metrics.gauges, List.forall_mem_cons] at set
  obtain ⟨average, longest, errors, clientErrors, serverErrors, _⟩ := set
  rw [Engine.countEndpoint_eq, Engine.countEndpoint_eq]
  by_cases own : target.router = router <;> by_cases failed : 0 < stat.errorCount <;>
    simp only [Metrics.only, SeriesMap.increment, Metrics.observeIn, counted, timed, average,
      longest, errors, clientErrors, serverErrors, own, failed, decide_true, decide_false, if_true,
      if_false, Bool.false_eq_true]

end Only

end Traffic

end IngressMeter
