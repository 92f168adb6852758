import IngressMeter.Proofs.Rules.Store
import IngressMeter.Resource.UrlPerformance

/-!
What rules say, apart from when they were made. Storing rules that say what those already there say
changes nothing. Patterns say what their texts say, so compiled rules that say the same are the same.
-/

namespace IngressMeter

namespace Pattern

theorem compile?_source {source : String} {pattern : Pattern}
    (compiled : compile? source = some pattern) : pattern.source = source := by
  simp only [compile?] at compiled
  split at compiled
  · split at compiled
    · cases compiled
      rfl
    · contradiction
  · contradiction

theorem compileAll_sources {sources : List String} {patterns : List Pattern}
    (compiled : compileAll sources = .ok patterns) : patterns.map (·.source) = sources := by
  induction sources generalizing patterns with
  | nil =>
      cases compiled
      rfl
  | cons source rest ih =>
      rw [compileAll] at compiled
      cases first : compile? source with
      | none => simp [first] at compiled
      | some pattern =>
          cases others : compileAll rest with
          | error refused => simp [first, others, Except.map] at compiled
          | ok remaining =>
              simp only [first, others, Except.map, Except.ok.injEq] at compiled
              subst patterns
              rw [List.map_cons, compile?_source first, ih others]

end Pattern

namespace UrlPerformance

theorem compilePatterns_specs {specs : List PatternSpec} {patterns : List UrlPattern}
    (compiled : compilePatterns specs = .ok patterns) :
    patterns.map (fun rule => (rule.pattern.source, rule.replacement)) =
      specs.map (fun spec => (spec.pattern, spec.replacement)) := by
  induction specs generalizing patterns with
  | nil =>
      cases compiled
      rfl
  | cons spec rest ih =>
      rw [compilePatterns] at compiled
      cases first : Pattern.compile? spec.pattern with
      | none => simp [first] at compiled
      | some pattern =>
          cases others : compilePatterns rest with
          | error refused => simp [first, others, Except.map] at compiled
          | ok remaining =>
              simp only [first, others, Except.map, Except.ok.injEq] at compiled
              subst patterns
              rw [List.map_cons, List.map_cons, Pattern.compile?_source first, ih others]

def rulesWith (object : UrlPerformance) (urlPatterns : List UrlPattern)
    (whitelist ignored : List Pattern) (now : Timestamp) : TargetRules where
  key := object.targetKey
  namespaceName := trimString object.targetNamespace
  targetName := trimString object.spec.target.name
  kind := object.spec.target.kind.toTargetKind
  owner := object.objectRef
  whitelist := whitelist
  ignored := ignored
  mergePrefixes := object.spec.mergePrefixes
  urlPatterns := urlPatterns
  topCount := min (max object.spec.topCount 1) largestTopCount
  enabled := object.spec.enabled
  lastUpdated := now.seconds

theorem toRules_eq_ok {object : UrlPerformance} {now : Timestamp} {rules : TargetRules}
    (made : object.toRules now = .ok rules) :
    ∃ urlPatterns whitelist ignored,
      compilePatterns object.spec.urlPatterns = .ok urlPatterns ∧
        Pattern.compileAll object.spec.whitelist = .ok whitelist ∧
        Pattern.compileAll object.spec.ignored = .ok ignored ∧
        rules = object.rulesWith urlPatterns whitelist ignored now := by
  rw [toRules] at made
  cases patterns : compilePatterns object.spec.urlPatterns with
  | error pattern => simp [patterns, bind, Except.bind] at made
  | ok urlPatterns =>
      cases admitted : Pattern.compileAll object.spec.whitelist with
      | error pattern => simp [patterns, admitted, bind, Except.bind] at made
      | ok whitelist =>
          cases left : Pattern.compileAll object.spec.ignored with
          | error pattern => simp [patterns, admitted, left, bind, Except.bind] at made
          | ok ignored =>
              simp only [patterns, admitted, left, bind, Except.bind, pure, Except.pure,
                Except.ok.injEq] at made
              exact ⟨urlPatterns, whitelist, ignored, rfl, rfl, rfl, made.symm⟩

theorem toRules_later (object : UrlPerformance) (now later : Timestamp) :
    object.toRules later =
      (object.toRules now).map fun rules => { rules with lastUpdated := later.seconds } := by
  simp only [toRules]
  cases compilePatterns object.spec.urlPatterns with
  | error pattern => rfl
  | ok urlPatterns =>
      cases Pattern.compileAll object.spec.whitelist with
      | error pattern => rfl
      | ok whitelist =>
          cases Pattern.compileAll object.spec.ignored with
          | error pattern => rfl
          | ok ignored => rfl

end UrlPerformance

namespace TargetRules

/-- What makes rules alike: their target, their owner and the texts they were compiled from. -/
def contents (rules : TargetRules) :=
  (rules.key, rules.namespaceName, rules.targetName, rules.kind, rules.owner,
    rules.whitelist.map (·.source), rules.ignored.map (·.source), rules.mergePrefixes,
    rules.urlPatterns.map (fun rule => (rule.pattern.source, rule.replacement)), rules.topCount,
    rules.enabled)

theorem sameRules_iff {first second : TargetRules} :
    first.sameRules second = true ↔ first.contents = second.contents := by
  simp only [sameRules, Pattern.sameSources, contents, Bool.and_eq_true, decide_eq_true_eq,
    Prod.mk.injEq, and_assoc]

def IsCompiled (rules : TargetRules) : Prop :=
  ∃ specs whitelist ignored, UrlPerformance.compilePatterns specs = .ok rules.urlPatterns ∧
    Pattern.compileAll whitelist = .ok rules.whitelist ∧
    Pattern.compileAll ignored = .ok rules.ignored

/-- Rules made of the same object at whatever time. -/
def timeless (rules : TargetRules) : TargetRules := { rules with lastUpdated := 0 }

theorem IsCompiled.timeless_eq {first second : TargetRules} (isCompiled : first.IsCompiled)
    (isCompiledToo : second.IsCompiled) (same : first.contents = second.contents) :
    first.timeless = second.timeless := by
  obtain ⟨specs, whitelist, ignored, hasPatterns, hasWhitelist, hasIgnored⟩ := isCompiled
  obtain ⟨otherSpecs, otherWhitelist, otherIgnored, othersPatterns, othersWhitelist,
    othersIgnored⟩ := isCompiledToo
  simp only [contents, Prod.mk.injEq, Pattern.compileAll_sources hasWhitelist,
    Pattern.compileAll_sources othersWhitelist, Pattern.compileAll_sources hasIgnored,
    Pattern.compileAll_sources othersIgnored, UrlPerformance.compilePatterns_specs hasPatterns,
    UrlPerformance.compilePatterns_specs othersPatterns] at same
  obtain ⟨key, namespaceName, targetName, kind, owner, sameWhitelist, sameIgnored, merge,
    samePairs, topCount, enabled⟩ := same
  have injective : Function.Injective fun spec : PatternSpec => (spec.pattern, spec.replacement) := by
    intro spec other pair
    cases spec
    cases other
    cases pair
    rfl
  have sameSpecs : specs = otherSpecs := injective.list_map samePairs
  subst sameWhitelist sameIgnored sameSpecs
  have whitelists : first.whitelist = second.whitelist :=
    Except.ok.inj (hasWhitelist.symm.trans othersWhitelist)
  have ignoredLists : first.ignored = second.ignored :=
    Except.ok.inj (hasIgnored.symm.trans othersIgnored)
  have patterns : first.urlPatterns = second.urlPatterns :=
    Except.ok.inj (hasPatterns.symm.trans othersPatterns)
  simp only [timeless, key, namespaceName, targetName, kind, owner, whitelists, ignoredLists, merge,
    patterns, topCount, enabled]

end TargetRules

theorem UrlPerformance.isCompiled_of_toRules {object : UrlPerformance} {now : Timestamp}
    {rules : TargetRules} (made : object.toRules now = .ok rules) : rules.IsCompiled := by
  obtain ⟨urlPatterns, whitelist, ignored, patterns, admitted, left, rfl⟩ := toRules_eq_ok made
  exact ⟨_, _, _, patterns, admitted, left⟩

namespace RulesStore

variable (store : RulesStore) {rules : TargetRules}

theorem removeOwned_again (key owner : String) :
    ((store.removeOwned key owner).1.removeOwned key owner).1 = (store.removeOwned key owner).1 := by
  have kept : (store.removeOwned key owner).1 = store →
      ((store.removeOwned key owner).1.removeOwned key owner).1 =
        (store.removeOwned key owner).1 := by
    intro same
    rw [same, same]
  cases found : store.get? key with
  | none => exact kept (by simp [removeOwned, found])
  | some stored =>
      by_cases owned : stored.owner = owner
      · have erased : (store.removeOwned key owner).1 = store.erase key := by
          simp [removeOwned, found, owned, remove]
        have gone : (store.erase key).get? key = none := by
          rw [get?_erase, if_pos rfl]
        rw [erased, removeOwned, gone]
      · exact kept (by simp [removeOwned, found, owned])

theorem get?_upsert_contents (rules : TargetRules) :
    ∃ stored, (store.upsert rules).1.get? rules.key = some stored ∧
      stored.contents = rules.contents ∧
      (stored = rules ∨ (store.dropMoved rules).get? rules.key = some stored) := by
  obtain inserted | ⟨stored, found, alike, unchanged⟩ := store.upsert_cases rules
  · refine ⟨rules, ?_, rfl, Or.inl rfl⟩
    rw [inserted, get?_insert, if_pos rfl]
  · refine ⟨stored, ?_, TargetRules.sameRules_iff.mp alike, Or.inr found⟩
    rw [unchanged, found]

theorem dropMoved_upsert (rules : TargetRules) :
    (store.upsert rules).1.dropMoved rules = (store.upsert rules).1 := by
  -- Nothing is left of the owner but under the key of the rules.
  have kept : ∀ entry ∈ (store.dropMoved rules).entries,
      entry.2.owner ≠ rules.owner ∨ entry.1 = rules.key := by
    intro entry member
    simpa using (List.mem_filter.mp member).2
  have stays : ∀ entry ∈ (store.upsert rules).1.entries,
      entry.2.owner ≠ rules.owner ∨ entry.1 = rules.key := by
    intro entry member
    obtain inserted | ⟨_, _, _, unchanged⟩ := store.upsert_cases rules
    · rw [inserted] at member
      rcases List.mem_cons.mp member with rfl | before
      · exact Or.inr rfl
      · exact kept entry (List.mem_of_mem_filter before)
    · rw [unchanged] at member
      exact kept entry member
  rw [dropMoved, List.filter_eq_self.mpr]
  intro entry member
  simpa using stays entry member

theorem upsert_again {again : TargetRules} (alike : again.contents = rules.contents) :
    (store.upsert rules).1.upsert again = ((store.upsert rules).1, .unchanged) := by
  obtain ⟨stored, found, same, _⟩ := store.get?_upsert_contents rules
  have key : again.key = rules.key := congrArg Prod.fst alike
  have owner : again.owner = rules.owner := congrArg (·.2.2.2.2.1) alike
  have kept : (store.upsert rules).1.dropMoved again = (store.upsert rules).1 := by
    rw [dropMoved, key, owner]
    exact store.dropMoved_upsert rules
  have unchanged : stored.sameRules again = true :=
    TargetRules.sameRules_iff.mpr (same.trans alike.symm)
  rw [upsert, kept, key, found]
  simp only [unchanged, if_true]

def Compiled (store : RulesStore) : Prop :=
  ∀ key rules, store.get? key = some rules → rules.IsCompiled

variable {store}

theorem Compiled.of_fewer (compiled : store.Compiled) {smaller : RulesStore}
    (fewer : ∀ key rules, smaller.get? key = some rules → store.get? key = some rules) :
    smaller.Compiled :=
  fun key rules found => compiled key rules (fewer key rules found)

theorem Compiled.upsert (compiled : store.Compiled) (distinct : store.keys.Nodup)
    (isCompiled : rules.IsCompiled) : (store.upsert rules).1.Compiled := by
  intro key stored found
  by_cases here : key = rules.key
  · obtain ⟨kept, isKept, _, fromWhere⟩ := store.get?_upsert_contents rules
    rw [here, isKept, Option.some.injEq] at found
    subst kept
    rcases fromWhere with rfl | before
    · exact isCompiled
    · exact compiled _ stored ((store.get?_dropMoved rules distinct _ stored).mp before).1
  · rw [store.get?_upsert_elsewhere rules distinct here] at found
    exact compiled key stored found.1

end RulesStore

end IngressMeter
