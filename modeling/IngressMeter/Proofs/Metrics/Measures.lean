import IngressMeter.Proofs.Metrics.Latency

/-!
What the engine holds of a target: rows, and latencies under its labels. As long as every target is
observed under the key of its labels, it holds something of the routers that it remembers and of no
others.
-/

namespace IngressMeter.Engine

def Measures (engine : Engine) (key : String) : Prop :=
  (∃ path, ⟨key, path⟩ ∈ engine.stats.keys) ∨
    ∃ namespaceName ingress path, targetKey namespaceName ingress = key ∧
      ([namespaceName, ingress, path] ∈ engine.metrics.avgLatency.labelSets ∨
        [namespaceName, ingress, path] ∈ engine.metrics.maxLatency.labelSets)

structure Keyed (engine : Engine) : Prop where
  kept : engine.Bookkept
  latencies : engine.LatencySound
  keyed : ∀ router info, engine.info? router = some info →
    targetKey info.namespaceName info.ingress = router

namespace Keyed

theorem new : ({} : Engine).Keyed where
  kept := bookkept_new
  latencies := latencySound_new
  keyed := by simp [info?]

variable {engine : Engine} (sound : engine.Keyed)

include sound

theorem measures_iff (key : String) : engine.Measures key ↔ key ∈ engine.remembered := by
  rw [sound.kept.remembered]
  constructor
  · rintro (rows | ⟨namespaceName, ingress, path, rfl, shown⟩)
    · exact rows
    · have shows : engine.Shows [namespaceName, ingress, path] := by
        rw [← sound.latencies.paired.same, or_self] at shown
        exact sound.latencies.shown _ shown
      obtain ⟨router, info, _, known, _, same⟩ := shows
      simp only [gaugeValues, List.cons.injEq] at same
      rw [same.1, same.2.1, sound.keyed router info known, ← sound.kept.remembered]
      exact mem_remembered_of_info known
  · exact Or.inl

theorem observe (target : EndpointTarget) (record : AccessRecord) (path : String) (topCount : Nat)
    (isKeyed : target.router = targetKey target.namespaceName target.ingress) :
    (engine.observe target record path topCount).Keyed := by
  refine ⟨sound.kept.observe _ _ _ _, sound.latencies.observe _ _ _ _, ?_⟩
  intro router info known
  rw [info?_observe] at known
  split at known
  · rename_i same
    cases known
    rw [same, isKeyed]
    rfl
  · exact sound.keyed router info known

theorem forgetRouter (router : String) : (engine.forgetRouter router).Keyed := by
  refine ⟨sound.kept.forgetRouter router, sound.latencies.forgetRouter router, ?_⟩
  intro other info known
  rw [info?_forgetRouter] at known
  split at known
  · contradiction
  · exact sound.keyed other info known

theorem of_step (step : EngineStep) (same : (engine.step step).routers = engine.routers) :
    (engine.step step).Keyed := by
  refine ⟨sound.kept.step step, sound.latencies.step step, ?_⟩
  intro router info known
  rw [info?, same] at known
  exact sound.keyed router info known

end Keyed

end IngressMeter.Engine
