import PilotBeacon.Lib.LimiterCells
import PilotBeacon.Server.State

/-!
# The Limiters as Single Maps

Each of the three limiters answers a call as if it were not sharded, were never swept and had
seen only the calls for the same key, provided that sweeps spare the last interval. The reaper's
sweeps do.
-/

namespace PilotBeacon

open PilotBeacon.Lib PilotBeacon.Net
open Limiter (AnswersAlone intervalRule windowRule)

/-- Answers as of a single map that sees the calls for one key only, and sweeps that leave
    nothing older than their cutoff. -/
structure SweepsUnseen (minInterval : Int) (maxPerSecond : Nat) : Prop where
  discover :
    AnswersAlone (fun (rl : DiscoverRateLimiter) nodeID now => rl.allow nodeID now minInterval)
      DiscoverRateLimiter.sweep ShardedMap.empty (intervalRule minInterval) minInterval
  punch :
    AnswersAlone (fun (rl : PunchRateLimiter) sourceKey now => rl.allow sourceKey now minInterval)
      PunchRateLimiter.sweep ShardedMap.empty (intervalRule minInterval) minInterval
  relay :
    AnswersAlone (fun (rl : RelayRateLimiter) src nowNano => rl.allow src nowNano maxPerSecond)
      RelayRateLimiter.sweep ShardedMap.empty (windowRule second maxPerSecond) second
  discover_swept : ∀ (rl : DiscoverRateLimiter) (cutoff : Int) (nodeID : UInt32) (last : Int),
    (rl.sweep cutoff).lookup nodeID = some last → cutoff ≤ last
  punch_swept : ∀ (rl : PunchRateLimiter) (cutoff : Int) (sourceKey : Text) (last : Int),
    (rl.sweep cutoff).lookup sourceKey = some last → cutoff ≤ last
  relay_swept : ∀ (rl : RelayRateLimiter) (cutoffNano : Int) (src : RelaySourceKey)
    (w : Limiter.Window), (rl.sweep cutoffNano).lookup src = some w → cutoffNano ≤ w.windowStart

/-- **Sharding and sweeping are invisible in the limiters**, for every interval and budget, and
    the cutoffs of the reaper lie an interval back. -/
theorem limiters_answer_alone (minInterval : Int) (maxPerSecond : Nat) :
    SweepsUnseen minInterval maxPerSecond ∧
      ∀ now : Int, (now - discoverMinInterval * 2) + discoverMinInterval ≤ now ∧
        (now - punchRateCleanupInterval) + punchPerSourceInterval ≤ now ∧
        (now - relaySourceCleanupInterval) + second ≤ now := by
  refine ⟨?_, fun now => ?_⟩
  · constructor
    case discover => exact Limiter.interval_answersAlone minInterval
    case punch => exact Limiter.interval_answersAlone minInterval
    case relay => exact Limiter.window_answersAlone second maxPerSecond
    case discover_swept => exact fun _ _ _ _ => Limiter.le_stamp_of_lookup_cellSweep id
    case punch_swept => exact fun _ _ _ _ => Limiter.le_stamp_of_lookup_cellSweep id
    case relay_swept =>
      exact fun _ _ _ _ => Limiter.le_stamp_of_lookup_cellSweep Limiter.Window.windowStart
  · simp only [discoverMinInterval, punchRateCleanupInterval, punchPerSourceInterval,
      relaySourceCleanupInterval, second]
    omega

/-- A Discover of node 7, one of node 8, a sweep an interval later that forgets both, and another
    of node 7: it is admitted, as without the sweep and without node 8. -/
theorem limiters_answer_alone_swept :
    let cs : List (Limiter.Call UInt32) :=
      [.allow 7 0, .allow 8 (second * 10), .sweep (second * 90) (second * 30)]
    let swept := Transition.run
      (Limiter.limiterNext (fun (rl : DiscoverRateLimiter) nodeID now =>
        rl.allow nodeID now discoverMinInterval) DiscoverRateLimiter.sweep) ShardedMap.empty cs
    swept.lookup 7 = none ∧
      (swept.allow 7 (second * 91) discoverMinInterval).1 =
        (Limiter.flatAllow (intervalRule discoverMinInterval)
          (Limiter.aloneRun (intervalRule discoverMinInterval) 7 cs) 7 (second * 91)).1 := by
  refine ⟨by decide +kernel, ?_⟩
  apply (limiters_answer_alone discoverMinInterval 0).1.discover
  refine ⟨by decide, ?_⟩
  intro now cutoff h
  simp only [List.cons_append, List.nil_append, List.mem_cons, reduceCtorEq, List.not_mem_nil,
    or_false, false_or, Limiter.Call.sweep.injEq] at h
  obtain ⟨rfl, rfl⟩ := h
  decide

end PilotBeacon
