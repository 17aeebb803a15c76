import PilotBeacon.Lib.WindowBudget
import PilotBeacon.Server.RelayAccounting
import Mathlib.Data.Finset.Order

/-!
# Relay Budgets of Origins

The relay limiter charges a frame to where it came from: the source endpoint of a datagram, or
the peer the WSS bridge authenticated. Nothing inside the frame matters, so an origin can
neither evade its budget nor use that of another.

- `Origin`: who is charged, and `Origin.key_eq_iff` for what tells origins apart
- `Charged`, `Logged`: the limiter against the history of one key
- `relay_budget`: how much an origin gets through, and when it is never refused
-/

namespace PilotBeacon

open PilotBeacon.Lib PilotBeacon.Net

/-! ## The limiter of one beacon -/

/-- The time at which an event makes the relay limiter charge `key`. -/
def limiterCall (cfg : Config) (key : RelaySourceKey) (s : Server) (e : Event) : List Int :=
  if relayCharge cfg s e = some key then [e.now] else []

/-- The limiter has charged `key` at the times `calls`, all by now. -/
structure Charged (key : RelaySourceKey) (calls : List Int) (now : Int) (s : Server) : Prop where
  counts : Limiter.WindowCounts s.relayRL key calls now
  past : ∀ t ∈ calls, t ≤ now

section

variable {cfg : Config} {key : RelaySourceKey} {calls : List Int} {now : Int} {s : Server}
  {e : Event}

theorem Charged.next (h : Charged key calls now s) (hnow : now ≤ e.now) :
    Charged key (calls ++ limiterCall cfg key s e) e.now (next cfg s e) := by
  -- an event that does not charge the key leaves its window as it is, or forgets it
  have hidle : relayCharge cfg s e ≠ some key →
      Limiter.WindowCounts (PilotBeacon.next cfg s e).relayRL key calls now →
      Charged key (calls ++ limiterCall cfg key s e) e.now (PilotBeacon.next cfg s e) := by
    intro hne hrl
    rw [limiterCall, if_neg hne, List.append_nil]
    exact ⟨hrl.mono hnow, fun t ht => (h.past t ht).trans hnow⟩
  rcases next_relayRL cfg s e with ⟨src, hsrc, hrl⟩ | ⟨hsrc, hrl⟩ | ⟨hsrc, hrl⟩
  · -- charged to this key or to another one
    by_cases hkey : src = key
    · subst hkey
      rw [limiterCall, if_pos hsrc]
      refine ⟨?_, ?_⟩
      · rw [hrl]
        exact (h.counts.mono hnow).call second maxRelaysPerSourcePerSecond
      · intro t ht
        rcases List.mem_append.mp ht with ht | ht
        · exact (h.past t ht).trans hnow
        · rw [List.mem_singleton.mp ht]
    · apply hidle
      · rw [hsrc]
        exact fun h => hkey (Option.some_inj.mp h)
      · rw [hrl]
        exact h.counts.other (Ne.symm hkey) _ _ _
  · exact hidle (by rw [hsrc]; nofun) (hrl ▸ h.counts)
  · exact hidle (by rw [hsrc]; nofun) (hrl ▸ h.counts.sweep _)

/-- A later charge is admitted if it and those so far are among `all`, which are few enough. -/
theorem Charged.allow {all : List Int} {t : Int} (h : Charged key calls now s) (hnow : now ≤ t)
    (hall : (calls ++ [t]).Sublist all)
    (hbudget : ∀ t₀, all.countP (fun t => t₀ ≤ t ∧ t < t₀ + second) ≤
      maxRelaysPerSourcePerSecond) :
    (s.relayRL.allow key t maxRelaysPerSourcePerSecond).1 = true :=
  Limiter.windowAllow_of_budget (h.counts.mono hnow) (fun t ht => (h.past t ht).trans hnow)
    (fun t₀ => hall.countP_le.trans (hbudget t₀))

end

/-- The time at which an event makes the limiter let `key` through. -/
def limiterPass (cfg : Config) (key : RelaySourceKey) (s : Server) (e : Event) : List Int :=
  if relayCharge cfg s e = some key ∧
      (s.relayRL.allow key e.now maxRelaysPerSourcePerSecond).1 = true then [e.now] else []

/-- The time at which an event makes the limiter open a window for `key`. -/
def limiterOpen (cfg : Config) (key : RelaySourceKey) (s : Server) (e : Event) : List Int :=
  if relayCharge cfg s e = some key ∧
      Limiter.opensWindow s.relayRL key e.now second = true then [e.now] else []

/-- The limiter has let `key` through at the times `passes` and opened windows for it at the
    times `opens`. -/
abbrev Logged (key : RelaySourceKey) (passes opens : List Int) (now : Int) (s : Server) : Prop :=
  Limiter.WindowLog s.relayRL key second maxRelaysPerSourcePerSecond passes opens now

theorem Logged.next {cfg : Config} {key : RelaySourceKey} {passes opens : List Int} {now : Int}
    {s : Server} {e : Event} (h : Logged key passes opens now s) (hnow : now ≤ e.now) :
    Logged key (passes ++ limiterPass cfg key s e) (opens ++ limiterOpen cfg key s e) e.now
      (next cfg s e) := by
  have hmono := Limiter.WindowLog.mono h hnow
  have hidle : relayCharge cfg s e ≠ some key →
      Logged key passes opens e.now (PilotBeacon.next cfg s e) →
      Logged key (passes ++ limiterPass cfg key s e) (opens ++ limiterOpen cfg key s e) e.now
        (PilotBeacon.next cfg s e) := by
    intro hne hlog
    rw [limiterPass, limiterOpen, if_neg (fun hc => hne hc.1), if_neg (fun hc => hne hc.1),
      List.append_nil, List.append_nil]
    exact hlog
  rcases next_relayRL cfg s e with ⟨src, hsrc, hrl⟩ | ⟨hsrc, hrl⟩ | ⟨hsrc, hrl⟩
  · by_cases hkey : src = key
    · subst hkey
      have hcall := hmono.call (by decide) (by decide)
      simp only [limiterPass, limiterOpen, hsrc, true_and]
      rw [Logged, hrl]
      exact hcall
    · apply hidle
      · rw [hsrc]
        exact fun hc => hkey (Option.some_inj.mp hc)
      · rw [Logged, hrl]
        exact hmono.other (Ne.symm hkey) e.now
  · refine hidle (by rw [hsrc]; nofun) ?_
    rw [Logged, hrl]
    exact hmono
  · refine hidle (by rw [hsrc]; nofun) ?_
    rw [Logged, hrl]
    -- the reaper's cutoff is minutes back
    have hcutoff : e.now - relaySourceCleanupInterval + second ≤ e.now := by
      rw [relaySourceCleanupInterval]
      have : 0 < second := by decide
      omega
    exact hmono.sweep hcutoff

/-! ## Origins -/

/-- Who a frame is charged to: a UDP source or an authenticated bridge peer. -/
inductive Origin where
  | udp (addr : UDPAddr) (hip : addr.ip.to16.isSome)
  | bridge (peerID : UInt32) (hpeer : peerID ≠ 0)

/-- A datagram comes from an IP of 4 or 16 bytes. -/
def Event.HasSource (e : Event) : Prop :=
  match e.act with
  | .packet _ _ remote bridgePeer => bridgePeer = 0 → remote.ip.to16.isSome = true
  | _ => True

instance (e : Event) : Decidable e.HasSource := by
  unfold Event.HasSource
  split <;> infer_instance

namespace Origin

def key : Origin → RelaySourceKey
  | .udp addr _ => relaySourceForUDP addr
  | .bridge peerID _ => relaySourceForBridge peerID

/-- The frame comes from the origin, a UDP source being its IP, in either form, and its port. -/
def isSource (o : Origin) (remote : UDPAddr) (bridgePeer : UInt32) : Bool :=
  match o with
  | .udp addr _ => bridgePeer == 0 && remote.sameEndpoint addr
  | .bridge peerID _ => bridgePeer == peerID

/-- The event is a frame from the origin. -/
def sends (o : Origin) (e : Event) : Bool :=
  match e.act with
  | .packet _ _ remote bridgePeer => o.isSource remote bridgePeer
  | _ => false

/-- **The key tells origins apart**, for frames that have one. -/
theorem key_eq_iff (o : Origin) {remote : UDPAddr} {bridgePeer : UInt32}
    (hsource : bridgePeer = 0 → remote.ip.to16.isSome) :
    relaySource remote bridgePeer = o.key ↔ o.isSource remote bridgePeer = true := by
  unfold relaySource
  by_cases hpeer : bridgePeer = 0
  · rw [if_neg (by simp [hpeer])]
    cases o with
    | udp addr hip =>
      rw [key, relaySourceForUDP_eq_iff (hsource hpeer) hip, isSource, hpeer]
      simp
    | bridge peerID hid =>
      simp [key, isSource, relaySourceForUDP, relaySourceForBridge, hpeer, Ne.symm hid]
  · rw [if_pos hpeer]
    cases o with
    | udp addr hip =>
      simp [key, isSource, relaySourceForUDP, relaySourceForBridge, hpeer]
    | bridge peerID hid => simp [key, isSource, relaySourceForBridge]

/-- A frame from the origin is charged to its key, whatever its IP looks like. -/
theorem key_of_isSource {o : Origin} {remote : UDPAddr} {bridgePeer : UInt32}
    (h : o.isSource remote bridgePeer = true) : relaySource remote bridgePeer = o.key := by
  apply (o.key_eq_iff _).mpr h
  intro hpeer
  cases o with
  | udp addr hip =>
    rw [isSource, Bool.and_eq_true] at h
    rw [(UDPAddr.sameEndpoint_iff.mp h.2).1]
    exact hip
  | bridge peerID hid =>
    rw [isSource, beq_iff_eq, hpeer] at h
    exact absurd h.symm hid

/-! ## What an origin gets -/

/-- What becomes of the frame, if it comes from the origin. -/
def fate (cfg : Config) (o : Origin) (s : Server) (e : Event) : Option RelayFate :=
  if o.sends e then dispatchFate cfg s (.beacon e) else none

/-- When a frame from the origin passes the limiter. -/
def passes (cfg : Config) (o : Origin) (s : Server) (e : Event) : List Int :=
  if (o.fate cfg s e).any (· ∈ [.oversize, .queueFull, .queued]) then [e.now] else []

/-- When a frame from the origin opens a window. -/
def opens (cfg : Config) (o : Origin) (s : Server) (e : Event) : List Int :=
  if (o.fate cfg s e).any (· ∈ [.oversize, .queueFull, .queued]) &&
      Limiter.opensWindow s.relayRL o.key e.now second then [e.now] else []

/-- When a routable frame from the origin comes in. -/
def asks (cfg : Config) (o : Origin) (s : Server) (e : Event) : List Int :=
  if o.sends e && (relayCharge cfg s e).isSome then [e.now] else []

section

variable {cfg : Config} {o : Origin} {s : Server} {e : Event}

/-- A frame with a fate is a Relay datagram. -/
theorem fate_eq_some {fate : RelayFate} (h : o.fate cfg s e = some fate) :
    ∃ env data remote bridgePeer body, e.act = .packet env data remote bridgePeer ∧
      cfg.proto.decode data = .relay body ∧ o.isSource remote bridgePeer = true ∧
      (s.dispatchRelay cfg env e.now body (relaySource remote bridgePeer)).2 = fate := by
  obtain ⟨now, act⟩ := e
  unfold Origin.fate at h
  split_ifs at h with hsends
  cases act with
  | packet env data remote bridgePeer =>
    unfold dispatchFate at h
    dsimp only at h
    cases hdec : cfg.proto.decode data with
    | relay body =>
      rw [hdec] at h
      exact ⟨env, data, remote, bridgePeer, body, rfl, hdec, hsends, Option.some_inj.mp h⟩
    | _ =>
      rw [hdec] at h
      cases h
  | _ => cases hsends

/-- Past the limiter: the origin's key was charged and let through. -/
theorem charge_of_passed
    (h : (o.fate cfg s e).any (· ∈ [RelayFate.oversize, .queueFull, .queued]) = true) :
    relayCharge cfg s e = some o.key ∧
      (s.relayRL.allow o.key e.now maxRelaysPerSourcePerSecond).1 = true := by
  rw [Option.any_eq_true] at h
  obtain ⟨fate, hfate, hpassed⟩ := h
  obtain ⟨env, data, remote, bridgePeer, body, hact, hdec, hsource, hdispatch⟩ := fate_eq_some hfate
  rw [← hdispatch, decide_eq_true_eq, Server.dispatchRelay_passed, key_of_isSource hsource]
    at hpassed
  refine ⟨?_, hpassed.2⟩
  simp only [relayCharge, hact, hdec, hpassed.1, if_true, key_of_isSource hsource]

/-- Refused: the origin's key was charged and not let through. -/
theorem charge_of_limited (h : o.fate cfg s e = some .limited) :
    relayCharge cfg s e = some o.key ∧
      (s.relayRL.allow o.key e.now maxRelaysPerSourcePerSecond).1 = false := by
  obtain ⟨env, data, remote, bridgePeer, body, hact, hdec, hsource, hdispatch⟩ := fate_eq_some h
  rw [Server.dispatchRelay_limited, key_of_isSource hsource] at hdispatch
  refine ⟨?_, hdispatch.2⟩
  simp only [relayCharge, hact, hdec, hdispatch.1, if_true, key_of_isSource hsource]

theorem passes_sublist (cfg : Config) (o : Origin) (s : Server) (e : Event) :
    (o.passes cfg s e).Sublist (limiterPass cfg o.key s e) := by
  unfold passes
  split_ifs with h
  · rw [limiterPass, if_pos (charge_of_passed h)]
  · exact List.nil_sublist _

theorem opens_sublist (cfg : Config) (o : Origin) (s : Server) (e : Event) :
    (o.opens cfg s e).Sublist (limiterOpen cfg o.key s e) := by
  unfold opens
  split_ifs with h
  · rw [Bool.and_eq_true] at h
    rw [limiterOpen, if_pos ⟨(charge_of_passed h.1).1, h.2⟩]
  · exact List.nil_sublist _

/-- A packet charges its source or nobody. -/
theorem relayCharge_packet (cfg : Config) (s : Server) (now : Int) (env : Env) (data : Bytes)
    (remote : UDPAddr) (bridgePeer : UInt32) :
    relayCharge cfg s ⟨now, .packet env data remote bridgePeer⟩ = none ∨
      relayCharge cfg s ⟨now, .packet env data remote bridgePeer⟩ =
        some (relaySource remote bridgePeer) := by
  unfold relayCharge
  dsimp only
  split
  · split_ifs
    · exact Or.inr rfl
    · exact Or.inl rfl
  · exact Or.inl rfl

/-- If frames have origins, the key of an origin is charged for its own frames only. -/
theorem limiterCall_eq_asks (cfg : Config) (o : Origin) (s : Server) (hsource : e.HasSource) :
    limiterCall cfg o.key s e = o.asks cfg s e := by
  obtain ⟨now, act⟩ := e
  cases act with
  | packet env data remote bridgePeer =>
    have hsends : o.sends ⟨now, .packet env data remote bridgePeer⟩ =
        o.isSource remote bridgePeer := rfl
    rcases relayCharge_packet cfg s now env data remote bridgePeer with h | h
    · simp [limiterCall, asks, h]
    · simp only [limiterCall, asks, h, hsends, Option.some_inj, Option.isSome_some, Bool.and_true,
        o.key_eq_iff hsource]
  | _ => simp [limiterCall, asks, relayCharge, sends]

end

end Origin

/-! ## Runs -/

section

variable (cfg : Config) (peers : List Text) {es : List Event} {now : Int}

theorem logged_run (key : RelaySourceKey) (hclock : ClockMonotone es)
    (hnow : ∀ e ∈ es, e.now ≤ now) :
    Logged key (Transition.observe (next cfg) (limiterPass cfg key) (newWithPeers cfg peers) es)
      (Transition.observe (next cfg) (limiterOpen cfg key) (newWithPeers cfg peers) es) now
      (runFrom cfg peers es) := by
  apply clock_induction cfg peers (fun es now s => Logged key
    (Transition.observe (next cfg) (limiterPass cfg key) (newWithPeers cfg peers) es)
    (Transition.observe (next cfg) (limiterOpen cfg key) (newWithPeers cfg peers) es) now s) _ _ _
    hclock hnow
  · exact fun now => Limiter.windowLog_empty rfl _ _ now
  · exact fun es s now now' hle h => Limiter.WindowLog.mono h hle
  · intro es e h
    rw [Transition.observe_concat, Transition.observe_concat]
    exact Logged.next h le_rfl

theorem charged_runFrom (key : RelaySourceKey) (hclock : ClockMonotone es)
    (hnow : ∀ e ∈ es, e.now ≤ now) :
    Charged key (Transition.observe (next cfg) (limiterCall cfg key) (newWithPeers cfg peers) es)
      now (runFrom cfg peers es) := by
  apply clock_induction cfg peers (fun es now s => Charged key
    (Transition.observe (next cfg) (limiterCall cfg key) (newWithPeers cfg peers) es) now s) _ _ _
    hclock hnow
  · intro now
    refine ⟨?_, fun t ht => by cases ht⟩
    intro w hw
    cases hw
  · exact fun es s now now' hle h =>
      ⟨h.counts.mono hle, fun t ht => (h.past t ht).trans hle⟩
  · intro es e h
    rw [Transition.observe_concat]
    exact h.next le_rfl

/-- An origin within its budget is not refused. -/
theorem not_limited_of_budget {pre post : List Event} {e : Event} {o : Origin}
    (hclock : ClockMonotone (pre ++ e :: post)) (hsource : ∀ x ∈ pre ++ e :: post, x.HasSource)
    (hbudget : ∀ t₀, (Transition.observe (next cfg) (o.asks cfg) (newWithPeers cfg peers)
      (pre ++ e :: post)).countP (fun t => t₀ ≤ t ∧ t < t₀ + second) ≤
        maxRelaysPerSourcePerSecond) :
    o.fate cfg (runFrom cfg peers pre) e ≠ some .limited := by
  intro hlimited
  obtain ⟨hcharge, hrefused⟩ := Origin.charge_of_limited hlimited
  obtain ⟨hpre, -, hle⟩ := clockMonotone_append.mp hclock
  have hcharged := charged_runFrom cfg peers o.key hpre
    (fun x hx => hle x hx e List.mem_cons_self)
  have hcalls : ∀ s, ∀ x ∈ pre ++ e :: post, limiterCall cfg o.key s x = o.asks cfg s x :=
    fun s x hx => Origin.limiterCall_eq_asks cfg o s (hsource x hx)
  have hcall : limiterCall cfg o.key (Transition.run (next cfg) (newWithPeers cfg peers) pre) e =
      [e.now] := if_pos hcharge
  have hallow := hcharged.allow (t := e.now) le_rfl ?_ hbudget
  · rw [hrefused] at hallow
    cases hallow
  · -- the calls so far and this one are among all frames of the origin
    rw [← Transition.observe_congr (next cfg) hcalls, Transition.observe_append,
      Transition.observe_cons, hcall, ← List.append_assoc]
    exact List.sublist_append_left _ _

end

/-- **Per-origin relay budget.** Along every run with a clock that does not go back, whatever the
    frames contain and whenever the reaper sweeps: an origin passes the limiter at most
    `2 * maxRelaysPerSourcePerSecond - 1` times in any interval of one second and at most
    `maxRelaysPerSourcePerSecond` times in the second from the start of one of its windows on;
    and an origin whose routable frames stay within `maxRelaysPerSourcePerSecond` in every
    interval of one second is never refused, whatever other origins do. -/
theorem relay_budget (cfg : Config) (peers : List Text) (es : List Event)
    (hclock : ClockMonotone es) (o : Origin) :
    (∀ t₀, (Transition.observe (next cfg) (o.passes cfg) (newWithPeers cfg peers) es).countP
        (fun t => t₀ ≤ t ∧ t < t₀ + second) ≤ 2 * maxRelaysPerSourcePerSecond - 1) ∧
      (∀ w ∈ Transition.observe (next cfg) (o.opens cfg) (newWithPeers cfg peers) es,
        (Transition.observe (next cfg) (o.passes cfg) (newWithPeers cfg peers) es).countP
          (fun t => w ≤ t ∧ t < w + second) ≤ maxRelaysPerSourcePerSecond) ∧
      ((∀ e ∈ es, e.HasSource) →
        (∀ t₀, (Transition.observe (next cfg) (o.asks cfg) (newWithPeers cfg peers) es).countP
          (fun t => t₀ ≤ t ∧ t < t₀ + second) ≤ maxRelaysPerSourcePerSecond) →
        Transition.Along (next cfg) (fun s e => o.fate cfg s e ≠ some .limited)
          (newWithPeers cfg peers) es) := by
  obtain ⟨now, hnow⟩ := exists_clock_bound es
  have hlog := logged_run cfg peers o.key hclock hnow
  have hpasses := Transition.observe_sublist (next cfg) (o.passes_sublist cfg)
    (newWithPeers cfg peers) es
  have hopens := Transition.observe_sublist (next cfg) (o.opens_sublist cfg)
    (newWithPeers cfg peers) es
  refine ⟨?_, ?_, ?_⟩
  · exact fun t₀ => hpasses.countP_le.trans (hlog.burst (by decide) t₀)
  · exact fun w hw => hpasses.countP_le.trans (hlog.capped w (hopens.subset hw))
  · intro hsource hbudget
    rw [Transition.along_iff]
    rintro pre e post rfl
    exact not_limited_of_budget cfg peers hclock hsource hbudget

/-- One endpoint in both forms of its IP, with a sweep in between, and a bridge peer. -/
def budgetEvents : List Event :=
  let relay : Bytes := [0x05, 0, 0, 0, 7, 0, 0, 0, 9, 0xaa]
  let mapped : UDPAddr :=
    { sampleAddr 10 0 0 7 4000 with
      ip := ⟨[0, 0, 0, 0, 0, 0, 0, 0, 0, 0, 0xff, 0xff, 10, 0, 0, 7], Or.inr (Or.inr rfl)⟩ }
  [sampleDatagram 0 (sampleAddr 10 0 0 9 4000) [0x01, 0, 0, 0, 9],
    sampleDatagram second (sampleAddr 10 0 0 7 4000) relay,
    ⟨second + 1, .packet sampleEnv relay (sampleAddr 10 0 0 7 4000) 7⟩,
    ⟨second + 2, .reap⟩,
    sampleDatagram (second + 3) mapped relay]

theorem relay_budget_budgetEvents :
    let o : Origin := .udp (sampleAddr 10 0 0 7 4000) rfl
    let s := newWithPeers sampleConfig []
    ClockMonotone budgetEvents ∧ (∀ e ∈ budgetEvents, e.HasSource) ∧
      Transition.observe (next sampleConfig) (o.passes sampleConfig) s budgetEvents =
        [second, second + 3] ∧
      Transition.observe (next sampleConfig) (o.opens sampleConfig) s budgetEvents = [second] ∧
      Transition.Along (next sampleConfig) (fun s e => o.fate sampleConfig s e ≠ some .limited) s
        budgetEvents := by
  intro o s
  have hclock : ClockMonotone budgetEvents := by decide
  have hsource : ∀ e ∈ budgetEvents, e.HasSource := by decide
  refine ⟨hclock, hsource, by decide, by decide, ?_⟩
  apply (relay_budget sampleConfig [] budgetEvents hclock o).2.2 hsource
  intro t₀
  apply List.countP_le_length.trans
  decide

end PilotBeacon
