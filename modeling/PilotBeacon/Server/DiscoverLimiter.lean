import PilotBeacon.Server.Beacon

/-!
# Discovers and Their Limiter

Of all that happens to a beacon only two things change the limiter of the Discovers: a Discover
that the breaker lets in, and the sweep of the reaper.

- `discoverFor`: the node an event is a Discover of
- `limiterAct`: what an event is to the limiter
- `limiter_next`: a time in the limiter lasts for `discoverMinInterval`
-/

namespace PilotBeacon

open PilotBeacon.Lib PilotBeacon.Net

/-- The id a Discover or DiscoverEx is for, if the event is one. -/
def discoverFor (cfg : Config) (e : Event) : Option UInt32 :=
  match e.act with
  | .packet _ data _ _ =>
    match cfg.proto.decode data with
    | .discover body _ => if body.length < 4 then none else some (BigEndian.uint32 body)
    | _ => none
  | _ => none

/-- The breaker for Discovers is closed. -/
def Event.BreakerClosed (e : Event) : Prop :=
  match e.act with
  | .packet env _ _ _ => env.breakerOpen .discover = false
  | _ => True

instance : (e : Event) → Decidable e.BreakerClosed
  | ⟨_, .packet env _ _ _⟩ => inferInstanceAs (Decidable (env.breakerOpen .discover = false))
  | ⟨_, .listen _⟩ | ⟨_, .worker _ _⟩ | ⟨_, .reap⟩ | ⟨_, .gossip _⟩ | ⟨_, .notify _⟩
  | ⟨_, .registry _⟩ | ⟨_, .close⟩ => inferInstanceAs (Decidable True)

/-- What an event is to the limiter, whatever the state. -/
inductive LimiterAct (cfg : Config) (e : Event) : Prop where
  | discover (id : UInt32) (hfor : discoverFor cfg e = some id) (hclosed : e.BreakerClosed)
      (hrl : ∀ s, (next cfg s e).discoverRL = (s.discoverRL.allow id e.now discoverMinInterval).2)
  | sweep (hno : discoverFor cfg e = none)
      (hrl : ∀ s, (next cfg s e).discoverRL =
        s.discoverRL.sweep (e.now - discoverMinInterval * 2))
  | none (hno : ∀ id, ¬ (discoverFor cfg e = some id ∧ e.BreakerClosed))
      (hrl : ∀ s, (next cfg s e).discoverRL = s.discoverRL)

section

variable {cfg : Config} {id : UInt32} {s : Server} {e : Event} {t now : Int}

/-- A Discover of `id` that the breaker lets in. -/
theorem discoverFor_admitted (hfor : discoverFor cfg e = some id) (hclosed : e.BreakerClosed) :
    ∃ env data remote bridgePeer body wantDest,
      e.act = .packet env data remote bridgePeer ∧
        cfg.proto.decode data = .discover body wantDest ∧
        Server.discoverAdmitted env body = true ∧ BigEndian.uint32 body = id := by
  unfold discoverFor at hfor
  unfold Event.BreakerClosed at hclosed
  cases hact : e.act with
  | packet env data remote bridgePeer =>
    simp only [hact] at hfor hclosed
    cases hdec : cfg.proto.decode data with
    | discover body wantDest =>
      simp only [hdec] at hfor
      split_ifs at hfor with hlen
      exact ⟨env, data, remote, bridgePeer, body, wantDest, rfl, hdec,
        Server.discoverAdmitted_iff.mpr ⟨hlen, hclosed⟩, Option.some_inj.mp hfor⟩
    | _ => simp [hdec] at hfor
  | _ => simp [hact] at hfor

theorem discoverFor_packet {env : Env} {data : Bytes} (remote : UDPAddr) (bridgePeer : UInt32)
    {body : Bytes} {wantDest : Bool} (hdec : cfg.proto.decode data = .discover body wantDest)
    (hadm : Server.discoverAdmitted env body = true) :
    discoverFor cfg ⟨now, .packet env data remote bridgePeer⟩ = some (BigEndian.uint32 body) := by
  simp [discoverFor, hdec, (Server.discoverAdmitted_iff.mp hadm).1]

/-- **What an event is to the limiter.** -/
theorem limiterAct (cfg : Config) (e : Event) : LimiterAct cfg e := by
  obtain ⟨now, act⟩ := e
  have htables : ∀ s, (next cfg s ⟨now, act⟩).discoverRL = _ := fun s =>
    congrArg Tables.discoverRL (next_tables cfg s ⟨now, act⟩)
  cases act with
  | packet env data remote bridgePeer =>
    cases hdec : cfg.proto.decode data with
    | discover body wantDest =>
      simp only [hdec] at htables
      cases hadm : Server.discoverAdmitted env body with
      | false =>
        refine .none (fun id hid => ?_) fun s => (htables s).trans (by rw [hadm]; rfl)
        obtain ⟨_, _, _, _, _, _, hact, hdec', hadm', -⟩ := discoverFor_admitted hid.1 hid.2
        cases hact
        cases hdec.symm.trans hdec'
        exact Bool.false_ne_true (hadm.symm.trans hadm')
      | true =>
        exact .discover (BigEndian.uint32 body) (discoverFor_packet remote bridgePeer hdec hadm)
          (Server.discoverAdmitted_iff.mp hadm).2 fun s => (htables s).trans (by rw [hadm]; rfl)
    | _ =>
      refine .none (fun id hid => ?_) fun s => (htables s).trans (by simp only [hdec]; rfl)
      simp [discoverFor, hdec] at hid
  | reap =>
    exact .sweep rfl fun s => (htables s).trans Server.reapStaleNodes_discoverRL
  | _ => exact .none (fun id hid => absurd hid.1 (by simp [discoverFor])) htables

/-- What a Discover that the breaker lets in does to the limiter. -/
theorem discoverRL_next (hfor : discoverFor cfg e = some id) (hclosed : e.BreakerClosed) :
    (next cfg s e).discoverRL = (s.discoverRL.allow id e.now discoverMinInterval).2 := by
  cases limiterAct cfg e with
  | discover id' hfor' _ hrl =>
    cases hfor.symm.trans hfor'
    exact hrl s
  | sweep hno _ => cases hno.symm.trans hfor
  | none hno _ => exact absurd ⟨hfor, hclosed⟩ (hno id)

/-- Events that are no Discover of `id` record nothing for it. -/
theorem lookup_discoverRL_other (hother : ¬ (discoverFor cfg e = some id ∧ e.BreakerClosed))
    (ht : (next cfg s e).discoverRL.lookup id = some t) : s.discoverRL.lookup id = some t := by
  cases limiterAct cfg e with
  | discover id' hfor hclosed hrl =>
    have hne : id ≠ id' := by
      rintro rfl
      exact hother ⟨hfor, hclosed⟩
    rw [hrl] at ht
    exact (Limiter.lookup_intervalAllow_of_ne hne _ _).symm.trans ht
  | sweep _ hrl =>
    rw [hrl] at ht
    exact (Option.filter_eq_some_iff.mp ((ShardedMap.lookup_filter _ _ _).symm.trans ht)).1
  | none _ hrl =>
    rw [hrl] at ht
    exact ht

/-- An admission leaves its time, and comes long enough after the one before. -/
theorem limiter_of_allowed (hfor : discoverFor cfg e = some id) (hclosed : e.BreakerClosed)
    (hallow : (s.discoverRL.allow id e.now discoverMinInterval).1 = true) :
    (next cfg s e).discoverRL.lookup id = some e.now ∧
      ∀ t, s.discoverRL.lookup id = some t → t + discoverMinInterval ≤ e.now := by
  obtain ⟨hrec, hold⟩ := Limiter.intervalAllow_true hallow
  constructor
  · rw [discoverRL_next hfor hclosed]
    exact (congrArg (fun m => ShardedMap.lookup m _) hrec).trans
      (ShardedMap.lookup_insert_self _ _ _)
  · intro t ht
    have := hold t ht
    omega

/-- A time in the limiter only grows, until it is `discoverMinInterval` old. -/
theorem limiter_next (cfg : Config) (e : Event) (ht : s.discoverRL.lookup id = some t) :
    (∃ t', (next cfg s e).discoverRL.lookup id = some t' ∧ t ≤ t') ∨
      t + discoverMinInterval ≤ e.now := by
  cases limiterAct cfg e with
  | discover id' _ _ hrl =>
    rw [hrl]
    -- the recorded time stays, or it was old enough for another admission
    rcases Limiter.lookup_intervalAllow_or ht id' e.now discoverMinInterval with hkept | hold
    · exact Or.inl ⟨t, hkept, le_refl t⟩
    · right
      omega
  | sweep _ hrl =>
    -- the sweep forgets only what is twice as old as it needs to be
    by_cases hold : t < e.now - discoverMinInterval * 2
    · right
      have hpos : 0 < discoverMinInterval := by decide
      omega
    · refine Or.inl ⟨t, ?_, le_refl t⟩
      rw [hrl]
      refine (ShardedMap.lookup_filter _ _ _).trans ?_
      rw [ht]
      simp [Option.filter, hold]
  | none _ hrl =>
    rw [hrl]
    exact Or.inl ⟨t, ht, le_refl t⟩

end

end PilotBeacon
