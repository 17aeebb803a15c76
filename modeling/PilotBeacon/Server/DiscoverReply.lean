import PilotBeacon.Server.GossipSize
import PilotBeacon.Server.Keepalive

/-!
# What a Discover Reply Means

A Discover that finds its shard full is dropped without a reply, so a reply should mean that the
node is registered. But the limiter has been charged by then, and until `discoverMinInterval` has
passed it keeps the next Discovers of the node from being looked at: these are answered as
rate-limited ones of a registered node are.

- `discoverReplied`: the id an event is a reply for
- `LimiterAccounted`: what a time in the limiter stands for
- `repliesRegistered_iff`: a reply means registered exactly if no node whose shard was full is
  heard again within `discoverMinInterval`, unless it has been registered in between
- `fullShard_replies`: a beacon with a full shard replies to a node it has not registered
-/

namespace PilotBeacon

open PilotBeacon.Lib PilotBeacon.Net

/-! ## Replies -/

/-- The id of the Discover that an event is and that is replied to. -/
def discoverReplied (cfg : Config) (s : Server) (e : Event) : Option UInt32 :=
  match e.act with
  | .packet env data remote _ =>
    match cfg.proto.decode data with
    | .discover body wantDest =>
      if (s.handleDiscover cfg env e.now body remote wantDest).2 = [] then none
      else some (BigEndian.uint32 body)
    | _ => none
  | _ => none

/-- Whenever a DiscoverReply is sent for a node, the node is registered. -/
def RepliesRegistered (cfg : Config) (peers : List Text) (es : List Event) : Prop :=
  ∀ pre e post id, es = pre ++ e :: post →
    discoverReplied cfg (runFrom cfg peers pre) e = some id →
    (runFrom cfg peers (pre ++ [e])).nodes.has id = true

/-- An admitted Discover: its id and time, whether the limiter let it through to a full shard,
    whether the id was registered, and whether there is a socket and an encodable address to reply
    to. -/
structure DiscoverSeen where
  id : UInt32
  time : Int
  full : Bool
  registered : Bool
  answerable : Bool
deriving DecidableEq

def discoverSeen (cfg : Config) (s : Server) (e : Event) : List DiscoverSeen :=
  match e.act with
  | .packet env data remote _ =>
    match cfg.proto.decode data with
    | .discover body _ =>
      if Server.discoverAdmitted env body then
        [⟨BigEndian.uint32 body, e.now,
          (s.discoverRL.allow (BigEndian.uint32 body) e.now discoverMinInterval).1 &&
            (s.nodes.upsert (BigEndian.uint32 body) remote e.now maxBeaconNodes).atCapacity,
          s.nodes.has (BigEndian.uint32 body),
          !decide (s.discoverReply cfg remote = [])⟩]
      else []
    | _ => []
  | _ => []

/-- The admitted Discovers of a run, oldest first. -/
def discoversSeen (cfg : Config) (peers : List Text) (es : List Event) : List DiscoverSeen :=
  Transition.observe (next cfg) (discoverSeen cfg) (newWithPeers cfg peers) es

/-- A node that found its shard full and is not registered when it is heard again is heard no
    sooner than `discoverMinInterval` later. -/
def RetriesApart (ds : List DiscoverSeen) : Prop :=
  ds.Pairwise fun d d' => d.full = true → d'.id = d.id → d'.registered = false →
    d'.answerable = true → d.time + discoverMinInterval ≤ d'.time

instance (ds : List DiscoverSeen) : Decidable (RetriesApart ds) :=
  inferInstanceAs (Decidable (ds.Pairwise _))

/-- `d` is what there is to know about the Discover that `e` is. -/
structure SeenAs (cfg : Config) (s : Server) (e : Event) (d : DiscoverSeen) : Prop where
  time : d.time = e.now
  discover : discoverFor cfg e = some d.id
  closed : e.BreakerClosed
  registered : d.registered = s.nodes.has d.id
  full : d.full = true ↔ discoverFull cfg s e = some d.id
  replied : discoverReplied cfg s e =
    if d.full = false ∧ d.answerable = true then some d.id else none

section

variable {cfg : Config} {id : UInt32} {s : Server} {e : Event}

theorem discoverSeen_cases (cfg : Config) (s : Server) (e : Event) :
    (discoverSeen cfg s e = [] ∧ discoverReplied cfg s e = none ∧
      ∀ id, discoverFull cfg s e ≠ some id) ∨
    ∃ d, discoverSeen cfg s e = [d] ∧ SeenAs cfg s e d := by
  obtain ⟨now, act⟩ := e
  cases act with
  | packet env data remote bridgePeer =>
    cases hdec : cfg.proto.decode data with
    | discover body wantDest =>
      cases hadm : Server.discoverAdmitted env body with
      | false =>
        left
        simp [discoverSeen, discoverReplied, discoverFull, hdec, hadm, Server.handleDiscover_reply]
      | true =>
        right
        refine ⟨_, by simp only [discoverSeen, hdec, hadm, if_true]; rfl, ?_⟩
        constructor
        case time => rfl
        case discover => exact discoverFor_packet remote bridgePeer hdec hadm
        case closed => exact (Server.discoverAdmitted_iff.mp hadm).2
        case registered => rfl
        case full => simp [discoverFull, hdec, hadm]
        case replied =>
          simp only [discoverReplied, hdec, Server.handleDiscover_reply, hadm]
          cases (s.discoverRL.allow (BigEndian.uint32 body) now discoverMinInterval).1 <;>
            cases (s.nodes.upsert (BigEndian.uint32 body) remote now maxBeaconNodes).atCapacity <;>
              by_cases hr : s.discoverReply cfg remote = [] <;> simp [hr]
    | _ =>
      left
      simp [discoverSeen, discoverReplied, discoverFull, hdec]
  | _ =>
    left
    simp [discoverSeen, discoverReplied, discoverFull]

theorem seenAs_of_mem {d : DiscoverSeen} (h : d ∈ discoverSeen cfg s e) : SeenAs cfg s e d := by
  rcases discoverSeen_cases cfg s e with ⟨hnone, -⟩ | ⟨d', hd, hseen⟩
  · rw [hnone] at h
    nomatch h
  · rw [hd, List.mem_singleton] at h
    exact h ▸ hseen

/-! ## What the limiter's times stand for -/

/-- A time in the limiter is that of a Discover whose node is registered and was not last seen
    before it, or found its shard full, or was reaped since. -/
def LimiterAccounted (id : UInt32) (ds : List DiscoverSeen) (s : Server) (now : Int) : Prop :=
  ∀ t, s.discoverRL.lookup id = some t →
    (∃ p, s.nodes.endpoint id = some p ∧ t ≤ p.2) ∨
      (∃ d ∈ ds, d.full = true ∧ d.id = id ∧ d.time = t) ∨ t + beaconNodeTTL < now

theorem LimiterAccounted.mono {ds : List DiscoverSeen} {now now' : Int}
    (h : LimiterAccounted id ds s now) (hle : now ≤ now') : LimiterAccounted id ds s now' :=
  fun t ht => (h t ht).imp_right (Or.imp_right fun hold => hold.trans_le hle)

/-- A time that stays in the limiter. -/
theorem LimiterAccounted.keep {ds : List DiscoverSeen} (h : LimiterAccounted id ds s e.now)
    (hdated : Dated id s e.now) {t : Int} (ht : s.discoverRL.lookup id = some t)
    (ds' : List DiscoverSeen) :
    (∃ p, (next cfg s e).nodes.endpoint id = some p ∧ t ≤ p.2) ∨
      (∃ d ∈ ds ++ ds', d.full = true ∧ d.id = id ∧ d.time = t) ∨ t + beaconNodeTTL < e.now := by
  rcases h t ht with ⟨p, hp, hle⟩ | ⟨d, hd, hfull⟩ | hold
  · cases hafter : (next cfg s e).nodes.endpoint id with
    | none =>
      -- reaped
      have hold := (endpoint_lost hp hafter).2
      exact Or.inr (Or.inr (by omega))
    | some p' =>
      refine Or.inl ⟨p', rfl, ?_⟩
      rcases endpoint_next_cases hafter with ⟨-, hnow⟩ | ⟨-, hsame⟩
      · exact (hdated.limiter t ht).1.trans hnow.ge
      · cases hsame.symm.trans hp
        exact hle
  · exact Or.inr (Or.inl ⟨d, List.mem_append_left _ hd, hfull⟩)
  · exact Or.inr (Or.inr hold)

theorem LimiterAccounted.next {ds : List DiscoverSeen} (h : LimiterAccounted id ds s e.now)
    (hdated : Dated id s e.now) :
    LimiterAccounted id (ds ++ discoverSeen cfg s e) (next cfg s e) e.now := by
  intro t ht
  cases discoverEffect cfg id s e with
  | stored addr hwrite hrl =>
    cases hrl.symm.trans ht
    left
    refine ⟨(addr, e.now), ?_, le_rfl⟩
    rw [endpoint_next, hwrite]
  | full hfull _ _ hrl =>
    cases hrl.symm.trans ht
    right
    left
    rcases discoverSeen_cases cfg s e with ⟨-, -, hno⟩ | ⟨d, hd, hseen⟩
    · exact absurd hfull (hno id)
    · have hid : d.id = id :=
        Option.some_inj.mp (hseen.discover.symm.trans (discoverFull_admitted hfull).1)
      refine ⟨d, by simp [hd], ?_, hid, hseen.time⟩
      rw [hseen.full, hid]
      exact hfull
  | limited last hlast _ _ hrl =>
    cases hrl.symm.trans ht
    exact h.keep hdated hlast _
  | other _ hrl => exact h.keep hdated (hrl t ht) _

/-- A limiter time of a Discover that found its shard full holds the limiter closed for
    `discoverMinInterval`. -/
theorem limiter_run (cfg : Config) {t : Int} (ht : s.discoverRL.lookup id = some t)
    {es : List Event} (hsoon : ∀ e ∈ es, e.now < t + discoverMinInterval) :
    ∃ t', (Transition.run (next cfg) s es).discoverRL.lookup id = some t' ∧ t ≤ t' := by
  induction es generalizing s t with
  | nil => exact ⟨t, ht, le_rfl⟩
  | cons e es ih =>
    have he := hsoon e (by simp)
    rcases limiter_next cfg e ht with ⟨t', ht', hle⟩ | hold
    · obtain ⟨t'', ht'', hle'⟩ := ih ht' fun x hx => by
        have := hsoon x (by simp [hx])
        omega
      exact ⟨t'', ht'', hle.trans hle'⟩
    · omega

/-- A Discover of an unregistered node that the limiter refuses is answered. -/
theorem retry_replied {d : DiscoverSeen} {t : Int} (ht : s.discoverRL.lookup d.id = some t)
    (hsoon : e.now < t + discoverMinInterval) (hseen : SeenAs cfg s e d)
    (hreg : d.registered = false) (hanswer : d.answerable = true) :
    discoverReplied cfg s e = some d.id ∧ (next cfg s e).nodes.has d.id = false := by
  have hnotfull : d.full = false := by
    rw [← Bool.not_eq_true, hseen.full]
    intro hfull
    have := (limiter_of_discoverFull hfull).2 t ht
    omega
  refine ⟨by rw [hseen.replied, if_pos ⟨hnotfull, hanswer⟩], ?_⟩
  cases discoverEffect cfg d.id s e with
  | stored addr hwrite _ =>
    have := (discover_write_limiter hwrite rfl).2 t ht
    omega
  | full hfull _ _ _ => exact absurd (hseen.full.mpr hfull) (by simp [hnotfull])
  | limited _ _ _ hwrite _ =>
    rw [hseen.registered, NodeMap.has_eq_isSome_endpoint] at hreg
    rw [NodeMap.has_eq_isSome_endpoint, Option.isSome_eq_false_iff, Option.isNone_iff_eq_none]
    cases hafter : (next cfg s e).nodes.endpoint d.id with
    | none => rfl
    | some p =>
      rcases endpoint_next_cases hafter with ⟨hne, -⟩ | ⟨-, hp⟩
      · exact absurd hwrite hne
      · rw [hp] at hreg
        nomatch hreg
  | other hother _ => exact absurd ⟨hseen.discover, hseen.closed⟩ hother

end

/-! ## Runs -/

section

variable {cfg : Config} {peers : List Text} {es : List Event}

theorem limiterAccounted_run (cfg : Config) (peers : List Text) (id : UInt32)
    (hclock : ClockMonotone es) {now : Int} (hnow : ∀ e ∈ es, e.now ≤ now) :
    LimiterAccounted id (discoversSeen cfg peers es) (runFrom cfg peers es) now := by
  have h := clock_induction cfg peers (fun es now s => Dated id s now ∧
    LimiterAccounted id (discoversSeen cfg peers es) s now) ?_ ?_ ?_ hclock hnow
  · exact h.2
  · intro now
    have hdated : Dated id (runFrom cfg peers []) now :=
      dated_run cfg peers id (by exact List.Pairwise.nil) (by simp)
    exact ⟨hdated, fun t ht => by simp [newWithPeers] at ht⟩
  · exact fun es s now now' hle h => ⟨h.1.mono hle, h.2.mono hle⟩
  · intro es e h
    rw [discoversSeen, Transition.observe_concat]
    exact ⟨h.1.next, h.2.next h.1⟩

/-- Discovers remove nothing. -/
theorem has_next_of_discover {s : Server} {e : Event} {id id' : UInt32}
    (hdiscover : discoverFor cfg e = some id') (h : s.nodes.has id = true) :
    (next cfg s e).nodes.has id = true := by
  rw [NodeMap.has_eq_isSome_endpoint] at h ⊢
  obtain ⟨p, hp⟩ := Option.isSome_iff_exists.mp h
  cases hafter : (next cfg s e).nodes.endpoint id with
  | some p' => rfl
  | none =>
    have hreap := (endpoint_lost hp hafter).1
    simp [discoverFor, hreap] at hdiscover

/-- A reply to a node that is not registered comes soon after a Discover of it that found its
    shard full. -/
theorem repliesRegistered_of_apart (hclock : ClockMonotone es)
    (hapart : RetriesApart (discoversSeen cfg peers es)) : RepliesRegistered cfg peers es := by
  rintro pre e post id rfl hreplied
  obtain ⟨hpre, -, hle⟩ := clockMonotone_append.mp hclock
  have hpast : ∀ x ∈ pre, x.now ≤ e.now := fun x hx => hle x hx e (by simp)
  have hacc := limiterAccounted_run cfg peers id hpre hpast
  have hrun : runFrom cfg peers (pre ++ [e]) = next cfg (runFrom cfg peers pre) e :=
    Transition.run_concat _ _ _ _
  rw [hrun]
  rcases discoverSeen_cases cfg (runFrom cfg peers pre) e with ⟨-, hno, -⟩ | ⟨d, hd, hseen⟩
  · nomatch hno.symm.trans hreplied
  · rw [hseen.replied] at hreplied
    split_ifs at hreplied with hanswer
    cases hreplied
    -- not full, so stored or refused by the limiter
    cases discoverEffect cfg d.id (runFrom cfg peers pre) e with
    | stored addr hwrite _ =>
      rw [NodeMap.has_eq_isSome_endpoint, endpoint_next, hwrite]
      rfl
    | full hfull _ _ _ =>
      rw [hseen.full.mpr hfull] at hanswer
      nomatch hanswer.1
    | limited last hlast hrecent _ _ =>
      cases hreg : (runFrom cfg peers pre).nodes.has d.id with
      | true => exact has_next_of_discover hseen.discover hreg
      | false =>
        exfalso
        rcases hacc last hlast with ⟨p, hp, -⟩ | ⟨d₀, hd₀, hfull, hid, htime⟩ | hold
        · rw [NodeMap.has_eq_isSome_endpoint, hp] at hreg
          nomatch hreg
        · -- the earlier Discover and this one are a pair of the run
          rw [RetriesApart, discoversSeen, Transition.observe_append,
            Transition.observe_cons] at hapart
          have hpair := (List.pairwise_append.mp hapart).2.2 d₀ hd₀ d
            (List.mem_append_left _ (by rw [← runFrom, hd]; simp))
          have := hpair hfull hid.symm (hseen.registered.trans hreg) hanswer.2
          rw [htime, hseen.time] at this
          omega
        · have : discoverMinInterval < beaconNodeTTL := by decide
          omega
    | other hother _ => exact absurd ⟨hseen.discover, hseen.closed⟩ hother

/-- A node heard again too soon after it found its shard full gets a reply. -/
theorem apart_of_repliesRegistered (hclock : ClockMonotone es)
    (h : RepliesRegistered cfg peers es) : RetriesApart (discoversSeen cfg peers es) := by
  apply Transition.pairwise_observe
  · intro s e
    rcases discoverSeen_cases cfg s e with ⟨hnone, -⟩ | ⟨d, hd, -⟩
    · simp [hnone]
    · simp [hd]
  · rintro pre e mid e' post rfl d hd d' hd' hfull hid hreg hanswer
    by_contra hsoon
    have hseen : SeenAs cfg (runFrom cfg peers pre) e d := seenAs_of_mem hd
    have hseen' : SeenAs cfg (runFrom cfg peers (pre ++ e :: mid)) e' d' := seenAs_of_mem hd'
    rw [hseen.time, hseen'.time] at hsoon
    -- the limiter remembers the first one until the second one comes
    have hafter := (limiter_of_discoverFull (hseen.full.mp hfull)).1
    have hclose : ∀ x ∈ mid, x.now < e.now + discoverMinInterval := by
      intro x hx
      have hsplit : ClockMonotone ((pre ++ e :: mid) ++ e' :: post) := by simpa using hclock
      have := (clockMonotone_append.mp hsplit).2.2 x (by simp [hx]) e' (by simp)
      omega
    obtain ⟨t, ht, hle⟩ := limiter_run cfg hafter hclose
    have hmid : Transition.run (next cfg) (next cfg (runFrom cfg peers pre) e) mid =
        runFrom cfg peers (pre ++ e :: mid) := by
      rw [runFrom, runFrom, Transition.run_append, Transition.run_cons]
    rw [hmid, ← hid] at ht
    obtain ⟨hreplied, hno⟩ := retry_replied ht (by omega) hseen' hreg hanswer
    have hyes := h (pre ++ e :: mid) e' post d'.id (by simp) hreplied
    rw [runFrom, Transition.run_concat] at hyes
    exact Bool.false_ne_true (hno.symm.trans hyes)

/-- **When a reply means registered.** In a run whose clock does not go back, a node is registered
    whenever a DiscoverReply is sent for it exactly if no node that found its shard full and is not
    registered is heard again within `discoverMinInterval`. -/
theorem repliesRegistered_iff (cfg : Config) (peers : List Text) (es : List Event)
    (hclock : ClockMonotone es) :
    RepliesRegistered cfg peers es ↔ RetriesApart (discoversSeen cfg peers es) :=
  ⟨apart_of_repliesRegistered hclock, repliesRegistered_of_apart hclock⟩

end

/-- A node whose Discovers come faster than its endpoint is updated. -/
def chattyNode : List Event :=
  nodeSeven ++ [sampleDatagram (2 * second) (sampleAddr 10 0 0 2 4000) [0x01, 0, 0, 0, 7]]

theorem chattyNode_registered : RepliesRegistered sampleConfig [] chattyNode :=
  (repliesRegistered_iff sampleConfig [] chattyNode (by decide)).mpr (by decide +kernel)

/-! ## A full shard -/

/-- The socket is bound and the first `k` nodes of the first shard register. -/
def oneShard (k : Nat) : List Event :=
  ⟨0, .listen (sampleAddr 0 0 0 0 9001)⟩ :: (List.range k).map fun i => crowdDiscover (64 * i)

/-- The first shard holds `k` nodes; no later one was ever seen. -/
structure Filled (k : Nat) (s : Server) : Prop where
  conn : s.conn.isSome = true
  size : (s.nodes.shards (shardFor 0)).size = k
  unregistered : ∀ id : UInt32, 64 * k ≤ id.toNat → s.nodes.lookup id = none
  fresh : ∀ id : UInt32, 64 * k ≤ id.toNat → s.discoverRL.lookup id = none

theorem toNat_ofNat_shard {k : Nat} (hk : k ≤ 7812) : (UInt32.ofNat (64 * k)).toNat = 64 * k := by
  rw [UInt32.toNat_ofNat']
  exact Nat.mod_eq_of_lt (by omega)

theorem shardFor_ofNat_shard {k : Nat} (hk : k ≤ 7812) :
    shardFor (UInt32.ofNat (64 * k)) = shardFor 0 := by
  apply Fin.ext
  rw [shardFor_val, toNat_ofNat_shard hk]
  exact Nat.mul_mod_right 64 k

theorem Filled.step {k : Nat} {s : Server} (h : Filled k s) (hk : k < 7812) :
    Filled (k + 1) (next crowdConfig s (crowdDiscover (64 * k))) := by
  have hval := toNat_ofNat_shard hk.le
  have hnew := h.unregistered _ hval.ge
  have hcap : maxBeaconNodes / nodeShardCount = 7812 := by decide
  have hroom : s.nodes.upsert (UInt32.ofNat (64 * k)) (sampleAddr 10 0 0 1 4000) 0 maxBeaconNodes =
      ⟨s.nodes.insert (UInt32.ofNat (64 * k)) ⟨sampleAddr 10 0 0 1 4000, 0, none⟩, true,
        false⟩ := by
    unfold NodeMap.upsert
    rw [hnew]
    dsimp only
    rw [if_neg]
    rintro ⟨-, hfull⟩
    rw [hcap, shardFor_ofNat_shard hk.le, h.size] at hfull
    omega
  have hne : ∀ id : UInt32, 64 * (k + 1) ≤ id.toNat → id ≠ UInt32.ofNat (64 * k) := by
    rintro id hid rfl
    omega
  rw [next_crowdDiscover (h.fresh _ hval.ge), hroom]
  constructor
  · exact h.conn
  · rw [ShardedMap.size_shards_insert, shardFor_ofNat_shard hk.le, hnew, h.size]
    rfl
  · intro id hid
    rw [ShardedMap.lookup_insert_of_ne _ _ (hne id hid)]
    exact h.unregistered id (by omega)
  · intro id hid
    rw [ShardedMap.lookup_insert_of_ne _ _ (hne id hid)]
    exact h.fresh id (by omega)

theorem filled {k : Nat} (hk : k ≤ 7812) : Filled k (runFrom crowdConfig [] (oneShard k)) := by
  induction k with
  | zero => exact ⟨rfl, rfl, fun _ _ => rfl, fun _ _ => rfl⟩
  | succ k ih =>
    have hrun : oneShard (k + 1) = oneShard k ++ [crowdDiscover (64 * k)] := by
      simp [oneShard, List.range_succ]
    rw [runFrom, hrun, Transition.run_concat]
    exact (ih (by omega)).step (by omega)

/-- With the shard full, the next node of it is not registered. -/
theorem Filled.refused {s : Server} (h : Filled 7812 s) :
    next crowdConfig s (crowdDiscover (64 * 7812)) =
      { s with discoverRL := s.discoverRL.insert (UInt32.ofNat (64 * 7812)) 0 } := by
  have hval := toNat_ofNat_shard (le_refl 7812)
  rw [next_crowdDiscover (h.fresh _ hval.ge)]
  unfold NodeMap.upsert
  rw [h.unregistered _ hval.ge]
  dsimp only
  rw [if_pos]
  rw [shardFor_ofNat_shard le_rfl, h.size]
  decide

/-- Node `i` tries again after a second. -/
def crowdRetry (i : Nat) : Event := { crowdDiscover i with now := second }

theorem discoverFor_crowdRetry (i : Nat) :
    discoverFor crowdConfig (crowdRetry i) = some (UInt32.ofNat i) := by
  have hbody : BigEndian.uint32 (BigEndian.putUint32 (UInt32.ofNat i)) = UInt32.ofNat i := by
    simpa using BigEndian.uint32_putUint32_append (UInt32.ofNat i) []
  exact congrArg some hbody

/-- A bound socket can answer it. -/
theorem seenAs_crowdRetry {s : Server} (hconn : s.conn.isSome = true) (i : Nat) :
    ∃ d, SeenAs crowdConfig s (crowdRetry i) d ∧ d.id = UInt32.ofNat i ∧ d.answerable = true := by
  have hreply : s.discoverReply crowdConfig (sampleAddr 10 0 0 1 4000) ≠ [] := by
    unfold Server.discoverReply Server.writeToUDP
    rw [hconn]
    exact List.cons_ne_nil _ _
  rcases discoverSeen_cases crowdConfig s (crowdRetry i) with ⟨hnone, -⟩ | ⟨d, hd, hseen⟩
  · nomatch hnone
  · refine ⟨d, hseen, ?_, ?_⟩
    · exact Option.some_inj.mp (hseen.discover.symm.trans (discoverFor_crowdRetry i))
    · cases hd
      simpa using hreply

/-- It is told its address, and is not registered. -/
theorem Filled.retry_replied {s s' : Server} (h : Filled 7812 s)
    (hs' : s' = next crowdConfig s (crowdDiscover (64 * 7812))) :
    discoverReplied crowdConfig s' (crowdRetry (64 * 7812)) = some (UInt32.ofNat (64 * 7812)) ∧
      (next crowdConfig s' (crowdRetry (64 * 7812))).nodes.has (UInt32.ofNat (64 * 7812)) =
        false := by
  rw [h.refused] at hs'
  have hconn : s'.conn.isSome = true := hs' ▸ h.conn
  have hrl : s'.discoverRL.lookup (UInt32.ofNat (64 * 7812)) = some 0 :=
    hs' ▸ ShardedMap.lookup_insert_self _ _ _
  have hnone : s'.nodes.lookup (UInt32.ofNat (64 * 7812)) = none :=
    hs' ▸ h.unregistered _ (toNat_ofNat_shard (le_refl 7812)).ge
  obtain ⟨d, hseen, hid, hanswer⟩ := seenAs_crowdRetry hconn (64 * 7812)
  rw [← hid] at hrl hnone ⊢
  have hreg : d.registered = false := by
    rw [hseen.registered, NodeMap.has, hnone]
    rfl
  exact PilotBeacon.retry_replied hrl (by decide) hseen hreg hanswer

/-- One more node of the shard registers, and tries again. -/
def retriedShard (k : Nat) : List Event :=
  oneShard k ++ [crowdDiscover (64 * k), crowdRetry (64 * k)]

theorem clockMonotone_retriedShard (k : Nat) : ClockMonotone (retriedShard k) := by
  have htimes : (retriedShard k).map Event.now = List.replicate (k + 1) 0 ++ [0, second] := by
    simp [retriedShard, oneShard, crowdDiscover, crowdRetry, sampleDatagram, Function.comp_def,
      List.replicate_succ]
  rw [ClockMonotone, htimes, List.pairwise_append]
  refine ⟨by simp [List.pairwise_replicate], by decide, ?_⟩
  intro a ha b hb
  rw [List.eq_of_mem_replicate ha]
  revert b
  decide

/-- **A reply without registration**: the 7813th node of a shard is not registered, and when it
    tries again a second later it is told its address all the same. -/
theorem fullShard_replies :
    ClockMonotone (retriedShard 7812) ∧ ¬ RepliesRegistered crowdConfig [] (retriedShard 7812) := by
  refine ⟨clockMonotone_retriedShard 7812, fun h => ?_⟩
  have hrun : runFrom crowdConfig [] (oneShard 7812 ++ [crowdDiscover (64 * 7812)]) =
      next crowdConfig (runFrom crowdConfig [] (oneShard 7812)) (crowdDiscover (64 * 7812)) :=
    Transition.run_concat _ _ _ _
  obtain ⟨hreplied, hno⟩ := (filled (le_refl 7812)).retry_replied hrun
  have hyes := h _ (crowdRetry (64 * 7812)) [] _
    (by rw [retriedShard, List.append_assoc, List.singleton_append]) hreplied
  rw [runFrom, Transition.run_concat] at hyes
  exact Bool.false_ne_true (hno.symm.trans hyes)

end PilotBeacon
