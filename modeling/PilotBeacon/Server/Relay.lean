import PilotBeacon.Server.Discover

/-!
# Relay Dispatch (`dispatchRelay`, `relayQueueFor`)

A Relay frame `[sender(4)][dest(4)][payload…]` is put on the queue of the worker its
destination selects, unless it is too short, the breaker is open, nobody knows the
destination, its origin is over budget, its payload is oversize or the queue is full.
`RelayFate` names the outcome; the code only counts some of them.
-/

namespace PilotBeacon

open PilotBeacon.Lib PilotBeacon.Net

/-- What became of a dispatched frame. -/
inductive RelayFate where
  | short
  | breaker
  | notFound
  | limited
  | oversize
  | queueFull
  | queued
deriving DecidableEq

/-- The capacity of each relay queue. -/
def relayQueueCap (cfg : Config) : Nat := max 1 (relayQueueSize / cfg.relayWorkerCount)

/-- The queue, and with it the worker, that carries packets for `destID`. -/
def relayQueueFor (cfg : Config) (destID : UInt32) : Nat := destID.toNat % cfg.relayWorkerCount

/-- A pooled buffer of at least `len` bytes; a pooled one that is too small is given up. -/
def Pool.getPayload (p : Pool) (pick len : Nat) : Buf × Pool :=
  let (b, p) := p.get pick 1500
  if b.cap < len then p.make len else (b, p)

namespace Server

/-- The pre-check of the read loop: local table, peer routes, WSS connections. -/
def relayKnown (cfg : Config) (env : Env) (s : Server) (destID : UInt32) : Bool :=
  (s.nodes.get destID).isSome || (s.peerNodes.lookup destID).isSome ||
    (cfg.wssBridge && env.wssConnected destID)

/-- The non-blocking channel send at the end of `dispatchRelay`. -/
def enqueueRelay (cfg : Config) (s : Server) (job : RelayJob) : Server × RelayFate :=
  let i := relayQueueFor cfg job.destID
  if (s.relayChs i).length < relayQueueCap cfg then
    ({ s with relayChs := Function.update s.relayChs i (s.relayChs i ++ [job]) }, .queued)
  else
    -- queue full: the packet is dropped and counted, its buffer returned
    ({ s with relayDropped := s.relayDropped + 1, pool := s.pool.put job.payload.buf }, .queueFull)

/-- What follows the limiter: the size check and the copy into a pooled buffer. -/
def queueRelay (cfg : Config) (env : Env) (s : Server) (data : Bytes) : Server × RelayFate :=
  let payload := data.drop 8
  if maxRelayPayload < payload.length then (s, .oversize)
  else
    let (buf, pool) := s.pool.getPayload env.poolPick payload.length
    enqueueRelay cfg { s with pool := pool }
      ⟨BigEndian.uint32 data, BigEndian.uint32 (data.drop 4), ⟨buf, payload⟩⟩

def dispatchRelay (cfg : Config) (env : Env) (now : Int) (s : Server) (data : Bytes)
    (src : RelaySourceKey) : Server × RelayFate :=
  if data.length < 8 then (s, .short)
  else if env.breakerOpen .relay then ({ s with relayDropped := s.relayDropped + 1 }, .breaker)
  -- an unknown destination is dropped before the limiter is charged
  else if !s.relayKnown cfg env (BigEndian.uint32 (data.drop 4)) then
    ({ s with relayNotFound := s.relayNotFound + 1 }, .notFound)
  else
    let (allowed, rl) := s.relayRL.allow src now maxRelaysPerSourcePerSecond
    let s := { s with relayRL := rl }
    -- over budget: dropped without being counted
    if !allowed then (s, .limited) else s.queueRelay cfg env data

/-! ## What a dispatch does -/

section

variable {cfg : Config} {env : Env} {now : Int} {s : Server} {data : Bytes} {src : RelaySourceKey}

/-- The frame reaches the limiter: long enough, breaker closed, destination known. -/
def relayRoutable (cfg : Config) (env : Env) (s : Server) (data : Bytes) : Bool :=
  !decide (data.length < 8) && !env.breakerOpen .relay &&
    s.relayKnown cfg env (BigEndian.uint32 (data.drop 4))

/-- A frame that does not reach the limiter is at most counted. -/
theorem dispatchRelay_of_not_routable (now : Int) (src : RelaySourceKey)
    (h : relayRoutable cfg env s data = false) :
    ∃ dropped notFound, (dispatchRelay cfg env now s data src).1 =
        { s with relayDropped := dropped, relayNotFound := notFound } ∧
      (dispatchRelay cfg env now s data src).2 ∈ [RelayFate.short, .breaker, .notFound] := by
  unfold dispatchRelay
  split_ifs with hlen hopen hknown
  · exact ⟨_, _, rfl, by simp⟩
  · exact ⟨_, _, rfl, by simp⟩
  · exact ⟨_, _, rfl, by simp⟩
  · simp [relayRoutable, hlen, hopen] at h
    simp [h] at hknown

/-- A routable frame is the limiter's to decide. -/
theorem dispatchRelay_of_routable (h : relayRoutable cfg env s data = true) :
    dispatchRelay cfg env now s data src =
      if (s.relayRL.allow src now maxRelaysPerSourcePerSecond).1 then
        queueRelay cfg env
          { s with relayRL := (s.relayRL.allow src now maxRelaysPerSourcePerSecond).2 } data
      else
        ({ s with relayRL := (s.relayRL.allow src now maxRelaysPerSourcePerSecond).2 },
          .limited) := by
  simp only [relayRoutable, Bool.and_eq_true, Bool.not_eq_true', decide_eq_false_iff_not] at h
  unfold dispatchRelay
  rw [if_neg h.1.1, if_neg (by simp [h.1.2]), if_neg (by simp [h.2])]
  dsimp only
  cases (s.relayRL.allow src now maxRelaysPerSourcePerSecond).1 <;> rfl

/-- Queueing touches the queues, the payload pool and the drop counter only, and of the
    queues at most the destination's, by appending the frame. -/
theorem queueRelay_frame (cfg : Config) (env : Env) (s : Server) (data : Bytes) :
    ∃ chs pool dropped,
      (queueRelay cfg env s data).1 =
        { s with relayChs := chs, pool := pool, relayDropped := dropped } ∧
      (queueRelay cfg env s data).2 ∈ [RelayFate.oversize, .queueFull, .queued] ∧
      (chs = s.relayChs ∨ ∃ buf,
        chs = Function.update s.relayChs (relayQueueFor cfg (BigEndian.uint32 (data.drop 4)))
          (s.relayChs (relayQueueFor cfg (BigEndian.uint32 (data.drop 4))) ++
            [⟨BigEndian.uint32 data, BigEndian.uint32 (data.drop 4), ⟨buf, data.drop 8⟩⟩])) := by
  unfold queueRelay
  dsimp only
  split_ifs with hbig
  · exact ⟨_, _, _, rfl, by simp, Or.inl rfl⟩
  · unfold enqueueRelay
    dsimp only
    split_ifs
    · exact ⟨_, _, _, rfl, by simp, Or.inr ⟨_, rfl⟩⟩
    · exact ⟨_, _, _, rfl, by simp, Or.inl rfl⟩

/-- A frame of admissible size is queued if there is room. -/
theorem queueRelay_of_room (cfg : Config) (env : Env) (s : Server) (data : Bytes)
    (hsize : (data.drop 8).length ≤ maxRelayPayload)
    (hroom : (s.relayChs (relayQueueFor cfg (BigEndian.uint32 (data.drop 4)))).length <
      relayQueueCap cfg) :
    ∃ buf pool, queueRelay cfg env s data =
      ({ s with
          pool := pool
          relayChs := Function.update s.relayChs
            (relayQueueFor cfg (BigEndian.uint32 (data.drop 4)))
            (s.relayChs (relayQueueFor cfg (BigEndian.uint32 (data.drop 4))) ++
              [⟨BigEndian.uint32 data, BigEndian.uint32 (data.drop 4), ⟨buf, data.drop 8⟩⟩]) },
        .queued) := by
  refine ⟨(s.pool.getPayload env.poolPick (data.drop 8).length).1,
    (s.pool.getPayload env.poolPick (data.drop 8).length).2, ?_⟩
  unfold queueRelay enqueueRelay
  dsimp only
  rw [if_neg (by omega), if_pos hroom]

/-- The limiter is asked exactly about the routable frames. -/
theorem dispatchRelay_relayRL : (dispatchRelay cfg env now s data src).1.relayRL =
    if relayRoutable cfg env s data then
      (s.relayRL.allow src now maxRelaysPerSourcePerSecond).2 else s.relayRL := by
  cases h : relayRoutable cfg env s data with
  | false =>
    obtain ⟨_, _, hst, _⟩ := dispatchRelay_of_not_routable now src h
    rw [hst]; rfl
  | true =>
    rw [dispatchRelay_of_routable h, if_pos rfl]
    split_ifs
    · obtain ⟨_, _, _, hst, _⟩ := queueRelay_frame cfg env
        { s with relayRL := (s.relayRL.allow src now maxRelaysPerSourcePerSecond).2 } data
      rw [hst]
    · rfl

/-- A frame is refused by the limiter exactly if it is routable and its origin over budget. -/
theorem dispatchRelay_limited : (dispatchRelay cfg env now s data src).2 = .limited ↔
    relayRoutable cfg env s data = true ∧
      (s.relayRL.allow src now maxRelaysPerSourcePerSecond).1 = false := by
  cases h : relayRoutable cfg env s data with
  | false =>
    obtain ⟨_, _, _, hfate⟩ := dispatchRelay_of_not_routable now src h
    simp only [Bool.false_eq_true, false_and, iff_false]
    intro hlim
    simp [hlim] at hfate
  | true =>
    rw [dispatchRelay_of_routable h]
    split_ifs with hallow
    · obtain ⟨_, _, _, _, hfate, _⟩ := queueRelay_frame cfg env
        { s with relayRL := (s.relayRL.allow src now maxRelaysPerSourcePerSecond).2 } data
      -- past the limiter a frame has one of the later fates
      simp only [hallow, Bool.true_eq_false, and_false, iff_false]
      intro hlim
      simp [hlim] at hfate
    · simpa using hallow

/-- It passes the limiter exactly if it is routable and its origin within budget. -/
theorem dispatchRelay_passed :
    (dispatchRelay cfg env now s data src).2 ∈ [RelayFate.oversize, .queueFull, .queued] ↔
      relayRoutable cfg env s data = true ∧
        (s.relayRL.allow src now maxRelaysPerSourcePerSecond).1 = true := by
  cases h : relayRoutable cfg env s data with
  | false =>
    obtain ⟨_, _, _, hfate⟩ := dispatchRelay_of_not_routable now src h
    simp only [List.mem_cons, List.not_mem_nil, or_false] at hfate
    rcases hfate with hfate | hfate | hfate <;> simp [hfate]
  | true =>
    rw [dispatchRelay_of_routable h]
    split_ifs with hallow
    · obtain ⟨_, _, _, _, hfate, _⟩ := queueRelay_frame cfg env
        { s with relayRL := (s.relayRL.allow src now maxRelaysPerSourcePerSecond).2 } data
      exact ⟨fun _ => ⟨rfl, hallow⟩, fun _ => hfate⟩
    · simp [hallow]

/-- A dispatch touches the queues, the limiter, the payload pool and the counters only, and
    of the queues at most the destination's, by appending the frame. -/
theorem dispatchRelay_frame (cfg : Config) (env : Env) (now : Int) (s : Server) (data : Bytes)
    (src : RelaySourceKey) :
    ∃ chs rl pool dropped notFound,
      (dispatchRelay cfg env now s data src).1 =
        { s with relayChs := chs, relayRL := rl, pool := pool, relayDropped := dropped,
                 relayNotFound := notFound } ∧
      (chs = s.relayChs ∨ ∃ buf, 8 ≤ data.length ∧
        chs = Function.update s.relayChs (relayQueueFor cfg (BigEndian.uint32 (data.drop 4)))
          (s.relayChs (relayQueueFor cfg (BigEndian.uint32 (data.drop 4))) ++
            [⟨BigEndian.uint32 data, BigEndian.uint32 (data.drop 4), ⟨buf, data.drop 8⟩⟩])) := by
  cases h : relayRoutable cfg env s data with
  | false =>
    obtain ⟨_, _, hst, _⟩ := dispatchRelay_of_not_routable now src h
    exact ⟨_, _, _, _, _, hst, Or.inl rfl⟩
  | true =>
    have hlen : 8 ≤ data.length := by
      simp only [relayRoutable, Bool.and_eq_true, Bool.not_eq_true',
        decide_eq_false_iff_not] at h
      omega
    rw [dispatchRelay_of_routable h]
    split_ifs
    · obtain ⟨chs, pool, dropped, hst, _, hchs⟩ := queueRelay_frame cfg env
        { s with relayRL := (s.relayRL.allow src now maxRelaysPerSourcePerSecond).2 } data
      refine ⟨chs, _, pool, dropped, _, hst, hchs.imp_right ?_⟩
      rintro ⟨buf, hbuf⟩
      exact ⟨buf, hlen, hbuf⟩
    · exact ⟨_, _, _, _, _, rfl, Or.inl rfl⟩

/-- The new state and the fate agree: what was counted, and whether the frame was queued. -/
structure DispatchAccount (cfg : Config) (s : Server) (data : Bytes) (r : Server × RelayFate) :
    Prop where
  dropped : r.1.relayDropped =
    s.relayDropped + if r.2 = .breaker ∨ r.2 = .queueFull then 1 else 0
  notFound : r.1.relayNotFound = s.relayNotFound + if r.2 = .notFound then 1 else 0
  short : r.2 = .short ↔ data.length < 8
  queued : r.2 = .queued → (data.drop 8).length ≤ maxRelayPayload ∧ ∃ buf, r.1.relayChs =
    Function.update s.relayChs (relayQueueFor cfg (BigEndian.uint32 (data.drop 4)))
      (s.relayChs (relayQueueFor cfg (BigEndian.uint32 (data.drop 4))) ++
        [⟨BigEndian.uint32 data, BigEndian.uint32 (data.drop 4), ⟨buf, data.drop 8⟩⟩])
  other : r.2 ≠ .queued → r.1.relayChs = s.relayChs

theorem dispatchRelay_account (cfg : Config) (env : Env) (now : Int) (s : Server) (data : Bytes)
    (src : RelaySourceKey) : DispatchAccount cfg s data (dispatchRelay cfg env now s data src) := by
  unfold dispatchRelay queueRelay enqueueRelay
  dsimp only
  split_ifs with hlen hopen hknown hlimited hbig hroom
  · constructor <;> simp [hlen]
  · constructor <;> simp [hlen]
  · constructor <;> simp [hlen]
  · constructor <;> simp [hlen]
  · constructor <;> simp [hlen]
  · -- queued
    refine ⟨by simp, by simp, by simp [hlen], fun _ => ⟨by omega, _, rfl⟩, fun h => absurd rfl h⟩
  · constructor <;> simp [hlen]

end

end Server

end PilotBeacon
