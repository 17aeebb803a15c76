import PilotBeacon.Server.RelayOrder
import PilotBeacon.Server.WorkerOutcome

/-!
# Output Buffers Are Large Enough

A worker slices its output buffer to the length of header and payload, which panics if the
buffer is too small. The buffers come from a pool that anybody may fill, and payloads from a
queue; both are bounded in every reachable state, so no job panics.

- `BuffersSized`: output buffers have a capacity that new ones have, kept by every event
- `BuffersFit`: the case of a capacity that is large enough
- `jobOutcome_ne_panics`, `taken_ne_panics`: what it is for
-/

namespace PilotBeacon

open PilotBeacon.Lib PilotBeacon.Net

namespace Server

/-- Output buffers can hold any queued payload with any header. -/
structure BuffersFit (s : Server) : Prop where
  free : ∀ b ∈ s.outBufPool.free, maxRelayPayload + 9 ≤ b.cap
  lent : ∀ i, ∀ b ∈ (s.workers i).outBufsToReturn, maxRelayPayload + 9 ≤ b.cap
  queued : ∀ i, ∀ job ∈ s.relayChs i, job.payload.data.length ≤ maxRelayPayload

/-- The capacity of every output buffer, in the pool or in a batch, is one of those `ok` allows;
    queued payloads are no longer than they may be. -/
structure BuffersSized (ok : Nat → Prop) (s : Server) : Prop where
  free : ∀ b ∈ s.outBufPool.free, ok b.cap
  lent : ∀ i, ∀ b ∈ (s.workers i).outBufsToReturn, ok b.cap
  queued : ∀ i, ∀ job ∈ s.relayChs i, job.payload.data.length ≤ maxRelayPayload

theorem buffersFit_iff {s : Server} :
    BuffersFit s ↔ BuffersSized (fun cap => maxRelayPayload + 9 ≤ cap) s :=
  ⟨fun h => ⟨h.free, h.lent, h.queued⟩, fun h => ⟨h.free, h.lent, h.queued⟩⟩

section

variable {cfg : Config} {env : JobEnv} {o : FlushOutcome} {s : Server} {i : Nat} {job : RelayJob}
  {ok : Nat → Prop}

theorem length_header {route : Route} {addr : UDPAddr} {header : Bytes}
    (h : route.header cfg job = some (addr, header)) : header.length ≤ 9 := by
  cases route with
  | localNode a wantDest =>
    cases wantDest <;> cases h <;> simp [deliverHeader, deliverDestHeader,
      BigEndian.length_putUint32]
  | peer a =>
    cases h
    simp [relayHeader, BigEndian.length_putUint32]
  | unknown => cases h

theorem BuffersSized.jobBuffer (h : BuffersSized ok s) (hnew : ok (maxRelayPayload + 9))
    (env : JobEnv) : ok (s.jobBuffer env).cap := by
  unfold Server.jobBuffer Pool.get
  split
  · rename_i b hb
    exact h.free b (List.mem_of_getElem? hb)
  · exact hnew

/-- A queued job does not panic. -/
theorem jobOutcome_ne_panics (h : BuffersFit s)
    (hsize : job.payload.data.length ≤ maxRelayPayload) :
    jobOutcome cfg env s job ≠ .panics := by
  have hbuf := (buffersFit_iff.mp h).jobBuffer (Nat.le_refl _) env
  have hfit : ∀ header : Bytes, header.length ≤ 9 →
      outSlice (s.jobBuffer env) header job.payload.data =
        some ⟨s.jobBuffer env, header ++ job.payload.data⟩ := by
    intro header hlen
    rw [outSlice, if_pos (by rw [List.length_append]; omega)]
  unfold jobOutcome
  by_cases hwss : (cfg.wssBridge && env.wssConnected) = true
  · rw [if_pos hwss, hfit _ (by simp [deliverHeader, BigEndian.length_putUint32])]
    cases env.wssWrite <;> simp
  · rw [if_neg hwss]
    cases hheader : (s.route job.destID).header cfg job with
    | none => simp
    | some p =>
      dsimp only
      rw [hfit p.2 (length_header hheader)]
      simp

theorem taken_ne_panics (cfg : Config) (h : BuffersFit s) (i : Nat) (ev : WorkerEvent)
    (job : RelayJob) : s.taken cfg i ev ≠ some (job, .panics) := by
  intro htaken
  obtain ⟨env, o, rest, -, hq, hj⟩ := taken_eq_some htaken
  have hmem : job ∈ s.relayChs i := by
    rw [hq]
    exact List.mem_cons_self
  exact jobOutcome_ne_panics h (h.queued i job hmem) hj.symm

/-! ## Worker steps -/

theorem BuffersSized.setWorker (h : BuffersSized ok s) {w : Worker}
    (hw : ∀ b ∈ w.outBufsToReturn, ok b.cap) :
    BuffersSized ok (s.setWorker i w) where
  free := h.free
  lent := by
    intro j b hb
    by_cases hj : j = i
    · subst hj
      simp only [Server.setWorker, Function.update_self] at hb
      exact hw b hb
    · simp only [Server.setWorker, Function.update_of_ne hj] at hb
      exact h.lent j b hb
  queued := h.queued

theorem BuffersSized.workerPanic (h : BuffersSized ok s) : BuffersSized ok (s.workerPanic i) :=
  h.setWorker nofun

theorem BuffersSized.finishFlush (h : BuffersSized ok s) (sent : Nat) :
    BuffersSized ok (s.finishFlush i sent) where
  free := by
    -- the buffers of the batch go back to the pool
    intro b hb
    rcases Pool.mem_free_foldl_put hb with hb | hb
    · exact h.lent i b hb
    · exact h.free b hb
  lent := (h.setWorker (i := i)
    (w := { s.workers i with msgs := [], payloadsToReturn := [], outBufsToReturn := [] })
    nofun).lent
  queued := h.queued

theorem BuffersSized.flush (h : BuffersSized ok s) : BuffersSized ok (flush o s i).1 := by
  unfold Server.flush
  dsimp only
  split_ifs
  · exact h
  · exact h.finishFlush _
  · exact h.workerPanic
  · exact h.finishFlush _

theorem BuffersSized.addMessage (h : BuffersSized ok s) {m : Message}
    (hm : ok m.buffer.buf.cap) (payload : Buf) :
    BuffersSized ok (addMessage o s i m payload).1 := by
  have hbufs : ∀ b ∈ (s.workers i).outBufsToReturn ++ [m.buffer.buf],
      ok b.cap := by
    intro b hb
    rcases List.mem_append.mp hb with hb | hb
    · exact h.lent i b hb
    · rw [List.mem_singleton.mp hb]
      exact hm
  unfold Server.addMessage
  dsimp only
  split_ifs
  · exact (h.setWorker hbufs).flush
  · exact h.setWorker hbufs

theorem BuffersSized.releaseJob (h : BuffersSized ok s) {obp : Buf} (hobp : ok obp.cap)
    (job : RelayJob) : BuffersSized ok (releaseJob s job obp) where
  free := by
    intro b hb
    rcases List.mem_cons.mp hb with rfl | hb
    · exact hobp
    · exact h.free b hb
  lent := h.lent
  queued := h.queued

theorem BuffersSized.handleJob (hnew : ok (maxRelayPayload + 9)) (h : BuffersSized ok s) :
    BuffersSized ok (handleJob cfg env o s i job).1 := by
  have hget : BuffersSized ok
      { s with outBufPool := (s.outBufPool.get env.outPick (maxRelayPayload + 9)).2 } :=
    ⟨fun b hb => h.free b (Pool.mem_free_get hb), h.lent, h.queued⟩
  have hbuf := h.jobBuffer hnew env
  rw [handleJob_eq]
  dsimp only
  cases hj : jobOutcome cfg env s job with
  | written frame =>
    apply BuffersSized.releaseJob _ hbuf
    exact ⟨hget.free, hget.lent, hget.queued⟩
  | discarded =>
    apply BuffersSized.releaseJob _ hbuf
    exact ⟨hget.free, hget.lent, hget.queued⟩
  | batched m =>
    apply hget.addMessage
    rw [(jobOutcome_batched hj).2.2]
    exact hbuf
  | panics => exact hget.workerPanic

theorem BuffersSized.workerStep (hnew : ok (maxRelayPayload + 9)) (h : BuffersSized ok s)
    (ev : WorkerEvent) :
    BuffersSized ok (workerStep cfg s i ev).1 := by
  unfold Server.workerStep
  by_cases hoff : (s.conn.isNone || (s.workers i).stopped) = true
  · rw [if_pos hoff]
    exact h
  · rw [if_neg hoff]
    cases ev with
    | job env o =>
      cases hq : s.relayChs i with
      | nil => exact h
      | cons job rest =>
        -- taking a job off its queue leaves those that were queued
        apply BuffersSized.handleJob hnew
        refine ⟨h.free, h.lent, ?_⟩
        intro j job' hjob
        by_cases hj : j = i
        · subst hj
          simp only [Function.update_self] at hjob
          exact h.queued j job' (by rw [hq]; exact List.mem_cons_of_mem _ hjob)
        · simp only [Function.update_of_ne hj] at hjob
          exact h.queued j job' hjob
    | timer o =>
      dsimp only
      split_ifs
      · apply BuffersSized.flush
        exact h.setWorker (h.lent i)
      · exact h
    | done o =>
      dsimp only
      split_ifs
      · apply BuffersSized.setWorker h.flush
        exact h.flush.lent i
      · exact h

end

end Server

/-! ## Runs -/

theorem buffersSized_next {cfg : Config} {s : Server} {ok : Nat → Prop}
    (hnew : ok (maxRelayPayload + 9)) (e : RelayEvent) (h : Server.BuffersSized ok s) :
    Server.BuffersSized ok (relayNext cfg s e) := by
  rcases relayNext_cases cfg s e with
    ⟨now, i, ev, rfl⟩ | ⟨now, env, data, remote, bridgePeer, body, -, -, hnext⟩ | ⟨-, -, -, hsame⟩
  · exact h.workerStep hnew ev
  · rw [hnext]
    have haccount := Server.dispatchRelay_account cfg env now s body
      (relaySource remote bridgePeer)
    obtain ⟨_, _, _, _, _, hframe, -⟩ := Server.dispatchRelay_frame cfg env now s body
      (relaySource remote bridgePeer)
    refine ⟨by rw [hframe]; exact h.free, by rw [hframe]; exact h.lent, ?_⟩
    intro j job hjob
    by_cases hfate : (s.dispatchRelay cfg env now body (relaySource remote bridgePeer)).2 = .queued
    · -- a queued payload passed the size check
      obtain ⟨hsize, buf, hchs⟩ := haccount.queued hfate
      rw [hchs] at hjob
      by_cases hj : j = relayQueueFor cfg (BigEndian.uint32 (body.drop 4))
      · subst hj
        rw [Function.update_self] at hjob
        rcases List.mem_append.mp hjob with hjob | hjob
        · exact h.queued _ job hjob
        · rw [List.mem_singleton.mp hjob]
          exact hsize
      · rw [Function.update_of_ne hj] at hjob
        exact h.queued j job hjob
    · rw [haccount.other hfate] at hjob
      exact h.queued j job hjob
  · exact ⟨by rw [hsame.outBufPool]; exact h.free, by rw [hsame.workers]; exact h.lent,
      by rw [hsame.relayChs]; exact h.queued⟩

theorem buffersFit_next {cfg : Config} {s : Server} (e : RelayEvent) (h : Server.BuffersFit s) :
    Server.BuffersFit (relayNext cfg s e) :=
  Server.buffersFit_iff.mpr (buffersSized_next (Nat.le_refl _) e (Server.buffersFit_iff.mp h))

/-- **The capacity of output buffers.** Whatever holds of the capacity of a new one holds of all
    of them, after every run. -/
theorem buffersSized_run (cfg : Config) (peers : List Text) {ok : Nat → Prop}
    (hnew : ok (maxRelayPayload + 9)) (es : List RelayEvent) :
    Server.BuffersSized ok (Transition.run (relayNext cfg) (newWithPeers cfg peers) es) :=
  Transition.run_invariant (relayNext cfg) (Server.BuffersSized ok)
    ⟨fun _ hb => absurd hb List.not_mem_nil, fun _ _ hb => absurd hb List.not_mem_nil,
      fun _ _ hjob => absurd hjob List.not_mem_nil⟩
    (fun _ e => buffersSized_next hnew e) es

/-- **No job ever panics.** -/
theorem buffersFit_run (cfg : Config) (peers : List Text) (es : List RelayEvent) :
    Server.BuffersFit (Transition.run (relayNext cfg) (newWithPeers cfg peers) es) :=
  Server.buffersFit_iff.mpr (buffersSized_run cfg peers (Nat.le_refl _) es)

end PilotBeacon
