import PilotBeacon.Server.Beacon

/-!
# Sending a Batch (`flush` of `relayWorkerLoop`)

A flush hands its batch to `WriteBatch` and sends what that left over message by message. One
variable `n` is the count `WriteBatch` returns, then the index the loop over the rest starts at, and
then counts what the loop sends. When the system call fails `WriteBatch` returns -1, and the loop
starts at `msgs[-1]`.

- `sendFrom`: the loop, with its index expressions and the calls it makes
- `flushRun_server`: the flush of the other modules is this one
- `batch_loses_nothing_iff`: nothing is lost exactly if `WriteBatch` returns a count
- `failed_batch_lost`: a frame that is lost with it
-/

namespace PilotBeacon

open PilotBeacon.Lib PilotBeacon.Net

/-! ## The flush, call by call -/

/-- The variable `n`, and the calls of `WriteToUDP` so far, with whether they succeeded. -/
structure SendLog where
  n : Int
  writes : List (Message × Bool)

/-- `msgs[i]`; `none` is a panic. -/
def msgAt (msgs : List Message) (i : Int) : Option Message :=
  if i < 0 then none else msgs[i.toNat]?

/-- `for ; i < len(msgs); i++`, sending one message a round; whether it panics. -/
def sendFrom (writeOk : Nat → Bool) (msgs : List Message) (i : Int) (log : SendLog) :
    SendLog × Bool :=
  if i < msgs.length then
    match msgAt msgs i with
    | none => (log, true)
    | some m =>
      let ok := writeOk i.toNat
      sendFrom writeOk msgs (i + 1)
        ⟨if ok then log.n + 1 else log.n, log.writes ++ [(m, ok)]⟩
  else (log, false)
termination_by (msgs.length - i).toNat

/-- What came of a flush: the state, the calls of `WriteToUDP`, whether it panicked. -/
structure FlushRun where
  server : Server
  writes : List (Message × Bool)
  panicked : Bool

/-- The flush of worker `w`. -/
def flushRun (o : FlushOutcome) (s : Server) (w : Nat) : FlushRun :=
  let msgs := (s.workers w).msgs
  if msgs = [] then ⟨s, [], false⟩
  else
    let (log, panicked) :=
      -- on a dual-stack socket every message is sent by itself, and `n` counts from 0
      if s.sendDualStack then sendFrom o.writeOk msgs 0 ⟨0, []⟩
      else if o.n < msgs.length then sendFrom o.writeOk msgs o.n ⟨o.n, []⟩
      else (⟨o.n, []⟩, false)
    if panicked then ⟨s.workerPanic w, log.writes, true⟩
    else ⟨s.finishFlush w log.n.toNat, log.writes, false⟩

section

variable {writeOk : Nat → Bool} {msgs : List Message} {o : FlushOutcome} {s : Server} {w : Nat}

/-- The messages from `k` on, the one at `k` apart. -/
theorem drop_zipIdx {k : Nat} (hk : k < msgs.length) :
    msgs.zipIdx.drop k = (msgs[k], k) :: msgs.zipIdx.drop (k + 1) := by
  rw [List.drop_eq_getElem_cons (by rwa [List.length_zipIdx]), List.getElem_zipIdx, Nat.zero_add]

/-- From an index within the batch the loop runs to its end, in order. -/
theorem sendFrom_of_nonneg (k : Nat) (log : SendLog) :
    sendFrom writeOk msgs k log =
      (⟨log.n + (writeEach writeOk k msgs).length,
        log.writes ++ (msgs.zipIdx.drop k).map fun p => (p.1, writeOk p.2)⟩, false) := by
  -- on the number of messages left
  induction hleft : msgs.length - k generalizing k log with
  | zero =>
    have hdone : ¬ (k : Int) < msgs.length := by omega
    have hnone : msgs.zipIdx.drop k = [] :=
      List.drop_eq_nil_of_le (by rw [List.length_zipIdx]; omega)
    unfold sendFrom
    rw [if_neg hdone, writeEach, hnone]
    simp
  | succ m ih =>
    have hk : k < msgs.length := by omega
    have hmsg : msgAt msgs k = some msgs[k] := by
      rw [msgAt, if_neg (by omega), Int.toNat_natCast, List.getElem?_eq_getElem hk]
    have hsucc : (k : Int) + 1 = (k + 1 : Nat) := by omega
    have hsent : (writeEach writeOk k msgs).length =
        (if writeOk k = true then 1 else 0) + (writeEach writeOk (k + 1) msgs).length := by
      unfold writeEach
      rw [drop_zipIdx hk, List.filter_cons]
      split_ifs <;> simp
      omega
    unfold sendFrom
    rw [if_pos (by omega), hmsg]
    dsimp only
    rw [hsucc, ih (k + 1) _ (by omega), drop_zipIdx hk, hsent, Int.toNat_natCast]
    cases hok : writeOk k with
    | false => simp [hok]
    | true =>
      simp [hok]
      omega

/-- From a negative one it does not get anywhere. -/
theorem sendFrom_of_neg {i : Int} (hi : i < 0) (log : SendLog) :
    sendFrom writeOk msgs i log = (log, true) := by
  unfold sendFrom
  have hlt : i < msgs.length := by omega
  rw [if_pos hlt, msgAt, if_pos hi]

/-- A flush whose `WriteBatch` returns a count sends the rest. -/
theorem flushRun_of_count (hbatch : (s.workers w).msgs ≠ []) (hipv4 : s.sendDualStack = false)
    {k : Nat} (hn : o.n = k) :
    flushRun o s w =
      ⟨s.finishFlush w (k + (writeEach o.writeOk k (s.workers w).msgs).length),
        ((s.workers w).msgs.zipIdx.drop k).map fun p => (p.1, o.writeOk p.2), false⟩ := by
  unfold flushRun
  dsimp only
  rw [if_neg hbatch, hipv4, if_neg Bool.false_ne_true, hn]
  by_cases hrest : (k : Int) < (s.workers w).msgs.length
  · rw [if_pos hrest, sendFrom_of_nonneg]
    simp only [List.nil_append, Bool.false_eq_true, if_false]
    rw [← Int.natCast_add, Int.toNat_natCast]
  · -- nothing is left
    have hnone : (s.workers w).msgs.zipIdx.drop k = [] :=
      List.drop_eq_nil_of_le (by rw [List.length_zipIdx]; omega)
    rw [if_neg hrest, writeEach, hnone]
    simp

/-- One whose `WriteBatch` fails panics. -/
theorem flushRun_of_failure (hbatch : (s.workers w).msgs ≠ []) (hipv4 : s.sendDualStack = false)
    (hn : o.n < 0) : flushRun o s w = ⟨s.workerPanic w, [], true⟩ := by
  have hrest : o.n < (s.workers w).msgs.length := by omega
  unfold flushRun
  dsimp only
  rw [if_neg hbatch, hipv4, if_neg Bool.false_ne_true, if_pos hrest, sendFrom_of_neg hn]
  rfl

/-- **The flush, call by call, is the flush.** -/
theorem flushRun_server (o : FlushOutcome) (s : Server) (w : Nat) :
    (flushRun o s w).server = (s.flush o w).1 := by
  by_cases hbatch : (s.workers w).msgs = []
  · simp [flushRun, Server.flush, hbatch]
  · cases hdual : s.sendDualStack with
    | true =>
      have hzero : sendFrom o.writeOk (s.workers w).msgs 0 ⟨0, []⟩ = _ :=
        sendFrom_of_nonneg 0 ⟨0, []⟩
      simp [flushRun, Server.flush, hbatch, hdual, hzero]
    | false =>
      unfold Server.flush
      dsimp only
      rw [if_neg hbatch, hdual, if_neg Bool.false_ne_true]
      by_cases hn : o.n < 0
      · rw [flushRun_of_failure hbatch hdual hn, if_pos hn]
      · rw [flushRun_of_count hbatch hdual (Int.toNat_of_nonneg (by omega)).symm, if_neg hn]

/-! ## What a flush must not lose -/

/-- A flush of a batch on an IPv4 socket, given that the first `o.n` messages were sent by
    `WriteBatch`: no index is out of range, each of the others is tried once and in order, what was
    sent is counted, every buffer is returned once, and the batch is empty. -/
structure LosesNothing (o : FlushOutcome) (s : Server) (w : Nat) : Prop where
  inRange : (flushRun o s w).panicked = false
  tried : (flushRun o s w).writes.map Prod.fst = (s.workers w).msgs.drop o.n.toNat
  counted : (flushRun o s w).server.relayForwarded =
    s.relayForwarded + (o.n.toNat + (flushRun o s w).writes.countP Prod.snd)
  payloads : (flushRun o s w).server.pool.free.Perm
    ((s.workers w).payloadsToReturn ++ s.pool.free)
  outBufs : (flushRun o s w).server.outBufPool.free.Perm
    ((s.workers w).outBufsToReturn ++ s.outBufPool.free)
  emptied : ((flushRun o s w).server.workers w).msgs = [] ∧
    ((flushRun o s w).server.workers w).payloadsToReturn = [] ∧
    ((flushRun o s w).server.workers w).outBufsToReturn = []

/-- Returned buffers are free. -/
theorem free_foldl_put (p : Pool) (bs : List Buf) :
    (bs.foldl Pool.put p).free.Perm (bs ++ p.free) := by
  induction bs generalizing p with
  | nil => exact List.Perm.refl _
  | cons b bs ih => exact (ih (p.put b)).trans List.perm_middle

/-- **When a batch is not lost**: on an IPv4 socket, exactly if the `WriteBatch` of it returns a
    count and not -1. -/
theorem batch_loses_nothing_iff (o : FlushOutcome) (s : Server) (w : Nat)
    (hbatch : (s.workers w).msgs ≠ []) (hipv4 : s.sendDualStack = false) :
    LosesNothing o s w ↔ 0 ≤ o.n := by
  constructor
  · intro h
    by_contra hneg
    have := h.inRange
    rw [flushRun_of_failure hbatch hipv4 (by omega)] at this
    nomatch this
  · intro hn
    have hrun := flushRun_of_count hbatch hipv4 (Int.toNat_of_nonneg hn).symm
    constructor
    case inRange => rw [hrun]
    case tried =>
      have hfst : ((s.workers w).msgs.zipIdx.drop o.n.toNat).map Prod.fst =
          (s.workers w).msgs.drop o.n.toNat := by
        rw [List.map_drop, List.zipIdx_map_fst]
      rw [hrun, List.map_map]
      exact hfst
    case counted =>
      rw [hrun]
      dsimp only [Server.finishFlush]
      rw [writeEach, List.length_map, ← List.countP_eq_length_filter, List.countP_map]
      rfl
    case payloads =>
      rw [hrun]
      exact free_foldl_put _ _
    case outBufs =>
      rw [hrun]
      exact free_foldl_put _ _
    case emptied =>
      rw [hrun]
      simp [Server.finishFlush]

end

/-- Two frames for node 7 are batched. -/
def twoFrames : List Event :=
  [⟨0, .listen (sampleAddr 10 0 0 9 9001)⟩,
    sampleDatagram second (sampleAddr 10 0 0 1 4000) [0x01, 0, 0, 0, 7],
    sampleDatagram second (sampleAddr 10 0 0 2 4000) [0x05, 0, 0, 0, 8, 0, 0, 0, 7, 1],
    sampleDatagram second (sampleAddr 10 0 0 2 4000) [0x05, 0, 0, 0, 8, 0, 0, 0, 7, 2],
    ⟨second, .worker 7 (.job ⟨false, false, 0⟩ ⟨0, fun _ => true⟩)⟩,
    ⟨second, .worker 7 (.job ⟨false, false, 0⟩ ⟨0, fun _ => true⟩)⟩]

/-- `WriteBatch` takes the first, and the second cannot be sent. -/
theorem short_batch_not_lost :
    LosesNothing ⟨1, fun _ => false⟩ (runFrom sampleConfig [] twoFrames) 7 :=
  (batch_loses_nothing_iff _ _ 7 (by decide +kernel) (by decide +kernel)).mpr (by decide)

/-- **A failed batch is lost**: `WriteBatch` returns -1, no frame is sent although each could be,
    and the worker's batch and buffers are gone. -/
theorem failed_batch_lost :
    ((runFrom sampleConfig [] twoFrames).workers 7).msgs.length = 2 ∧
      (runFrom sampleConfig [] twoFrames).sendDualStack = false ∧
      ¬ LosesNothing ⟨-1, fun _ => true⟩ (runFrom sampleConfig [] twoFrames) 7 ∧
      (flushRun ⟨-1, fun _ => true⟩ (runFrom sampleConfig [] twoFrames) 7).writes = [] ∧
      (flushRun ⟨-1, fun _ => true⟩ (runFrom sampleConfig [] twoFrames) 7).server.pool.free =
        [] := by
  have hbatch : ((runFrom sampleConfig [] twoFrames).workers 7).msgs ≠ [] := by decide +kernel
  have hipv4 : (runFrom sampleConfig [] twoFrames).sendDualStack = false := by decide +kernel
  have hrun := flushRun_of_failure (o := ⟨-1, fun _ => true⟩) hbatch hipv4 (by decide)
  refine ⟨by decide +kernel, hipv4, fun h => ?_, by rw [hrun], ?_⟩
  · have := h.inRange
    rw [hrun] at this
    nomatch this
  · rw [hrun]
    decide +kernel

end PilotBeacon
