import PilotBeacon.Lib.Ownership
import PilotBeacon.Server.RelayAccounting
import PilotBeacon.Server.SharedBuffers

/-!
# Every Buffer Has One Owner

At any moment a payload buffer is in its pool, with a receiver, in a queue, with a worker or in a
batch, and an output buffer in its pool or with a worker; none is in two places, and what somebody
relies on is still in its array. A panic loses the buffers of the goroutine it unwinds, and a
pooled buffer that is too small for a payload is dropped; nothing else is lost.

- `BuffersOwned`: the invariant, for both pools
- `BuffersOwned.worker`, `BuffersOwned.receiver`: one step of a goroutine
- `payloadsLost`, `outsLost`: the buffers a step loses
- `shared_owned`: every run
-/

namespace PilotBeacon

open PilotBeacon.Lib PilotBeacon.Net
open Ownership (Tracked)
open Tally (total)

/-! ## Who has which buffer -/

/-- A slice as a cell of its pool's memory and what was written to it. -/
def Slice.cell (s : Slice) : Nat × Bytes := (s.buf.id, s.data)

/-- The buffers in the pool. -/
def Pool.ids (p : Pool) : Multiset Nat := (p.free.map Buf.id : List Nat)

/-- The array starts with the data. -/
def Holds (array data : Bytes) : Prop := data <+: array

def ReceiverStage.spare : ReceiverStage → List Nat
  | .lent buf => [buf.id]
  | _ => []

def ReceiverStage.filled : ReceiverStage → List (Nat × Bytes)
  | .copied job => [job.payload.cell]
  | _ => []

/-- The job in a worker's hands. -/
def WorkerStage.jobs : WorkerStage → List RelayJob
  | .took job => [job]
  | .looked job _ => [job]
  | .lent job _ _ => [job]
  | .writing job _ => [job]
  | .releasing job _ => [job]
  | _ => []

/-- The output buffers a worker has that nobody reads. -/
def WorkerStage.outSpare (w : Worker) : WorkerStage → List Nat
  | .lent _ _ obp => [obp.id]
  | .releasing _ obp => [obp.id]
  | .releasingOut obp => [obp.id]
  | .returning => w.outBufsToReturn.map Buf.id
  | _ => []

def WorkerStage.outFilled : WorkerStage → List (Nat × Bytes)
  | .writing _ out => [out.cell]
  | _ => []

namespace Shared

def lentPayloads (c : Shared) (r : Nat) : List Nat := (c.receivers r).stage.spare

def copiedPayloads (c : Shared) (r : Nat) : List (Nat × Bytes) := (c.receivers r).stage.filled

/-- The payload buffers of messages already shaped. -/
def batchPayloads (c : Shared) (i : Nat) : List Nat :=
  (c.server.workers i).payloadsToReturn.map Buf.id

/-- The payloads of the jobs worker `i` has or will get. -/
def queuedPayloads (c : Shared) (i : Nat) : List (Nat × Bytes) :=
  ((c.stages i).jobs ++ c.server.relayChs i).map fun job => job.payload.cell

def spareOuts (c : Shared) (i : Nat) : List Nat := (c.stages i).outSpare (c.server.workers i)

def filledOuts (c : Shared) (i : Nat) : List (Nat × Bytes) :=
  (c.stages i).outFilled ++ (c.server.workers i).msgs.map fun m => m.buffer.cell

end Shared

/-- The output buffers to return are those of the batch, until it is sent. -/
def BatchAligned (w : Worker) : WorkerStage → Prop
  | .returning => w.msgs = []
  | _ => w.outBufsToReturn = w.msgs.map fun m => m.buffer.buf

/-- Every buffer is accounted for, in both pools. -/
structure BuffersOwned (cfg : Config) (receivers : Nat) (c : Shared)
    (lostPayloads lostOuts : Multiset Nat) : Prop where
  payloads : Tracked Holds c.payloads c.server.pool.next
    (c.server.pool.ids + total cfg.relayWorkerCount c.batchPayloads +
      total receivers c.lentPayloads)
    (total cfg.relayWorkerCount c.queuedPayloads + total receivers c.copiedPayloads) lostPayloads
  outs : Tracked Holds c.outs c.server.outBufPool.next
    (c.server.outBufPool.ids + total cfg.relayWorkerCount c.spareOuts)
    (total cfg.relayWorkerCount c.filledOuts) lostOuts
  aligned : ∀ i, BatchAligned (c.server.workers i) (c.stages i)

/-! ## The pools -/

section

variable {α β : Type} {R : α → β → Prop} {mem : Nat → α} {p : Pool} {rest lost : Multiset Nat}
  {filled : Multiset (Nat × β)}

/-- **`Get`** hands out a buffer nobody else has. -/
theorem Pool.tracked_get (h : Tracked R mem p.next (p.ids + rest) filled lost)
    (pick cap : Nat) :
    Tracked R mem (p.get pick cap).2.next
      ((p.get pick cap).2.ids + ({(p.get pick cap).1.id} + rest)) filled lost := by
  unfold Pool.get
  cases hpick : p.free[pick]? with
  | none =>
    apply h.alloc
    rw [Pool.ids, Pool.ids]
    abel
  | some b =>
    apply h.rebalance _ fun q hq => hq
    obtain ⟨hlt, hb⟩ := List.getElem?_eq_some_iff.mp hpick
    have hperm := (List.getElem_cons_eraseIdx_perm hlt).map Buf.id
    have hids : p.ids = {b.id} + ((p.free.eraseIdx pick).map Buf.id : List Nat) := by
      rw [Pool.ids, ← Multiset.coe_eq_coe.mpr hperm, hb]
      rfl
    rw [hids, Pool.ids]
    abel

/-- The pooled buffer that is given up because it is too small. -/
def Pool.givenUp (p : Pool) (pick len : Nat) : List Nat :=
  if (p.get pick 1500).1.cap < len then [(p.get pick 1500).1.id] else []

/-- **A buffer of the right size.** -/
theorem Pool.tracked_getPayload (h : Tracked R mem p.next (p.ids + rest) filled lost)
    (pick len : Nat) :
    Tracked R mem (p.getPayload pick len).2.next
      ((p.getPayload pick len).2.ids + ({(p.getPayload pick len).1.id} + rest)) filled
      (lost + p.givenUp pick len) := by
  have hget := Pool.tracked_get h pick 1500
  unfold Pool.getPayload Pool.givenUp
  dsimp only
  split_ifs with hsmall
  · -- the small one is lost, a new one allocated
    have hless : Tracked R mem (p.get pick 1500).2.next ((p.get pick 1500).2.ids + rest) filled
        (lost + [(p.get pick 1500).1.id]) := by
      apply hget.rebalance _ fun q hq => hq
      rw [Multiset.coe_singleton]
      abel
    apply hless.alloc
    rw [Pool.ids, Pool.ids]
    dsimp only [Pool.make]
    abel
  · rw [Multiset.coe_nil, add_zero]
    exact hget

theorem Pool.ids_put (p : Pool) (b : Buf) : (p.put b).ids = {b.id} + p.ids := rfl

end

/-! ## What one worker does -/

/-- `c'` is `c` up to worker `i`, the contents of the pools and of the output arrays, and what
    has no buffers. -/
structure WorkerOnly (i : Nat) (c c' : Shared) : Prop where
  receivers : c'.receivers = c.receivers
  payloads : c'.payloads = c.payloads
  poolNext : c'.server.pool.next = c.server.pool.next
  stages : ∀ j, j ≠ i → c'.stages j = c.stages j
  workers : ∀ j, j ≠ i → c'.server.workers j = c.server.workers j
  relayChs : ∀ j, j ≠ i → c'.server.relayChs j = c.server.relayChs j

section

variable {cfg : Config} {receivers i : Nat} {c c' : Shared}
  {lostPayloads lostOuts gone : Multiset Nat}

theorem BuffersOwned.payloads_worker (h : BuffersOwned cfg receivers c lostPayloads lostOuts)
    (hi : i < cfg.relayWorkerCount) (hw : WorkerOnly i c c')
    (once : c'.server.pool.ids + c'.batchPayloads i + (c'.queuedPayloads i).map Prod.fst + gone =
      c.server.pool.ids + c.batchPayloads i + (c.queuedPayloads i).map Prod.fst)
    (kept : ∀ p ∈ c'.queuedPayloads i, p ∈ c.queuedPayloads i) :
    Tracked Holds c'.payloads c'.server.pool.next
      (c'.server.pool.ids + total cfg.relayWorkerCount c'.batchPayloads +
        total receivers c'.lentPayloads)
      (total cfg.relayWorkerCount c'.queuedPayloads + total receivers c'.copiedPayloads)
      (lostPayloads + gone) := by
  have hlent : c'.lentPayloads = c.lentPayloads := by
    funext r
    rw [Shared.lentPayloads, hw.receivers, Shared.lentPayloads]
  have hcopied : c'.copiedPayloads = c.copiedPayloads := by
    funext r
    rw [Shared.copiedPayloads, hw.receivers, Shared.copiedPayloads]
  rw [hw.payloads, hw.poolNext, hlent, hcopied]
  apply h.payloads.exchange hi _ _ once kept
  · intro j hj
    rw [Shared.batchPayloads, hw.workers j hj, Shared.batchPayloads]
  · intro j hj
    rw [Shared.queuedPayloads, hw.stages j hj, hw.relayChs j hj, Shared.queuedPayloads]

/-- A worker that keeps its payloads. -/
theorem BuffersOwned.payloads_kept (h : BuffersOwned cfg receivers c lostPayloads lostOuts)
    (hi : i < cfg.relayWorkerCount) (hw : WorkerOnly i c c')
    (hpool : c'.server.pool.ids = c.server.pool.ids)
    (hbatch : c'.batchPayloads i = c.batchPayloads i)
    (hqueued : c'.queuedPayloads i = c.queuedPayloads i) :
    Tracked Holds c'.payloads c'.server.pool.next
      (c'.server.pool.ids + total cfg.relayWorkerCount c'.batchPayloads +
        total receivers c'.lentPayloads)
      (total cfg.relayWorkerCount c'.queuedPayloads + total receivers c'.copiedPayloads)
      lostPayloads := by
  rw [← add_zero lostPayloads]
  apply h.payloads_worker hi hw
  · rw [hpool, hbatch, hqueued, add_zero]
  · rw [hqueued]
    exact fun _ hp => hp

theorem WorkerOnly.outs (hw : WorkerOnly i c c') (j : Nat) (hj : j ≠ i) :
    c'.spareOuts j = c.spareOuts j ∧ c'.filledOuts j = c.filledOuts j := by
  constructor
  · rw [Shared.spareOuts, hw.stages j hj, hw.workers j hj, Shared.spareOuts]
  · rw [Shared.filledOuts, hw.stages j hj, hw.workers j hj, Shared.filledOuts]

theorem BuffersOwned.outs_worker (h : BuffersOwned cfg receivers c lostPayloads lostOuts)
    (hi : i < cfg.relayWorkerCount) (hw : WorkerOnly i c c') (houts : c'.outs = c.outs)
    (hnext : c'.server.outBufPool.next = c.server.outBufPool.next)
    (once : c'.server.outBufPool.ids + c'.spareOuts i + (c'.filledOuts i).map Prod.fst + gone =
      c.server.outBufPool.ids + c.spareOuts i + (c.filledOuts i).map Prod.fst)
    (kept : ∀ p ∈ c'.filledOuts i, p ∈ c.filledOuts i) :
    Tracked Holds c'.outs c'.server.outBufPool.next
      (c'.server.outBufPool.ids + total cfg.relayWorkerCount c'.spareOuts)
      (total cfg.relayWorkerCount c'.filledOuts) (lostOuts + gone) := by
  have hbefore : Tracked Holds c.outs c.server.outBufPool.next
      (c.server.outBufPool.ids + total cfg.relayWorkerCount c.spareOuts + 0)
      (total cfg.relayWorkerCount c.filledOuts + 0) lostOuts := by
    simpa using h.outs
  have hafter := hbefore.exchange hi (fun j hj => (hw.outs j hj).1) (fun j hj => (hw.outs j hj).2)
    once kept
  rw [houts, hnext]
  simpa using hafter

/-- The other workers stay aligned. -/
theorem BuffersOwned.aligned_worker (h : BuffersOwned cfg receivers c lostPayloads lostOuts)
    (hw : WorkerOnly i c c') (hi : BatchAligned (c'.server.workers i) (c'.stages i)) (j : Nat) :
    BatchAligned (c'.server.workers j) (c'.stages j) := by
  by_cases hj : j = i
  · subst hj
    exact hi
  · rw [hw.workers j hj, hw.stages j hj]
    exact h.aligned j

/-- **A step of a worker that writes to no array**: it is enough to look at its own lists. -/
theorem BuffersOwned.of_worker {lostPayloads lostOuts goneP goneO : Multiset Nat}
    (h : BuffersOwned cfg receivers c lostPayloads lostOuts)
    (hi : i < cfg.relayWorkerCount) (hw : WorkerOnly i c c') (houts : c'.outs = c.outs)
    (hnext : c'.server.outBufPool.next = c.server.outBufPool.next)
    (onceP : c'.server.pool.ids + c'.batchPayloads i + (c'.queuedPayloads i).map Prod.fst + goneP =
      c.server.pool.ids + c.batchPayloads i + (c.queuedPayloads i).map Prod.fst)
    (keptP : ∀ p ∈ c'.queuedPayloads i, p ∈ c.queuedPayloads i)
    (onceO : c'.server.outBufPool.ids + c'.spareOuts i + (c'.filledOuts i).map Prod.fst + goneO =
      c.server.outBufPool.ids + c.spareOuts i + (c.filledOuts i).map Prod.fst)
    (keptO : ∀ p ∈ c'.filledOuts i, p ∈ c.filledOuts i)
    (aligned : BatchAligned (c'.server.workers i) (c'.stages i)) :
    BuffersOwned cfg receivers c' (lostPayloads + goneP) (lostOuts + goneO) where
  payloads := h.payloads_worker hi hw onceP keptP
  outs := h.outs_worker hi hw houts hnext onceO keptO
  aligned := h.aligned_worker hw aligned

/-! ### Losses -/

/-- Whether worker `i` panics. -/
def Shared.crashes (cfg : Config) (c : Shared) (i : Nat) : WorkerStep → Bool
  | .crash => true
  | .shape =>
    match c.stages i with
    | .lent job tier obp =>
      (tier.header cfg c.server job).any fun p => (outSlice obp p.2 job.payload.data).isNone
    | _ => false
  | _ => false

/-- The payload buffers a worker loses. -/
def Shared.workerLostPayloads (cfg : Config) (c : Shared) (i : Nat) (a : WorkerStep) : List Nat :=
  if c.crashes cfg i a then
    c.batchPayloads i ++ (c.stages i).jobs.map fun job => job.payload.buf.id
  else []

/-- The output buffers a worker loses. -/
def Shared.workerLostOuts (cfg : Config) (c : Shared) (i : Nat) (a : WorkerStep) : List Nat :=
  if c.crashes cfg i a then c.spareOuts i ++ (c.filledOuts i).map Prod.fst else []

/-! ### Steps -/

namespace Shared

@[simp] theorem stages_setStage (c : Shared) (i : Nat) (stage : WorkerStage) :
    (c.setStage i stage).stages i = stage :=
  Function.update_self ..

@[simp] theorem queuedPayloads_setStage (c : Shared) (i : Nat) (stage : WorkerStage) :
    (c.setStage i stage).queuedPayloads i =
      (stage.jobs ++ c.server.relayChs i).map fun job => job.payload.cell := by
  rw [queuedPayloads, stages_setStage]
  rfl

@[simp] theorem spareOuts_setStage (c : Shared) (i : Nat) (stage : WorkerStage) :
    (c.setStage i stage).spareOuts i = stage.outSpare (c.server.workers i) := by
  rw [spareOuts, stages_setStage]
  rfl

@[simp] theorem filledOuts_setStage (c : Shared) (i : Nat) (stage : WorkerStage) :
    (c.setStage i stage).filledOuts i =
      stage.outFilled ++ (c.server.workers i).msgs.map fun m => m.buffer.cell := by
  rw [filledOuts, stages_setStage]
  rfl

@[simp] theorem server_setStage (c : Shared) (i : Nat) (stage : WorkerStage) :
    (c.setStage i stage).server = c.server := rfl

@[simp] theorem outs_setStage (c : Shared) (i : Nat) (stage : WorkerStage) :
    (c.setStage i stage).outs = c.outs := rfl

@[simp] theorem server_fillOut (c : Shared) (obp : Buf) (header : Bytes) (payload : Slice) :
    (c.fillOut obp header payload).server = c.server := rfl

@[simp] theorem batchPayloads_setStage (c : Shared) (i : Nat) (stage : WorkerStage) :
    (c.setStage i stage).batchPayloads = c.batchPayloads := rfl

end Shared

/-- A change of one worker's own state, of the pools and of the counters. -/
theorem workerOnly_setStage (c : Shared) (i : Nat) (stage : WorkerStage) :
    WorkerOnly i c (c.setStage i stage) := by
  constructor <;> intros <;> simp [Shared.setStage, *]

theorem WorkerOnly.trans {c'' : Shared} (h : WorkerOnly i c c') (h' : WorkerOnly i c' c'') :
    WorkerOnly i c c'' where
  receivers := h'.receivers.trans h.receivers
  payloads := h'.payloads.trans h.payloads
  poolNext := h'.poolNext.trans h.poolNext
  stages := fun j hj => (h'.stages j hj).trans (h.stages j hj)
  workers := fun j hj => (h'.workers j hj).trans (h.workers j hj)
  relayChs := fun j hj => (h'.relayChs j hj).trans (h.relayChs j hj)

/-- The server of `c'` is that of `c` up to worker `i`, the counters and the contents of the
    pools. -/
theorem workerOnly_server {s : Server} (hnext : s.pool.next = c.server.pool.next)
    (hworkers : ∀ j, j ≠ i → s.workers j = c.server.workers j)
    (hchs : ∀ j, j ≠ i → s.relayChs j = c.server.relayChs j) :
    WorkerOnly i c { c with server := s } where
  receivers := rfl
  payloads := rfl
  poolNext := hnext
  stages := fun _ _ => rfl
  workers := hworkers
  relayChs := hchs

theorem BuffersOwned.workerCrash {lostPayloads lostOuts : Multiset Nat}
    (h : BuffersOwned cfg receivers c lostPayloads lostOuts) (hi : i < cfg.relayWorkerCount) :
    BuffersOwned cfg receivers (c.workerCrash i)
      (lostPayloads + (c.batchPayloads i ++
        (c.stages i).jobs.map fun job => job.payload.buf.id : List Nat))
      (lostOuts + (c.spareOuts i ++ (c.filledOuts i).map Prod.fst : List Nat)) := by
  have hw : WorkerOnly i c (c.workerCrash i) :=
    (workerOnly_server (s := c.server.workerPanic i) rfl
      (fun j hj => Function.update_of_ne hj _ _) fun _ _ => rfl).trans (workerOnly_setStage _ i _)
  -- afterwards the worker has nothing but its queue
  have hbatch : (c.workerCrash i).batchPayloads i = [] := by
    simp [Shared.workerCrash, Shared.batchPayloads, Server.workerPanic, Worker.start]
  have hqueue : (c.workerCrash i).queuedPayloads i =
      (c.server.relayChs i).map fun job => job.payload.cell := by
    simp [Shared.workerCrash, WorkerStage.jobs, Server.workerPanic, Server.setWorker]
  have hspare : (c.workerCrash i).spareOuts i = [] := by
    simp [Shared.workerCrash, WorkerStage.outSpare]
  have hfilled : (c.workerCrash i).filledOuts i = [] := by
    simp [Shared.workerCrash, WorkerStage.outFilled, Server.workerPanic, Worker.start]
  apply h.of_worker hi hw rfl rfl
  · rw [hbatch, hqueue]
    simp [Shared.queuedPayloads, Slice.cell, Function.comp_def, ← Multiset.coe_add]
    rw [show (c.workerCrash i).server.pool = c.server.pool from rfl]
    abel
  · rw [hqueue]
    intro p hp
    rw [Shared.queuedPayloads, List.map_append]
    exact List.mem_append_right _ hp
  · rw [hspare, hfilled]
    simp [← Multiset.coe_add]
    rw [show (c.workerCrash i).server.outBufPool = c.server.outBufPool from rfl]
    abel
  · simp [hfilled]
  · simp [Shared.workerCrash, Server.workerPanic, Worker.start, BatchAligned]

/-- **A step of a worker that writes to no array and loses nothing.** It leaves the worker with
    batch `w`, queue `q` and stage `stage`. -/
theorem BuffersOwned.move {s : Server} {old stage : WorkerStage} {w : Worker} {q : List RelayJob}
    (h : BuffersOwned cfg receivers c lostPayloads lostOuts) (hi : i < cfg.relayWorkerCount)
    (hstage : c.stages i = old) (hworkers : s.workers = Function.update c.server.workers i w)
    (hchs : s.relayChs = Function.update c.server.relayChs i q)
    (hpool : s.pool.next = c.server.pool.next)
    (houts : s.outBufPool.next = c.server.outBufPool.next)
    (onceP : s.pool.ids + (w.payloadsToReturn.map Buf.id : List Nat) +
        ((stage.jobs ++ q).map fun job => job.payload.buf.id : List Nat) =
      c.server.pool.ids + ((c.server.workers i).payloadsToReturn.map Buf.id : List Nat) +
        ((old.jobs ++ c.server.relayChs i).map fun job => job.payload.buf.id : List Nat))
    (keptP : ∀ job ∈ stage.jobs ++ q, job ∈ old.jobs ++ c.server.relayChs i)
    (onceO : s.outBufPool.ids + (stage.outSpare w : List Nat) +
        (stage.outFilled.map Prod.fst ++ w.msgs.map fun m => m.buffer.buf.id : List Nat) =
      c.server.outBufPool.ids + (old.outSpare (c.server.workers i) : List Nat) +
        (old.outFilled.map Prod.fst ++
          (c.server.workers i).msgs.map fun m => m.buffer.buf.id : List Nat))
    (keptO : ∀ p ∈ stage.outFilled ++ w.msgs.map (fun m => m.buffer.cell),
      p ∈ old.outFilled ++ (c.server.workers i).msgs.map fun m => m.buffer.cell)
    (aligned : BatchAligned (c.server.workers i) old → BatchAligned w stage) :
    BuffersOwned cfg receivers (Shared.setStage { c with server := s } i stage)
      lostPayloads lostOuts := by
  subst hstage
  have hw : s.workers i = w := by rw [hworkers, Function.update_self]
  have hq : s.relayChs i = q := by rw [hchs, Function.update_self]
  have hother : WorkerOnly i c { c with server := s } := by
    apply workerOnly_server hpool
    · intro j hj
      rw [hworkers, Function.update_of_ne hj]
    · intro j hj
      rw [hchs, Function.update_of_ne hj]
  rw [← add_zero lostPayloads, ← add_zero lostOuts]
  apply h.of_worker hi (hother.trans (workerOnly_setStage _ i stage)) rfl houts
  · simpa [Shared.queuedPayloads, Slice.cell, Function.comp_def, Shared.batchPayloads, hw, hq]
      using onceP
  · simp only [Shared.queuedPayloads, Shared.stages_setStage, Shared.server_setStage, hq,
      List.mem_map]
    rintro p ⟨job, hjob, rfl⟩
    exact ⟨job, keptP job hjob, rfl⟩
  · simpa [Shared.spareOuts, Shared.filledOuts, Slice.cell, Function.comp_def, hw] using onceO
  · simpa only [Shared.filledOuts, Shared.stages_setStage, Shared.server_setStage, hw] using keptO
  · simpa [hw] using aligned (h.aligned i)

/-- The output buffers stay as they are. -/
theorem BuffersOwned.movePayloads {s : Server} {old stage : WorkerStage} {w : Worker}
    {q : List RelayJob} (h : BuffersOwned cfg receivers c lostPayloads lostOuts)
    (hi : i < cfg.relayWorkerCount) (hstage : c.stages i = old)
    (hworkers : s.workers = Function.update c.server.workers i w)
    (hchs : s.relayChs = Function.update c.server.relayChs i q)
    (hpool : s.pool.next = c.server.pool.next) (houts : s.outBufPool = c.server.outBufPool)
    (onceP : s.pool.ids + (w.payloadsToReturn.map Buf.id : List Nat) +
        ((stage.jobs ++ q).map fun job => job.payload.buf.id : List Nat) =
      c.server.pool.ids + ((c.server.workers i).payloadsToReturn.map Buf.id : List Nat) +
        ((old.jobs ++ c.server.relayChs i).map fun job => job.payload.buf.id : List Nat))
    (keptP : ∀ job ∈ stage.jobs ++ q, job ∈ old.jobs ++ c.server.relayChs i)
    (hspare : stage.outSpare w = old.outSpare (c.server.workers i))
    (hfilled : stage.outFilled = old.outFilled) (hmsgs : w.msgs = (c.server.workers i).msgs)
    (aligned : BatchAligned (c.server.workers i) old → BatchAligned w stage) :
    BuffersOwned cfg receivers (Shared.setStage { c with server := s } i stage)
      lostPayloads lostOuts := by
  refine h.move hi hstage hworkers hchs hpool (by rw [houts]) onceP keptP ?_ ?_ aligned
  · rw [hspare, hfilled, hmsgs, houts]
  · rw [hfilled, hmsgs]
    exact fun p hp => hp

/-- The payload buffers stay as they are. -/
theorem BuffersOwned.moveOuts {s : Server} {old stage : WorkerStage} {w : Worker}
    (h : BuffersOwned cfg receivers c lostPayloads lostOuts) (hi : i < cfg.relayWorkerCount)
    (hstage : c.stages i = old) (hworkers : s.workers = Function.update c.server.workers i w)
    (hchs : s.relayChs = c.server.relayChs) (hpool : s.pool = c.server.pool)
    (houts : s.outBufPool.next = c.server.outBufPool.next)
    (hbufs : w.payloadsToReturn = (c.server.workers i).payloadsToReturn)
    (hjobs : stage.jobs = old.jobs)
    (onceO : s.outBufPool.ids + (stage.outSpare w : List Nat) +
        (stage.outFilled.map Prod.fst ++ w.msgs.map fun m => m.buffer.buf.id : List Nat) =
      c.server.outBufPool.ids + (old.outSpare (c.server.workers i) : List Nat) +
        (old.outFilled.map Prod.fst ++
          (c.server.workers i).msgs.map fun m => m.buffer.buf.id : List Nat))
    (keptO : ∀ p ∈ stage.outFilled ++ w.msgs.map (fun m => m.buffer.cell),
      p ∈ old.outFilled ++ (c.server.workers i).msgs.map fun m => m.buffer.cell)
    (aligned : BatchAligned (c.server.workers i) old → BatchAligned w stage) :
    BuffersOwned cfg receivers (Shared.setStage { c with server := s } i stage)
      lostPayloads lostOuts := by
  refine h.move hi hstage hworkers (hchs.trans (Function.update_eq_self ..).symm) (by rw [hpool])
    houts ?_ ?_ onceO keptO aligned
  · rw [hjobs, hbufs, hpool]
  · rw [hjobs]
    exact fun j hj => hj

/-- A step that changes neither the buffers of the worker nor the pools. -/
theorem BuffersOwned.same {s : Server} {old stage : WorkerStage}
    (h : BuffersOwned cfg receivers c lostPayloads lostOuts) (hi : i < cfg.relayWorkerCount)
    (hstage : c.stages i = old) (hworkers : s.workers = c.server.workers)
    (hchs : s.relayChs = c.server.relayChs) (hpool : s.pool = c.server.pool)
    (houts : s.outBufPool = c.server.outBufPool) (hjobs : stage.jobs = old.jobs)
    (hspare : stage.outSpare (c.server.workers i) = old.outSpare (c.server.workers i))
    (hfilled : stage.outFilled = old.outFilled)
    (aligned : BatchAligned (c.server.workers i) old →
      BatchAligned (c.server.workers i) stage) :
    BuffersOwned cfg receivers (Shared.setStage { c with server := s } i stage)
      lostPayloads lostOuts := by
  refine h.moveOuts hi hstage (hworkers.trans (Function.update_eq_self ..).symm) hchs hpool
    (by rw [houts]) rfl hjobs ?_ ?_ aligned
  · rw [hspare, hfilled, houts]
  · rw [hfilled]
    exact fun p hp => hp

theorem BuffersOwned.alignedAt {old : WorkerStage}
    (h : BuffersOwned cfg receivers c lostPayloads lostOuts) (hstage : c.stages i = old) :
    BatchAligned (c.server.workers i) old :=
  hstage ▸ h.aligned i

/-- The array that is written to holds what was written. -/
theorem holds_overwrite (array data : Bytes) : Holds (overwrite array data) data :=
  List.prefix_append data _

theorem Tracked.take_eq {mem : Nat → Bytes} {next : Nat} {spare lost : Multiset Nat}
    {filled : Multiset (Nat × Bytes)} (h : Tracked Holds mem next spare filled lost)
    {s : Slice} (hs : s.cell ∈ filled) : (mem s.buf.id).take s.data.length = s.data :=
  (List.prefix_iff_eq_take.mp (h.holds _ hs)).symm

/-- A queued payload is still what its sender sent. -/
theorem BuffersOwned.payloadBytes {lostPayloads lostOuts : Multiset Nat}
    (h : BuffersOwned cfg receivers c lostPayloads lostOuts) (hi : i < cfg.relayWorkerCount)
    {job : RelayJob} (hjob : job ∈ (c.stages i).jobs ++ c.server.relayChs i) :
    c.payloadBytes job.payload = job.payload.data := by
  apply Tracked.take_eq h.payloads
  rw [Multiset.mem_add, Tally.mem_total]
  exact Or.inl ⟨i, hi, List.mem_map.mpr ⟨job, hjob, rfl⟩⟩

/-- **Filling an output buffer.** -/
theorem BuffersOwned.fillOut {lostPayloads lostOuts : Multiset Nat} {job : RelayJob} {tier : Tier}
    {obp : Buf} (h : BuffersOwned cfg receivers c lostPayloads lostOuts)
    (hi : i < cfg.relayWorkerCount) (hstage : c.stages i = .lent job tier obp) (header : Bytes) :
    BuffersOwned cfg receivers
      ((c.fillOut obp header job.payload).setStage i
        (.writing job ⟨obp, header ++ job.payload.data⟩)) lostPayloads lostOuts := by
  set c' := (c.fillOut obp header job.payload).setStage i
    (.writing job ⟨obp, header ++ job.payload.data⟩) with hc'
  have hw : WorkerOnly i c c' := by
    constructor <;> intros <;> simp [Shared.fillOut, Shared.setStage, *]
  have hdata : c.payloadBytes job.payload = job.payload.data := by
    apply h.payloadBytes hi
    simp [hstage, WorkerStage.jobs]
  refine ⟨?_, ?_, h.aligned_worker hw ?_⟩
  · apply h.payloads_kept hi hw rfl rfl
    simp [hc', Shared.fillOut, Shared.queuedPayloads, hstage, WorkerStage.jobs]
  · have hbefore : Tracked Holds c.outs c.server.outBufPool.next
        (c.server.outBufPool.ids + total cfg.relayWorkerCount c.spareOuts + 0)
        (total cfg.relayWorkerCount c.filledOuts + 0) lostOuts := by
      simpa using h.outs
    have hafter := hbefore.fillAt (b := obp.id) (v := header ++ job.payload.data) hi
      (fun j hj => (hw.outs j hj).1) (fun j hj => (hw.outs j hj).2)
      ?_ ?_ (holds_overwrite (c.outs obp.id) _)
    · simpa [hc', Shared.fillOut, hdata] using hafter
    · simp [hc', Shared.spareOuts, hstage, WorkerStage.outSpare]
    · simp [hc', Shared.filledOuts, hstage, WorkerStage.outFilled, Slice.cell]
  · have haligned := h.aligned i
    rw [hstage] at haligned
    simpa [hc', BatchAligned] using haligned

/-- **Batching** a message that was just shaped. -/
theorem BuffersOwned.batch {lostPayloads lostOuts : Multiset Nat} {job : RelayJob} {out : Slice}
    (h : BuffersOwned cfg receivers c lostPayloads lostOuts) (hi : i < cfg.relayWorkerCount)
    (hstage : c.stages i = .writing job out) (addr : UDPAddr) :
    BuffersOwned cfg receivers (c.batch i ⟨out, addr, job.destID⟩ job.payload.buf)
      lostPayloads lostOuts := by
  have haligned := h.aligned i
  rw [hstage] at haligned
  -- full or not, the payload's buffer is only kept to be returned, the output's is to be sent
  have hbatch : ∀ (timerActive : Bool) (stage : WorkerStage), stage.jobs = [] →
      stage.outFilled = [] → (∀ w, stage.outSpare w = []) → stage ≠ .returning →
      BuffersOwned cfg receivers
        (Shared.setStage
          { c with
            server := c.server.setWorker i
              { c.server.workers i with
                msgs := (c.server.workers i).msgs ++ [⟨out, addr, job.destID⟩]
                payloadsToReturn := (c.server.workers i).payloadsToReturn ++ [job.payload.buf]
                outBufsToReturn := (c.server.workers i).outBufsToReturn ++ [out.buf]
                timerActive := timerActive } } i stage) lostPayloads lostOuts := by
    intro timerActive stage hjobs hfilled hspare hstage'
    have hjobs₀ : (c.stages i).jobs = [job] := by rw [hstage]; rfl
    have hfilled₀ : (c.stages i).outFilled = [out.cell] := by rw [hstage]; rfl
    have hspare₀ : (c.stages i).outSpare (c.server.workers i) = [] := by rw [hstage]; rfl
    refine h.move hi rfl (rfl : _ = Function.update _ _ _) (Function.update_eq_self ..).symm rfl rfl
      ?_ ?_ ?_ ?_ ?_
    · simp only [hjobs, hjobs₀, Server.setWorker, List.map_append, ← Multiset.coe_add,
        List.map_cons, List.map_nil, Multiset.coe_nil]
      abel
    · rw [hjobs, hjobs₀]
      exact fun j hj => List.mem_append_right _ hj
    · simp only [hspare, hspare₀, hfilled, hfilled₀, Server.setWorker, List.map_append,
        ← Multiset.coe_add, List.map_cons, List.map_nil, Multiset.coe_nil, Slice.cell]
      abel
    · rw [hfilled, hfilled₀, List.map_append, List.nil_append]
      exact fun p hp => (List.mem_append.mp hp).elim (List.mem_append_right _)
        (List.mem_append_left _)
    · intro _
      cases stage <;> first | exact absurd rfl hstage' | simpa [BatchAligned] using haligned
  unfold Shared.batch
  dsimp only
  split_ifs
  · exact hbatch false _ rfl rfl (fun _ => rfl) (by simp)
  · exact hbatch true _ rfl rfl (fun _ => rfl) (by simp)

/-- **Taking an output buffer.** -/
theorem BuffersOwned.getOut (h : BuffersOwned cfg receivers c lostPayloads lostOuts)
    (hi : i < cfg.relayWorkerCount) (pick : Nat) :
    BuffersOwned cfg receivers (c.getOut i pick) lostPayloads lostOuts := by
  unfold Shared.getOut
  split
  case h_2 => exact h
  rename_i job tier hstage
  set c' := Shared.setStage _ i _ with hc'
  have hw : WorkerOnly i c c' :=
    (workerOnly_server (s := { c.server with
      outBufPool := (c.server.outBufPool.get pick (maxRelayPayload + 9)).2 }) rfl
      (fun _ _ => rfl) fun _ _ => rfl).trans (workerOnly_setStage _ i _)
  refine ⟨?_, ?_, h.aligned_worker hw ?_⟩
  · apply h.payloads_kept hi hw rfl rfl
    simp [hc', Shared.queuedPayloads, hstage, WorkerStage.jobs]
  · have hget := Pool.tracked_get h.outs pick (maxRelayPayload + 9)
    have hspare : total cfg.relayWorkerCount c'.spareOuts =
        {(c.server.outBufPool.get pick (maxRelayPayload + 9)).1.id} +
          total cfg.relayWorkerCount c.spareOuts := by
      have hchange := Tally.total_change (f := c.spareOuts) (Or.inl hi)
        (fun j hj => (hw.outs j hj).1)
      simpa [hc', Shared.spareOuts, hstage, WorkerStage.outSpare, add_comm] using hchange
    have hfilled : total cfg.relayWorkerCount c'.filledOuts =
        total cfg.relayWorkerCount c.filledOuts := by
      have hchange := Tally.total_change (f := c.filledOuts) (Or.inl hi)
        (fun j hj => (hw.outs j hj).2)
      simpa [hc', Shared.filledOuts, hstage, WorkerStage.outFilled] using hchange
    rw [hspare, hfilled]
    exact hget
  · have haligned := h.aligned i
    rw [hstage] at haligned
    simpa [hc', BatchAligned] using haligned

/-- **Shaping**, unless it panics. -/
theorem BuffersOwned.shape {lostPayloads lostOuts : Multiset Nat} {job : RelayJob} {tier : Tier}
    {obp : Buf} (h : BuffersOwned cfg receivers c lostPayloads lostOuts)
    (hi : i < cfg.relayWorkerCount) (hstage : c.stages i = .lent job tier obp)
    (hcrash : c.crashes cfg i .shape = false) :
    BuffersOwned cfg receivers (c.shape cfg i job tier obp) lostPayloads lostOuts := by
  simp only [Shared.crashes, hstage] at hcrash
  unfold Shared.shape
  cases hheader : tier.header cfg c.server job with
  | none =>
    exact h.same hi hstage rfl rfl rfl rfl rfl rfl rfl fun haligned => haligned
  | some p =>
    obtain ⟨addr, header⟩ := p
    rw [hheader] at hcrash
    cases hout : outSlice obp header job.payload.data with
    | none => simp [hout] at hcrash
    | some out =>
      have hfit : out = ⟨obp, header ++ job.payload.data⟩ := by
        unfold outSlice at hout
        split_ifs at hout
        exact (Option.some.inj hout).symm
      have hfill := h.fillOut hi hstage header
      rw [← hfit] at hfill
      simp only [hout]
      cases addr with
      | none => exact hfill
      | some addr =>
        -- batching overrides the stage
        have hbatch := hfill.batch hi (Shared.stages_setStage ..) addr
        unfold Shared.batch at hbatch ⊢
        simpa only [Shared.setStage_setStage, Shared.server_setStage] using hbatch

/-- The job moves from the queue into the worker's hands. -/
theorem BuffersOwned.take (h : BuffersOwned cfg receivers c lostPayloads lostOuts)
    (hi : i < cfg.relayWorkerCount) :
    BuffersOwned cfg receivers (c.take i) lostPayloads lostOuts := by
  unfold Shared.take
  split
  · rename_i job rest hstage hq
    split_ifs
    · exact h
    · refine h.movePayloads hi hstage (Function.update_eq_self ..).symm rfl rfl rfl ?_ ?_ rfl rfl
        rfl fun haligned => haligned
      · rw [hq]
        rfl
      · rw [hq]
        exact fun j hj => hj
  · exact h

theorem BuffersOwned.lookup (h : BuffersOwned cfg receivers c lostPayloads lostOuts)
    (hi : i < cfg.relayWorkerCount) (wssConnected : Bool) :
    BuffersOwned cfg receivers (c.lookup cfg i wssConnected) lostPayloads lostOuts := by
  unfold Shared.lookup
  split
  · rename_i job hstage
    exact h.same hi hstage rfl rfl rfl rfl rfl rfl rfl fun haligned => haligned
  · exact h

/-- The frame is written: its buffer is not read any more. -/
theorem BuffersOwned.writeFrame (h : BuffersOwned cfg receivers c lostPayloads lostOuts)
    (hi : i < cfg.relayWorkerCount) (ok : Bool) :
    BuffersOwned cfg receivers (c.writeFrame i ok) lostPayloads lostOuts := by
  unfold Shared.writeFrame
  split
  · rename_i job out hstage
    refine h.moveOuts hi hstage (Function.update_eq_self ..).symm rfl rfl rfl rfl rfl ?_ ?_
      fun haligned => haligned
    · simp only [WorkerStage.outSpare, WorkerStage.outFilled, List.map_cons, List.map_nil,
        Slice.cell, ← Multiset.coe_add, Multiset.coe_nil]
      abel
    · exact fun p hp => List.mem_append_right _ hp
  · exact h

theorem BuffersOwned.release (h : BuffersOwned cfg receivers c lostPayloads lostOuts)
    (hi : i < cfg.relayWorkerCount) :
    BuffersOwned cfg receivers (c.release i) lostPayloads lostOuts := by
  unfold Shared.release
  split
  · rename_i job obp hstage
    refine h.movePayloads hi hstage (Function.update_eq_self ..).symm
      (Function.update_eq_self ..).symm rfl rfl ?_ ?_ rfl rfl rfl fun haligned => haligned
    · simp only [WorkerStage.jobs, Pool.ids_put, List.map_append, ← Multiset.coe_add,
        List.map_cons, List.map_nil, Multiset.coe_nil, Multiset.coe_singleton]
      abel
    · exact fun j hj => List.mem_append_right _ hj
  · rename_i obp hstage
    refine h.moveOuts hi hstage (Function.update_eq_self ..).symm rfl rfl rfl rfl rfl ?_
      (fun p hp => hp) fun haligned => haligned
    simp only [WorkerStage.outSpare, WorkerStage.outFilled, Pool.ids_put, Multiset.coe_nil,
      Multiset.coe_singleton]
    abel
  · exact h

/-- A flush begins, or is not needed. -/
theorem BuffersOwned.selectFlush {w : Worker}
    (h : BuffersOwned cfg receivers c lostPayloads lostOuts) (hi : i < cfg.relayWorkerCount)
    (enabled : Bool) (hmsgs : w.msgs = (c.server.workers i).msgs)
    (hbufs : w.payloadsToReturn = (c.server.workers i).payloadsToReturn)
    (hobps : w.outBufsToReturn = (c.server.workers i).outBufsToReturn) :
    BuffersOwned cfg receivers (c.selectFlush i enabled w) lostPayloads lostOuts := by
  unfold Shared.selectFlush
  split
  · rename_i hstage
    unfold Shared.flushFrom
    split_ifs
    · exact h
    all_goals
      refine h.moveOuts hi hstage (rfl : _ = Function.update _ _ _) rfl rfl rfl hbufs rfl ?_ ?_ ?_
      · rw [hmsgs]
        rfl
      · rw [hmsgs]
        exact fun p hp => hp
      · intro haligned
        show w.outBufsToReturn = w.msgs.map _
        rw [hobps, hmsgs]
        exact haligned
  · exact h

theorem BuffersOwned.send (h : BuffersOwned cfg receivers c lostPayloads lostOuts)
    (hi : i < cfg.relayWorkerCount) (ok : Bool) :
    BuffersOwned cfg receivers (c.send i ok) lostPayloads lostOuts := by
  unfold Shared.send
  split
  · rename_i k n hstage
    have haligned := h.alignedAt hstage
    split
    · exact h.same hi hstage rfl rfl rfl rfl rfl rfl rfl fun haligned => haligned
    · -- the batch is through: its buffers are those to return
      have hids : ((c.server.workers i).msgs.map fun m => m.buffer.buf.id) =
          (c.server.workers i).outBufsToReturn.map Buf.id := by
        rw [show (c.server.workers i).outBufsToReturn = _ from haligned, List.map_map]
        rfl
      refine h.moveOuts hi hstage (rfl : _ = Function.update _ _ _) rfl rfl rfl rfl rfl ?_ ?_
        fun _ => rfl
      · simp [WorkerStage.outSpare, WorkerStage.outFilled, hids, Server.setWorker]
      · simp [WorkerStage.outFilled]
  · exact h

theorem BuffersOwned.putBack (h : BuffersOwned cfg receivers c lostPayloads lostOuts)
    (hi : i < cfg.relayWorkerCount) :
    BuffersOwned cfg receivers (c.putBack i) lostPayloads lostOuts := by
  unfold Shared.putBack
  split
  · rename_i buf bufs hstage hbufs
    refine h.movePayloads hi hstage (rfl : _ = Function.update _ _ _)
      (Function.update_eq_self ..).symm rfl rfl ?_ (fun j hj => hj) rfl rfl rfl
      fun haligned => haligned
    rw [hbufs]
    simp only [Server.setWorker, Pool.ids_put, List.map_cons, ← Multiset.cons_coe,
      ← Multiset.singleton_add]
    abel
  · rename_i obp obps hstage _ hobps
    refine h.moveOuts hi hstage (rfl : _ = Function.update _ _ _) rfl rfl rfl rfl rfl ?_
      (fun p hp => hp) fun haligned => haligned
    simp only [WorkerStage.outSpare, hobps, Server.setWorker, Pool.ids_put, List.map_cons,
      ← Multiset.cons_coe, ← Multiset.singleton_add]
    abel
  · rename_i hstage _ hobps
    refine h.same hi hstage rfl rfl rfl rfl rfl ?_ rfl ?_
    · simp [WorkerStage.outSpare, hobps]
    · intro hmsgs
      simp [BatchAligned, hobps, show (c.server.workers i).msgs = [] from hmsgs]
  · exact h

/-- **What a worker does, unless it panics.** -/
theorem BuffersOwned.workerNext (h : BuffersOwned cfg receivers c lostPayloads lostOuts)
    (hi : i < cfg.relayWorkerCount) (a : WorkerStep) (hcrash : c.crashes cfg i a = false) :
    BuffersOwned cfg receivers (c.workerNext cfg i a) lostPayloads lostOuts := by
  cases a with
  | take => exact h.take hi
  | lookup wssConnected => exact h.lookup hi wssConnected
  | getOut pick => exact h.getOut hi pick
  | shape =>
    unfold Shared.workerNext
    dsimp only
    split
    · rename_i job tier obp hstage
      exact h.shape hi hstage hcrash
    · exact h
  | writeFrame ok => exact h.writeFrame hi ok
  | release => exact h.release hi
  | timer => exact h.selectFlush hi _ rfl rfl rfl
  | done => exact h.selectFlush hi _ rfl rfl rfl
  | send ok => exact h.send hi ok
  | putBack => exact h.putBack hi
  | crash => cases hcrash

theorem Shared.workerNext_of_crashes {a : WorkerStep} (h : c.crashes cfg i a = true) :
    c.workerNext cfg i a = c.workerCrash i := by
  cases a with
  | crash => rfl
  | shape =>
    have hlent : ∃ job tier obp, c.stages i = .lent job tier obp ∧
        (tier.header cfg c.server job).any
          (fun p => (outSlice obp p.2 job.payload.data).isNone) = true := by
      dsimp only [Shared.crashes] at h
      split at h
      · exact ⟨_, _, _, ‹_›, h⟩
      · cases h
    obtain ⟨job, tier, obp, hstage, hany⟩ := hlent
    have hshape : c.workerNext cfg i .shape = c.shape cfg i job tier obp := by
      simp only [Shared.workerNext, hstage]
    rw [hshape, Shared.shape]
    cases hheader : tier.header cfg c.server job with
    | none =>
      rw [hheader] at hany
      cases hany
    | some p =>
      rw [hheader] at hany
      have hout : outSlice obp p.2 job.payload.data = none := Option.isNone_iff_eq_none.mp hany
      dsimp only
      rw [hout]
  | _ => cases h

theorem workerOnly_refl (i : Nat) (c : Shared) : WorkerOnly i c c := by
  constructor <;> intros <;> rfl

theorem workerOnly_selectFlush (c : Shared) (i : Nat) (enabled : Bool) (w : Worker) :
    WorkerOnly i c (c.selectFlush i enabled w) := by
  unfold Shared.selectFlush Shared.flushFrom
  split
  · split_ifs
    · exact workerOnly_refl i c
    all_goals constructor <;> intros <;> simp [Shared.setStage, Server.setWorker, *]
  · exact workerOnly_refl i c

theorem workerOnly_shape (cfg : Config) (c : Shared) (i : Nat) (job : RelayJob) (tier : Tier)
    (obp : Buf) : WorkerOnly i c (c.shape cfg i job tier obp) := by
  unfold Shared.shape
  split
  · constructor <;> intros <;> simp [Shared.setStage, *]
  · split
    · constructor <;> intros <;> simp [Shared.workerCrash, Server.workerPanic, Shared.setStage,
        Server.setWorker, *]
    · dsimp only
      split
      · constructor <;> intros <;> simp [Shared.fillOut, Shared.setStage, *]
      · unfold Shared.batch
        dsimp only
        split_ifs <;> constructor <;> intros <;>
          simp [Shared.fillOut, Shared.setStage, Server.setWorker, *]

/-- A worker keeps to itself. -/
theorem workerOnly_workerNext (cfg : Config) (c : Shared) (i : Nat) (a : WorkerStep) :
    WorkerOnly i c (c.workerNext cfg i a) := by
  cases a with
  | take =>
    simp only [Shared.workerNext, Shared.take]
    split
    · split_ifs <;> constructor <;> intros <;> simp [Shared.setStage, *]
    · exact workerOnly_refl i c
  | lookup wssConnected =>
    simp only [Shared.workerNext, Shared.lookup]
    split
    · exact workerOnly_setStage ..
    · exact workerOnly_refl i c
  | getOut pick =>
    simp only [Shared.workerNext, Shared.getOut]
    split
    · constructor <;> intros <;> simp [Shared.setStage, *]
    · exact workerOnly_refl i c
  | shape =>
    simp only [Shared.workerNext]
    split
    · exact workerOnly_shape ..
    · exact workerOnly_refl i c
  | writeFrame ok =>
    simp only [Shared.workerNext, Shared.writeFrame]
    split
    · constructor <;> intros <;> simp [Shared.setStage, *]
    · exact workerOnly_refl i c
  | release =>
    simp only [Shared.workerNext, Shared.release]
    split
    · constructor <;> intros <;> simp [Shared.setStage, Pool.put, *]
    · constructor <;> intros <;> simp [Shared.setStage, Pool.put, *]
    · exact workerOnly_refl i c
  | timer => exact workerOnly_selectFlush ..
  | done => exact workerOnly_selectFlush ..
  | send ok =>
    simp only [Shared.workerNext, Shared.send]
    split
    · split_ifs <;> constructor <;> intros <;> simp [Shared.setStage, Server.setWorker, *]
    · exact workerOnly_refl i c
  | putBack =>
    simp only [Shared.workerNext, Shared.putBack]
    split
    · constructor <;> intros <;> simp [Shared.setStage, Server.setWorker, Pool.put, *]
    · constructor <;> intros <;> simp [Shared.setStage, Server.setWorker, Pool.put, *]
    · exact workerOnly_setStage ..
    · exact workerOnly_refl i c
  | crash =>
    constructor <;> intros <;> simp [Shared.workerNext, Shared.workerCrash, Server.workerPanic,
      Shared.setStage, Server.setWorker, *]

/-- **What a worker does.** -/
theorem BuffersOwned.worker {lostPayloads lostOuts : Multiset Nat}
    (h : BuffersOwned cfg receivers c lostPayloads lostOuts) (hi : i < cfg.relayWorkerCount)
    (a : WorkerStep) :
    BuffersOwned cfg receivers (c.workerNext cfg i a)
      (lostPayloads + c.workerLostPayloads cfg i a) (lostOuts + c.workerLostOuts cfg i a) := by
  unfold Shared.workerLostPayloads Shared.workerLostOuts
  cases hcrash : c.crashes cfg i a with
  | true =>
    rw [Shared.workerNext_of_crashes hcrash, if_pos rfl, if_pos rfl]
    exact h.workerCrash hi
  | false => simpa using h.workerNext hi a hcrash

end

/-! ## What one receiver does -/

section

variable {cfg : Config} {receivers r : Nat} {c : Shared}
  {lostPayloads lostOuts : Multiset Nat} {s : Server} {rv : Receiver}

/-- The payload buffers a receiver loses. -/
def Shared.receiverLostPayloads (c : Shared) (r : Nat) : ReceiverStep → List Nat
  | .get pick =>
    match (c.receivers r).stage with
    | .passed => c.server.pool.givenUp pick ((c.receivers r).body.drop 8).length
    | _ => []
  | .crash => c.lentPayloads r ++ (c.copiedPayloads r).map Prod.fst
  | _ => []

@[simp] theorem Shared.server_setReceiver (c : Shared) (r : Nat) (rv : Receiver) :
    (c.setReceiver r rv).server = c.server := rfl

theorem Shared.lentPayloads_setReceiver (c : Shared) (r : Nat) (rv : Receiver) :
    (c.setReceiver r rv).lentPayloads r = rv.stage.spare := by
  simp [lentPayloads, setReceiver]

theorem Shared.copiedPayloads_setReceiver (c : Shared) (r : Nat) (rv : Receiver) :
    (c.setReceiver r rv).copiedPayloads r = rv.stage.filled := by
  simp [copiedPayloads, setReceiver]

/-- The other receivers. -/
theorem Shared.setReceiver_other (c : Shared) (r : Nat) (rv : Receiver) (j : Nat) (hj : j ≠ r) :
    (c.setReceiver r rv).lentPayloads j = c.lentPayloads j ∧
      (c.setReceiver r rv).copiedPayloads j = c.copiedPayloads j := by
  simp [lentPayloads, copiedPayloads, setReceiver, Function.update_of_ne hj]

/-- A step that leaves the workers and the output buffers. -/
theorem BuffersOwned.of_payloads {c' : Shared} {lostPayloads' : Multiset Nat}
    (h : BuffersOwned cfg receivers c lostPayloads lostOuts)
    (hworkers : c'.server.workers = c.server.workers)
    (hpool : c'.server.outBufPool = c.server.outBufPool) (houts : c'.outs = c.outs)
    (hstages : c'.stages = c.stages)
    (payloads : Tracked Holds c'.payloads c'.server.pool.next
      (c'.server.pool.ids + total cfg.relayWorkerCount c'.batchPayloads +
        total receivers c'.lentPayloads)
      (total cfg.relayWorkerCount c'.queuedPayloads + total receivers c'.copiedPayloads)
      lostPayloads') :
    BuffersOwned cfg receivers c' lostPayloads' lostOuts := by
  have hspare : c'.spareOuts = c.spareOuts := by
    funext i
    simp only [Shared.spareOuts, hworkers, hstages]
  have hfilled : c'.filledOuts = c.filledOuts := by
    funext i
    simp only [Shared.filledOuts, hworkers, hstages]
  refine ⟨payloads, ?_, ?_⟩
  · rw [hspare, hfilled, hpool, houts]
    exact h.outs
  · rw [hworkers, hstages]
    exact h.aligned

/-- **A step of a receiver that writes to no array** and leaves the workers. -/
theorem BuffersOwned.receiverMove {gone : Multiset Nat}
    (h : BuffersOwned cfg receivers c lostPayloads lostOuts) (hr : r < receivers)
    (hworkers : s.workers = c.server.workers) (hchs : s.relayChs = c.server.relayChs)
    (hpool : s.pool.next = c.server.pool.next) (houts : s.outBufPool = c.server.outBufPool)
    (once : s.pool.ids + rv.stage.spare + (rv.stage.filled.map Prod.fst : List Nat) + gone =
      c.server.pool.ids + c.lentPayloads r + ((c.copiedPayloads r).map Prod.fst : List Nat))
    (kept : ∀ p ∈ rv.stage.filled, p ∈ c.copiedPayloads r) :
    BuffersOwned cfg receivers (Shared.setReceiver { c with server := s } r rv)
      (lostPayloads + gone) lostOuts := by
  refine h.of_payloads hworkers houts rfl rfl ?_
  have hother := Shared.setReceiver_other { c with server := s } r rv
  have hbatch : (Shared.setReceiver { c with server := s } r rv).batchPayloads =
      c.batchPayloads := by
    funext i
    simp [Shared.batchPayloads, hworkers]
  have hqueued : (Shared.setReceiver { c with server := s } r rv).queuedPayloads =
      c.queuedPayloads := by
    funext i
    simp only [Shared.queuedPayloads, Shared.server_setReceiver, hchs]
    rfl
  have hbefore := h.payloads
  rw [add_right_comm, add_comm (total cfg.relayWorkerCount c.queuedPayloads)] at hbefore
  rw [hbatch, hqueued, Shared.server_setReceiver, hpool, add_right_comm,
    add_comm (total cfg.relayWorkerCount c.queuedPayloads)]
  apply hbefore.exchange hr (fun j hj => (hother j hj).1) (fun j hj => (hother j hj).2)
  · rw [Shared.lentPayloads_setReceiver, Shared.copiedPayloads_setReceiver]
    exact once
  · rw [Shared.copiedPayloads_setReceiver]
    exact kept

/-- **Taking a payload buffer.** -/
theorem BuffersOwned.getPayload (h : BuffersOwned cfg receivers c lostPayloads lostOuts)
    (hr : r < receivers) (hstage : (c.receivers r).stage = .passed) (pick len : Nat)
    (body : Bytes) :
    BuffersOwned cfg receivers
      (Shared.setReceiver
        { c with server := { c.server with pool := (c.server.pool.getPayload pick len).2 } }
        r ⟨body, .lent (c.server.pool.getPayload pick len).1⟩)
      (lostPayloads + c.server.pool.givenUp pick len) lostOuts := by
  refine h.of_payloads rfl rfl rfl rfl ?_
  set c' := Shared.setReceiver _ r _ with hc'
  have hother : ∀ j, j ≠ r → c'.lentPayloads j = c.lentPayloads j ∧
      c'.copiedPayloads j = c.copiedPayloads j :=
    fun j hj => Shared.setReceiver_other _ r _ j hj
  have hlent : total receivers c'.lentPayloads =
      {(c.server.pool.getPayload pick len).1.id} + total receivers c.lentPayloads := by
    have hchange := Tally.total_change (f := c.lentPayloads) (Or.inl hr)
      (fun j hj => (hother j hj).1)
    simpa [hc', Shared.lentPayloads, Shared.setReceiver, hstage, ReceiverStage.spare,
      add_comm] using hchange
  have hcopied : total receivers c'.copiedPayloads = total receivers c.copiedPayloads := by
    have hchange := Tally.total_change (f := c.copiedPayloads) (Or.inl hr)
      (fun j hj => (hother j hj).2)
    simpa [hc', Shared.copiedPayloads, Shared.setReceiver, hstage, ReceiverStage.filled]
      using hchange
  have hbefore := h.payloads
  rw [add_assoc] at hbefore
  have hget := Pool.tracked_getPayload hbefore pick len
  rw [add_left_comm {_}, ← add_assoc] at hget
  rw [hlent, hcopied]
  exact hget

/-- **Copying a payload.** -/
theorem BuffersOwned.copy {buf : Buf} {body : Bytes}
    (h : BuffersOwned cfg receivers c lostPayloads lostOuts) (hr : r < receivers)
    (hstage : (c.receivers r).stage = .lent buf) (job : RelayJob)
    (hbuf : job.payload.buf = buf) :
    BuffersOwned cfg receivers
      (Shared.setReceiver
        { c with
          payloads := Function.update c.payloads buf.id
            (overwrite (c.payloads buf.id) job.payload.data) }
        r ⟨body, .copied job⟩) lostPayloads lostOuts := by
  refine h.of_payloads rfl rfl rfl rfl ?_
  have hother := Shared.setReceiver_other { c with
    payloads := Function.update c.payloads buf.id
      (overwrite (c.payloads buf.id) job.payload.data) } r ⟨body, .copied job⟩
  have hbefore := h.payloads
  rw [add_right_comm, add_comm (total cfg.relayWorkerCount c.queuedPayloads)] at hbefore
  have hafter := hbefore.fillAt (b := buf.id) (v := job.payload.data) hr
    (fun j hj => (hother j hj).1) (fun j hj => (hother j hj).2) ?_ ?_
    (holds_overwrite (c.payloads buf.id) _)
  · rw [add_right_comm, add_comm (total receivers _)] at hafter
    exact hafter
  · rw [Shared.lentPayloads_setReceiver, Shared.lentPayloads, hstage]
    rfl
  · rw [Shared.copiedPayloads_setReceiver, Shared.copiedPayloads, hstage, ← hbuf]
    rfl

/-- **Handing a job over**, or giving its buffer back if the queue is full. -/
theorem BuffersOwned.enqueue {job : RelayJob} {body : Bytes}
    (h : BuffersOwned cfg receivers c lostPayloads lostOuts) (hr : r < receivers)
    (hstage : (c.receivers r).stage = .copied job) :
    BuffersOwned cfg receivers
      (Shared.setReceiver { c with server := (c.server.enqueueRelay cfg job).1 } r ⟨body, .idle⟩)
      lostPayloads lostOuts := by
  have hlent₀ : c.lentPayloads r = [] := by rw [Shared.lentPayloads, hstage]; rfl
  have hcopied₀ : c.copiedPayloads r = [job.payload.cell] := by
    rw [Shared.copiedPayloads, hstage]; rfl
  unfold Server.enqueueRelay
  dsimp only
  split_ifs with hroom
  · refine h.of_payloads rfl rfl rfl rfl ?_
    set c' := Shared.setReceiver _ r _ with hc'
    have hother : ∀ j, j ≠ r → c'.lentPayloads j = c.lentPayloads j ∧
        c'.copiedPayloads j = c.copiedPayloads j :=
      fun j hj => Shared.setReceiver_other _ r _ j hj
    have hlent := Tally.total_change (f := c.lentPayloads) (Or.inl hr)
      (fun j hj => (hother j hj).1)
    have hcopied := Tally.total_change (f := c.copiedPayloads) (Or.inl hr)
      (fun j hj => (hother j hj).2)
    have hqueued := Tally.total_change (f := c.queuedPayloads) (g := c'.queuedPayloads)
      (Or.inl (relayQueueFor_lt cfg job.destID)) ?_
    · -- what the receiver had is now at the end of the queue
      have hi : c'.queuedPayloads (relayQueueFor cfg job.destID) =
          c.queuedPayloads (relayQueueFor cfg job.destID) ++ [job.payload.cell] := by
        simp [hc', Shared.queuedPayloads, Shared.setReceiver]
      rw [hi, ← Multiset.coe_add, ← add_assoc, add_right_comm, add_right_cancel_iff] at hqueued
      rw [hlent₀, show c'.lentPayloads r = [] from Shared.lentPayloads_setReceiver ..,
        add_right_cancel_iff] at hlent
      rw [hcopied₀, show c'.copiedPayloads r = [] from Shared.copiedPayloads_setReceiver ..,
        Multiset.coe_nil, add_zero] at hcopied
      have hbefore := h.payloads
      rw [← hcopied, add_comm (total receivers c'.copiedPayloads), ← add_assoc, ← hqueued,
        ← hlent] at hbefore
      exact hbefore
    · intro j hj
      simp [hc', Shared.queuedPayloads, Shared.setReceiver, Function.update_of_ne hj]
  · rw [← add_zero lostPayloads]
    refine h.receiverMove hr rfl rfl rfl rfl ?_ nofun
    rw [hlent₀, hcopied₀]
    simp only [Pool.ids_put, ReceiverStage.spare, ReceiverStage.filled, List.map_cons,
      List.map_nil, Multiset.coe_nil, Slice.cell, Multiset.coe_singleton]
    abel

theorem Server.admitRelay_frame (cfg : Config) (env : Env) (now : Int) (s : Server) (data : Bytes)
    (src : RelaySourceKey) :
    ∃ rl dropped notFound, (s.admitRelay cfg env now data src).1 =
      { s with relayRL := rl, relayDropped := dropped, relayNotFound := notFound } := by
  unfold Server.admitRelay
  split_ifs <;> exact ⟨_, _, _, rfl⟩

theorem BuffersOwned.unchanged (h : BuffersOwned cfg receivers c lostPayloads lostOuts) :
    BuffersOwned cfg receivers c (lostPayloads + ([] : List Nat)) lostOuts := by
  rwa [Multiset.coe_nil, add_zero]

/-- **What a receiver does.** -/
theorem BuffersOwned.receiver (h : BuffersOwned cfg receivers c lostPayloads lostOuts)
    (hr : r < receivers) (a : ReceiverStep) :
    BuffersOwned cfg receivers (c.receiverNext cfg r a)
      (lostPayloads + c.receiverLostPayloads r a) lostOuts := by
  fun_cases Shared.receiverNext cfg c r a
  case case1 now env data remote bridgePeer hstage body _ s admitted hpassed =>
    obtain ⟨_, _, _, hs⟩ := c.server.admitRelay_frame cfg env now body
      (relaySource remote bridgePeer)
    rw [hpassed] at hs
    subst hs
    have hlent₀ : c.lentPayloads r = [] := by
      rw [Shared.lentPayloads, show (c.receivers r).stage = _ from hstage]; rfl
    have hcopied₀ : c.copiedPayloads r = [] := by
      rw [Shared.copiedPayloads, show (c.receivers r).stage = _ from hstage]; rfl
    refine h.receiverMove hr rfl rfl rfl rfl ?_ ?_
    · rw [hlent₀, hcopied₀]
      cases admitted <;> exact add_zero _
    · cases admitted <;> exact nofun
  case case2 => exact h.unchanged
  case case3 pick hstage buf pool hget =>
    have hlent := h.getPayload hr hstage pick ((c.receivers r).body.drop 8).length
      (c.receivers r).body
    rw [show c.server.pool.getPayload pick ((c.receivers r).body.drop 8).length = _ from hget]
      at hlent
    rw [Shared.receiverLostPayloads, show (c.receivers r).stage = _ from hstage]
    exact hlent
  case case4 buf hstage =>
    exact (h.copy hr hstage ⟨BigEndian.uint32 (c.receivers r).body,
      BigEndian.uint32 ((c.receivers r).body.drop 4), ⟨buf, (c.receivers r).body.drop 8⟩⟩
      rfl).unchanged
  case case5 job hstage => exact (h.enqueue hr hstage).unchanged
  case case6 =>
    refine h.receiverMove hr rfl rfl rfl rfl ?_ nofun
    simp only [Shared.receiverLostPayloads, ReceiverStage.spare, ReceiverStage.filled,
      List.map_nil, Multiset.coe_nil, ← Multiset.coe_add]
    abel
  case case7 hcrash _ hget _ _ =>
    have hnone : c.receiverLostPayloads r a = [] := by
      cases a with
      | get pick =>
        unfold Shared.receiverLostPayloads
        cases hstage : (c.receivers r).stage with
        | passed => exact absurd rfl (hget pick hstage)
        | _ => rfl
      | crash => exact absurd rfl hcrash
      | _ => rfl
    rw [hnone]
    exact h.unchanged

end

/-! ## Runs -/

/-- The payload buffers a step loses. -/
def payloadsLost (cfg : Config) (receivers : Nat) (c : Shared) : SharedStep → List Nat
  | .receiver r a => if r < receivers then c.receiverLostPayloads r a else []
  | .worker i a => if i < cfg.relayWorkerCount then c.workerLostPayloads cfg i a else []
  | _ => []

/-- The output buffers a step loses. -/
def outsLost (cfg : Config) (c : Shared) : SharedStep → List Nat
  | .worker i a => if i < cfg.relayWorkerCount then c.workerLostOuts cfg i a else []
  | _ => []

/-- The state after the steps `es`. -/
def sharedRun (cfg : Config) (receivers : Nat) (peers : List Text) (es : List SharedStep) :
    Shared :=
  Transition.run (sharedNext cfg receivers) (Shared.start cfg peers) es

/-- What `f` sees along the run. -/
def sharedSeen {α : Type} (cfg : Config) (receivers : Nat) (peers : List Text)
    (f : Shared → SharedStep → List α) (es : List SharedStep) : List α :=
  Transition.observe (sharedNext cfg receivers) f (Shared.start cfg peers) es

section

variable {cfg : Config} {receivers : Nat} {c : Shared}

theorem BuffersOwned.next {lostP lostO : Multiset Nat}
    (h : BuffersOwned cfg receivers c lostP lostO) (e : SharedStep) :
    BuffersOwned cfg receivers (sharedNext cfg receivers c e)
      (lostP + payloadsLost cfg receivers c e) (lostO + outsLost cfg c e) := by
  cases e with
  | receiver r a =>
    simp only [sharedNext, payloadsLost, outsLost, Multiset.coe_nil, add_zero]
    split_ifs with hr
    · exact h.receiver hr a
    · exact h.unchanged
  | worker i a =>
    simp only [sharedNext, payloadsLost, outsLost]
    split_ifs with hi
    · exact h.worker hi a
    · simpa using h
  | setTables t =>
    have h' : BuffersOwned cfg receivers (sharedNext cfg receivers c (.setTables t)) lostP lostO :=
      ⟨h.payloads, h.outs, h.aligned⟩
    simpa [payloadsLost, outsLost] using h'
  | listen addr =>
    have h' : BuffersOwned cfg receivers (sharedNext cfg receivers c (.listen addr)) lostP lostO :=
      ⟨h.payloads, h.outs, h.aligned⟩
    simpa [payloadsLost, outsLost] using h'
  | close =>
    have h' : BuffersOwned cfg receivers (sharedNext cfg receivers c .close) lostP lostO :=
      ⟨h.payloads, h.outs, h.aligned⟩
    simpa [payloadsLost, outsLost] using h'

/-- At the start there are no buffers. -/
theorem BuffersOwned.start (cfg : Config) (receivers : Nat) (peers : List Text) :
    BuffersOwned cfg receivers (Shared.start cfg peers) 0 0 := by
  have hempty : ∀ {α : Type} (n : Nat), total n (fun _ => ([] : List α)) = 0 := by
    simp [total]
  refine ⟨?_, ?_, fun _ => rfl⟩
  · change Tracked Holds _ 0 (0 + total _ (fun _ => []) + total _ fun _ => [])
      (total _ (fun _ => []) + total _ fun _ => []) 0
    simpa only [hempty, add_zero] using Tracked.empty Holds _
  · change Tracked Holds _ 0 (0 + total _ fun _ => []) (total _ fun _ => []) 0
    simpa only [hempty, add_zero] using Tracked.empty Holds _

/-- **One owner.** After every run, every buffer ever allocated is with one owner or lost. -/
theorem shared_owned (cfg : Config) (receivers : Nat) (peers : List Text) (es : List SharedStep) :
    BuffersOwned cfg receivers (sharedRun cfg receivers peers es)
      (sharedSeen cfg receivers peers (payloadsLost cfg receivers) es)
      (sharedSeen cfg receivers peers (outsLost cfg) es) := by
  apply Transition.run_induction (sharedNext cfg receivers) (fun es c =>
    BuffersOwned cfg receivers c (sharedSeen cfg receivers peers (payloadsLost cfg receivers) es)
      (sharedSeen cfg receivers peers (outsLost cfg) es))
  · exact BuffersOwned.start cfg receivers peers
  · intro es e h
    simpa only [sharedSeen, Transition.observe_concat, ← Multiset.coe_add] using h.next e

end

end PilotBeacon
