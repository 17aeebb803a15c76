import PilotBeacon.Server.Process
import Mathlib.Algebra.Order.Group.Multiset

/-!
# Readers Hand Over What They Receive

A reader fills the same 32 buffers again with every batch, so a buffer holds the end of an older,
longer datagram behind the newest one. Nothing of that reaches `handlePacket`: whatever the
goroutines do in between, each reader hands over the datagrams of its socket in order, whole and
once, and loses some only if its own loop panics.

- `Reader.pending`: what is left of the batch
- `packets_fillSlots`: filling used buffers is as good as filling new ones
- `readers_exact`: the statement about runs
-/

namespace PilotBeacon

open PilotBeacon.Lib PilotBeacon.Net

/-! ## One batch -/

/-- Thirty-two messages, each with a whole buffer. -/
structure Reader.Sized (rd : Reader) : Prop where
  count : rd.msgs.length = readBatchCap
  buffers : ∀ m ∈ rd.msgs, m.buffer.length = readBufferSize

/-- What is still to be handed over of the batch. -/
def Reader.pending (rd : Reader) : List (UDPAddr × Bytes) :=
  match rd.stage with
  | .handling i n => ((rd.msgs.take n).drop i).filterMap ReadSlot.packet?
  | _ => []

theorem ReadSlot.length_fill (m : ReadSlot) (x : Arrived) :
    (m.fill x).buffer.length = m.buffer.length := by
  simp [ReadSlot.fill]

/-- What was in the buffer before does not show. -/
theorem ReadSlot.packet?_fill {m : ReadSlot} (h : m.buffer.length = readBufferSize)
    (x : Arrived) : (m.fill x).packet? = x.packet? := by
  have hpos : 0 < readBufferSize := by decide
  have hempty : (x.data.take readBufferSize).length < 1 ↔ x.data.length < 1 := by
    simp only [List.length_take]
    omega
  simp only [ReadSlot.fill, ReadSlot.packet?, Arrived.packet?, h, hempty, List.take_left]

theorem length_fillSlots (ms : List ReadSlot) (xs : List Arrived) :
    (fillSlots ms xs).length = ms.length := by
  induction ms, xs using fillSlots.induct with
  | case1 m ms x xs ih => simp [fillSlots, ih]
  | case2 ms => cases ms <;> rfl
  | case3 xs h => cases xs <;> rfl

theorem buffers_fillSlots {ms : List ReadSlot} (xs : List Arrived)
    (h : ∀ m ∈ ms, m.buffer.length = readBufferSize) :
    ∀ m ∈ fillSlots ms xs, m.buffer.length = readBufferSize := by
  induction ms, xs using fillSlots.induct with
  | case1 m ms x xs ih =>
    simp only [List.forall_mem_cons] at h
    simp only [fillSlots, List.forall_mem_cons, ReadSlot.length_fill]
    exact ⟨h.1, ih h.2⟩
  | case2 ms => cases ms <;> exact h
  | case3 xs _ => cases xs <;> simp [fillSlots]

/-- **Used buffers are as good as new ones**: the filled messages are the datagrams that arrived,
    as far as there are messages. -/
theorem packets_fillSlots {ms : List ReadSlot} (xs : List Arrived)
    (h : ∀ m ∈ ms, m.buffer.length = readBufferSize) :
    ((fillSlots ms xs).take (xs.take ms.length).length).filterMap ReadSlot.packet? =
      (xs.take ms.length).filterMap Arrived.packet? := by
  induction ms, xs using fillSlots.induct with
  | case1 m ms x xs ih =>
    simp only [List.forall_mem_cons] at h
    simp only [fillSlots, List.length_cons, List.take_succ_cons, List.filterMap_cons,
      ReadSlot.packet?_fill h.1, ih h.2]
  | case2 ms => simp
  | case3 xs _ => simp

namespace Reader

theorem sized_fresh (stage : ReaderStage) : Sized ⟨stage, freshSlots⟩ where
  count := List.length_replicate
  buffers := by
    intro m hm
    rw [List.eq_of_mem_replicate hm]
    exact List.length_replicate

variable {rd : Reader}

theorem Sized.read (h : rd.Sized) (closed done : Bool) (result : Option (List Arrived)) :
    (rd.read closed done result).Sized := by
  obtain ⟨stage, msgs⟩ := rd
  cases stage with
  | reading =>
    cases closed with
    | true => exact ⟨h.count, h.buffers⟩
    | false =>
      cases result with
      | none => cases done <;> exact ⟨h.count, h.buffers⟩
      | some xs => exact ⟨(length_fillSlots _ _).trans h.count, buffers_fillSlots _ h.buffers⟩
  | _ => exact h

theorem Sized.handle (h : rd.Sized) : rd.handle.Sized := by
  unfold Reader.handle
  split <;> exact ⟨h.count, h.buffers⟩

theorem Sized.unwind (h : rd.Sized) (done : Bool) : (rd.unwind done).Sized := by
  obtain ⟨stage, msgs⟩ := rd
  cases stage with
  | idle | ended => exact h
  | reading | handling i n =>
    cases done with
    | true => exact ⟨h.count, h.buffers⟩
    | false => exact sized_fresh _

/-- The loop over the batch takes the first of what is pending. -/
theorem pending_handle (rd : Reader) : rd.pending = rd.current.toList ++ rd.handle.pending := by
  obtain ⟨stage, msgs⟩ := rd
  cases stage with
  | handling i n =>
    simp only [pending, current, handle]
    by_cases hi : i < n
    · simp only [hi, if_true]
      rw [List.drop_eq_getElem?_toList_append, List.filterMap_append,
        List.getElem?_take_of_lt hi]
      cases msgs[i]? with
      | none => rfl
      | some m => cases hm : m.packet? <;> simp [hm]
    · -- the batch is over
      have hend : (msgs.take n).drop i = [] :=
        List.drop_eq_nil_of_le ((List.length_take_le n msgs).trans (Nat.le_of_not_lt hi))
      simp [hi, hend]
  | _ => rfl

theorem pending_unwind (rd : Reader) (done : Bool) : (rd.unwind done).pending = [] := by
  obtain ⟨stage, msgs⟩ := rd
  cases stage <;> cases done <;> rfl

end Reader

/-! ## What the goroutines show -/

/-- The datagrams reader `r` gets from its socket at a step. -/
def datagramsRead (r : Nat) (p : Process) : ProcessStep → List (UDPAddr × Bytes)
  | .read j (some xs) =>
    if j = r ∧ (p.readers r).stage = .reading ∧ p.readerClosed r = false then
      (xs.take readBatchCap).filterMap Arrived.packet?
    else []
  | _ => []

/-- The datagram reader `r` hands to `handlePacket` at a step. -/
def handedBy (r : Nat) (p : Process) : ProcessStep → List (UDPAddr × Bytes)
  | .handle j _ _ => if j = r then (p.readers r).current.toList else []
  | _ => []

/-- What reader `r` drops because its loop panics. -/
def abandoned (r : Nat) (p : Process) : ProcessStep → List (UDPAddr × Bytes)
  | .unwind j => if j = r then (p.readers r).pending else []
  | _ => []

/-! ## A reader along a run -/

/-- Readers start with the goroutines and keep their thirty-two buffers. -/
structure ReadersInv (p : Process) : Prop where
  sized : ∀ r, (p.readers r).Sized
  waiting : p.serve ≠ .serving → ∀ r, (p.readers r).stage = .idle

namespace Process

variable (pl : Platform) (p : Process)

@[simp] theorem listenStep_readers : p.listenStep.readers = p.readers := by
  unfold listenStep
  split <;> rfl

@[simp] theorem bindStep_readers (result : Option UDPAddr) :
    (p.bindStep pl result).readers = p.readers := by
  unfold bindStep
  split
  · split_ifs
    · cases result <;> rfl
    · rfl
  · rfl

@[simp] theorem appendStep_readers : p.appendStep.readers = p.readers := by
  unfold appendStep
  split <;> rfl

@[simp] theorem cleanupStep_readers : p.cleanupStep.readers = p.readers := by
  unfold cleanupStep
  split <;> rfl

/-- A call of `Close` touches neither `ListenAndServe` nor its readers. -/
theorem closeStep_frame (k : Nat) (ok : Bool) :
    (p.closeStep k ok).readers = p.readers ∧ (p.closeStep k ok).serve = p.serve ∧
      (p.closeStep k ok).conns = p.conns ∧ (p.closeStep k ok).sendConns = p.sendConns := by
  unfold closeStep
  split
  · split_ifs <;> exact ⟨rfl, rfl, rfl, rfl⟩
  · split
    all_goals first | exact ⟨rfl, rfl, rfl, rfl⟩ | (split_ifs <;> exact ⟨rfl, rfl, rfl, rfl⟩)
  · exact ⟨rfl, rfl, rfl, rfl⟩

end Process

section

variable {cfg : Config} {pl : Platform} {p : Process}

/-- `ListenAndServe` serves for good. -/
theorem serving_next (h : p.serve = .serving) (e : ProcessStep) :
    (processNext cfg pl p e).serve = .serving := by
  cases e with
  | close k now ok => exact (p.closeStep_frame k ok).2.1.trans h
  | _ =>
    simp [processNext, Process.goroutineStep, Process.listenStep, Process.bindStep,
      Process.appendStep, Process.cleanupStep, Process.serveStep, Process.setReader, h]

/-- What each step does to reader `r`. -/
theorem readers_next (r : Nat) (e : ProcessStep) :
    (processNext cfg pl p e).readers r =
      match e with
      | .serve _ => (p.serveStep pl).readers r
      | .read j result =>
        if j = r then (p.readers r).read (p.readerClosed r) p.server.done result else p.readers r
      | .handle j _ _ => if j = r then (p.readers r).handle else p.readers r
      | .unwind j => if j = r then (p.readers r).unwind p.server.done else p.readers r
      | _ => p.readers r := by
  have hset : ∀ (f : Reader → Reader) (j : Nat), (p.setReader j (f (p.readers j))).readers r =
      if j = r then f (p.readers r) else p.readers r := by
    intro f j
    by_cases hj : j = r
    · simp [Process.setReader, hj]
    · simp [Process.setReader, hj, Function.update_of_ne (Ne.symm hj)]
  cases e with
  | read j result =>
    by_cases hj : j = r
    · simp [processNext, Process.goroutineStep, Process.setReader, hj]
    · simp [processNext, Process.goroutineStep, Process.setReader, hj,
        Function.update_of_ne (Ne.symm hj)]
  | handle j now env => exact hset Reader.handle j
  | unwind j => exact hset (fun rd => rd.unwind p.server.done) j
  | close k now ok => exact congrFun (p.closeStep_frame k ok).1 r
  | _ => simp [processNext, Process.goroutineStep]

/-- The goroutines start with new messages, or reader `r` does not start. -/
theorem readers_serveStep (r : Nat) :
    (p.serveStep pl).readers r = p.readers r ∨
      (p.serve ≠ .serving ∧ (p.serveStep pl).serve = .serving ∧
        (p.serveStep pl).readers r = ⟨.reading, freshSlots⟩) := by
  unfold Process.serveStep
  split
  · rename_i i hserve
    by_cases hi : i < pl.readers
    · exact .inl (by simp [hi])
    · by_cases hr : r < p.conns.length
      · exact .inr (by simp [hserve, hi, hr])
      · exact .inl (by simp [hi, hr])
  · exact .inl rfl

theorem readersInv_new (cfg : Config) (peers : List Text) : ReadersInv (Process.new cfg peers) :=
  ⟨fun _ => Reader.sized_fresh _, fun _ _ => rfl⟩

theorem ReadersInv.next (h : ReadersInv p) (e : ProcessStep) :
    ReadersInv (processNext cfg pl p e) := by
  refine ⟨fun r => ?_, fun hserve r => ?_⟩
  · rw [readers_next]
    have hr := h.sized r
    cases e with
    | serve now =>
      rcases @readers_serveStep pl p r with hsame | ⟨-, -, hfresh⟩
      · simpa only [hsame] using hr
      · simpa only [hfresh] using Reader.sized_fresh _
    | read j result =>
      dsimp only
      split_ifs
      · exact hr.read _ _ _
      · exact hr
    | handle j now env =>
      dsimp only
      split_ifs
      · exact hr.handle
      · exact hr
    | unwind j =>
      dsimp only
      split_ifs
      · exact hr.unwind _
      · exact hr
    | _ => exact hr
  · -- nobody has started yet, so nobody moves
    have hidle := h.waiting (fun hserving => hserve (serving_next hserving e)) r
    rw [readers_next]
    cases e with
    | serve now =>
      rcases @readers_serveStep pl p r with hsame | ⟨-, hserving, -⟩
      · simpa only [hsame] using hidle
      · exact absurd hserving hserve
    | _ => simp [Reader.read, Reader.handle, Reader.unwind, hidle]

/-- **What a step does to a reader's datagrams**: it moves the first pending one on or fetches a
    batch when none is pending, or it drops them all. -/
theorem reader_step (h : ReadersInv p) (r : Nat) (e : ProcessStep) :
    ((p.readers r).pending ++ datagramsRead r p e =
        handedBy r p e ++ ((processNext cfg pl p e).readers r).pending ∧ abandoned r p e = []) ∨
      (datagramsRead r p e = [] ∧ handedBy r p e = [] ∧
        abandoned r p e = (p.readers r).pending ∧
        ((processNext cfg pl p e).readers r).pending = []) := by
  rw [readers_next]
  cases e with
  | serve now =>
    refine .inl ⟨?_, rfl⟩
    rcases @readers_serveStep pl p r with hsame | ⟨hserve, -, hfresh⟩
    · simp [datagramsRead, handedBy, hsame]
    · simp [datagramsRead, handedBy, hfresh, Reader.pending, h.waiting hserve r]
  | read j result =>
    refine .inl ⟨?_, rfl⟩
    by_cases hj : j = r
    · subst hj
      have hsized := h.sized j
      cases hstage : (p.readers j).stage with
      | reading =>
        cases hclosed : p.readerClosed j <;> cases result
        case false.some xs =>
          have hbatch := packets_fillSlots xs hsized.buffers
          rw [hsized.count] at hbatch
          simp [datagramsRead, handedBy, Reader.pending, Reader.read, hstage, hclosed,
            hsized.count, ← hbatch]
        case false.none =>
          cases hdone : p.server.done <;>
            simp [datagramsRead, handedBy, Reader.pending, Reader.read, hstage]
        all_goals simp [datagramsRead, handedBy, Reader.pending, Reader.read, hstage, hclosed]
      | _ => cases result <;> simp [datagramsRead, handedBy, Reader.pending, Reader.read, hstage]
    · cases result <;> simp [datagramsRead, handedBy, hj]
  | handle j now env =>
    refine .inl ⟨?_, rfl⟩
    by_cases hj : j = r
    · subst hj
      simpa [datagramsRead, handedBy] using (p.readers j).pending_handle
    · simp [datagramsRead, handedBy, hj]
  | unwind j =>
    by_cases hj : j = r
    · subst hj
      exact .inr ⟨rfl, rfl, by simp [abandoned], by simpa using Reader.pending_unwind _ _⟩
    · simp [datagramsRead, handedBy, abandoned, hj]
  | _ => simp [datagramsRead, handedBy, abandoned]

end

/-- **Readers are exact.** In every interleaving, what a reader has handed over and what it still
    holds of its batch is, in order, among the datagrams it got from its socket, each of them cut
    to a buffer and with its own source; together with what panics of its loop dropped, that is
    all of them, each once. -/
theorem readers_exact (cfg : Config) (pl : Platform) (peers : List Text) (es : List ProcessStep)
    (r : Nat) :
    let p := processRun cfg pl peers es
    (processShows cfg pl peers (handedBy r) es ++ (p.readers r).pending).Sublist
        (processShows cfg pl peers (datagramsRead r) es) ∧
      (↑(processShows cfg pl peers (datagramsRead r) es) : Multiset (UDPAddr × Bytes)) =
        ↑(processShows cfg pl peers (handedBy r) es) +
          ↑(processShows cfg pl peers (abandoned r) es) + ↑(p.readers r).pending := by
  have hexact := Transition.run_induction (processNext cfg pl) (s := Process.new cfg peers)
    (fun es p => ReadersInv p ∧
      (processShows cfg pl peers (handedBy r) es ++ (p.readers r).pending).Sublist
        (processShows cfg pl peers (datagramsRead r) es) ∧
      (↑(processShows cfg pl peers (datagramsRead r) es) : Multiset (UDPAddr × Bytes)) =
        ↑(processShows cfg pl peers (handedBy r) es) +
          ↑(processShows cfg pl peers (abandoned r) es) + ↑(p.readers r).pending)
    ⟨readersInv_new cfg peers, by simp [processShows, Process.new, Reader.pending],
      by simp [processShows, Process.new, Reader.pending]⟩ ?_ es
  · exact hexact.2
  · rintro es e ⟨hinv, hsub, hcount⟩
    simp only [processShows, Transition.observe_concat] at hsub hcount ⊢
    refine ⟨hinv.next e, ?_⟩
    rcases @reader_step cfg pl _ hinv r e with ⟨hmove, hkeep⟩ | ⟨hread, hhand, hdrop, hrest⟩
    · -- the pending ones and a new batch, in this order, are what comes next
      refine ⟨?_, ?_⟩
      · rw [List.append_assoc, ← hmove, ← List.append_assoc]
        exact hsub.append_right _
      · have hmove' := congrArg Multiset.ofList hmove
        simp only [← Multiset.coe_add] at hmove' ⊢
        rw [hcount, hkeep, Multiset.coe_nil, add_zero, add_assoc, hmove']
        exact (add_assoc _ _ _).symm.trans (congrArg (· + _) (add_right_comm _ _ _))
    · -- the batch is given up
      simp only [hread, hhand, hdrop, hrest, List.append_nil, ← Multiset.coe_add,
        Multiset.coe_nil, add_zero]
      exact ⟨(List.sublist_append_left _ _).trans hsub, hcount.trans (add_assoc _ _ _)⟩

end PilotBeacon
