import PilotBeacon.WSS.Transport

/-!
# What `Recv` Returns

The daemon's transport loses its connection and dials a new one behind the back of `Recv`. Here:
whatever the schedule and whatever the library does, `Recv` returns every binary frame that was
read, on whichever connection, once and in the order of reading, and `ErrClosed` only after the
last of them.

`drainReads` selects between the channel and `superviseDoneCh` when it hands a frame over, and
would lose the frame with the latter; but only its own goroutine closes that channel, so this
branch is never taken.

- `binaryReads`, `recvResults`: what is read, and what `Recv` returns
- `Delivered`: the two against what waits in between
- `transport_exact`: the statement about runs
-/

namespace PilotBeacon.WSS.Daemon

open PilotBeacon.Lib

/-- The frame that `drainReads` has read and not handed over. -/
def SuperviseStage.atHand : SuperviseStage → List Bytes
  | .handing _ frame => [frame]
  | _ => []

/-- Nothing more is read: `supervise` is on its way out, if the transport is closed. -/
def SuperviseStage.leaving : SuperviseStage → Bool
  | .drained _ | .exited => true
  | _ => false

theorem SuperviseStage.atHand_of_leaving {stage : SuperviseStage} (h : stage.leaving = true) :
    stage.atHand = [] := by
  cases stage <;> first | rfl | cases h

/-- The connections `supervise` may read from next, if any. -/
def SuperviseStage.source : SuperviseStage → Option Nat
  | .drainTop c | .reading c | .readFailed c | .handing c _ | .drained c => some c
  | .dialed (some c) | .installing c => some c
  | _ => none

namespace Transport

/-- The binary frame a step reads, with its connection. -/
def binaryReads (t : Transport) : Event → List (Nat × Bytes)
  | .supervise (.read (.binary body) _) =>
    match t.supervisor with
    | .reading conn => [(conn, body)]
    | _ => []
  | _ => []

/-- What `Recv` returns at a step. -/
def recvResults (t : Transport) : Event → List RecvItem
  | .recv => (t.recv.map Prod.fst).toList
  | _ => []

/-- What a run after `Dial` shows. -/
def shows {α : Type} (recvBuffer : Nat) (f : Transport → Event → List α) (es : List Event) :
    List α :=
  Transition.observe (next recvBuffer) f dial es

/-- **Reads against returns.** `frames` have gone into the channel, then `k` times `ErrClosed`. -/
def InOrder (reads : List Bytes) (results : List RecvItem) (t : Transport) : Prop :=
  ∃ frames k, results ++ t.recvCh =
      frames.map RecvItem.frame ++ List.replicate k .errClosed ∧
    reads = frames ++ t.supervisor.atHand ∧
    (0 < k → t.closed = true ∧ t.supervisor.leaving = true)

/-- Connections are read in the order in which they were opened, and the next to be read from is
    none of the older ones. -/
structure Sorted (conns : List Nat) (t : Transport) : Prop where
  pairwise : conns.Pairwise (· ≤ ·)
  opened : ∀ c ∈ conns, c < t.opened
  source : ∀ d, t.supervisor.source = some d ∨ t.conn = some d →
    d < t.opened ∧ ∀ c ∈ conns, c ≤ d

variable {recvBuffer : Nat} {t t' : Transport} {reads : List Bytes} {conns : List Nat}
  {results : List RecvItem}

theorem inOrder_dial : InOrder [] [] dial := ⟨[], 0, rfl, rfl, by simp⟩

theorem sorted_dial : Sorted [] dial where
  pairwise := List.Pairwise.nil
  opened := by simp
  source := by simp [dial, SuperviseStage.source]

/-- `supervise` takes a frame up, puts it or an error into the channel, or none of these. -/
theorem InOrder.supervise (ho : InOrder reads results t) (hc : t.Consistent) {act : SuperviseAct}
    (h : t.superviseStep recvBuffer act = some t') :
    InOrder (reads ++ (t.binaryReads (.supervise act)).map Prod.snd) results t' := by
  obtain ⟨frames, k, hchannel, hreads, hend⟩ := ho
  revert h
  fun_cases superviseStep recvBuffer t act <;> rintro ⟨⟩
  case case9 c shuts hstage body =>
    -- a frame is taken up
    refine ⟨frames, k, hchannel, ?_, fun hk => ?_⟩
    · simp [hreads, binaryReads, hstage, SuperviseStage.atHand]
    · simpa [hstage, SuperviseStage.leaving] using (hend hk).2
  case case10 c hstage hroom =>
    -- an error is the last that goes into the channel
    refine ⟨frames, k + 1, ?_, ?_, fun _ => ⟨hroom.1, rfl⟩⟩
    · rw [← List.append_assoc, hchannel, List.append_assoc, List.replicate_succ']
    · simpa [binaryReads, hstage, SuperviseStage.atHand] using hreads
  case case12 c frame hstage hroom =>
    -- no error is in the channel while there is a frame to hand over
    have hk : k = 0 := Nat.eq_zero_of_not_pos fun hk => by
      simpa [hstage, SuperviseStage.leaving] using (hend hk).2
    subst hk
    refine ⟨frames ++ [frame], 0, ?_, ?_, by simp⟩
    · rw [← List.append_assoc, hchannel]
      simp
    · simpa [binaryReads, hstage, SuperviseStage.atHand] using hreads
  case case14 c frame hstage hdone =>
    -- only the supervisor's return closes the channel it waits for
    rw [hc.done_iff, hstage] at hdone
    cases hdone
  all_goals
    refine ⟨frames, k, hchannel, ?_, fun hk => ?_⟩
    · simp_all [binaryReads, SuperviseStage.atHand, exit, shutConn]
    · have hlast := hend hk
      simp_all [SuperviseStage.leaving, exit]

/-- `Recv` takes from the front, or finds the channel closed when nothing can come any more. -/
theorem InOrder.recv (ho : InOrder reads results t) (hc : t.Consistent)
    (hclosed : t.recvClosed = true → t.closer = .returned) :
    InOrder reads (results ++ t.recvResults .recv) (t.next recvBuffer .recv) := by
  obtain ⟨frames, k, hchannel, hreads, hend⟩ := ho
  cases hch : t.recvCh with
  | cons item rest =>
    refine ⟨frames, k, ?_, ?_, ?_⟩
    · simpa [recvResults, next, step, Transport.recv, hch] using hchannel
    · simpa [next, step, Transport.recv, hch] using hreads
    · simpa [next, step, Transport.recv, hch] using hend
  | nil =>
    by_cases hrecv : t.recvClosed = true
    · -- `Close` has returned, and so has `supervise`
      have hreturned := hclosed hrecv
      have hexited := hc.done_iff.mp (hc.done_of_returned hreturned)
      have hmarked := hc.closed_of_close (by simp [hreturned])
      refine ⟨frames, k + 1, ?_, ?_, fun _ => ?_⟩
      · simp only [hch, List.append_nil] at hchannel
        simp [recvResults, next, step, Transport.recv, hch, hrecv, hchannel,
          List.replicate_succ']
      · simpa [next, step, Transport.recv, hch, hrecv] using hreads
      · simp [next, step, Transport.recv, hch, hrecv, hmarked, hexited, SuperviseStage.leaving]
    · refine ⟨frames, k, ?_, ?_, ?_⟩
      · simpa [recvResults, next, step, Transport.recv, hch, hrecv] using hchannel
      · simpa [next, step, Transport.recv, hch, hrecv] using hreads
      · simpa [next, step, Transport.recv, hch, hrecv] using hend

theorem InOrder.close (ho : InOrder reads results t) (h : t.closeStep = some t') :
    InOrder reads results t' := by
  obtain ⟨hsup, hch, -, hclosed, -⟩ := closeStep_keeps h
  obtain ⟨frames, k, hchannel, hreads, hend⟩ := ho
  exact ⟨frames, k, by rw [hch, hchannel], by rw [hsup, hreads],
    fun hk => ⟨hclosed (hend hk).1, by rw [hsup, (hend hk).2]⟩⟩

theorem InOrder.send (ho : InOrder reads results t) {i : Nat} {act : SendAct}
    (h : t.sendStep i act = some t') : InOrder reads results t' := by
  obtain ⟨conn, shut, sends, rfl, -⟩ := sendStep_changes h
  exact ho

/-! ## Connections in order -/

/-- A step that opens no connection and takes no other into sight. -/
theorem Sorted.keep (hs : Sorted conns t) (hopened : t'.opened = t.opened)
    (hsource : ∀ d, t'.supervisor.source = some d ∨ t'.conn = some d →
      t.supervisor.source = some d ∨ t.conn = some d) : Sorted conns t' where
  pairwise := hs.pairwise
  opened := hopened ▸ hs.opened
  source := fun d hd => hopened ▸ hs.source d (hsource d hd)

theorem Sorted.supervise (hs : Sorted conns t) (hc : t.Consistent) {act : SuperviseAct}
    (h : t.superviseStep recvBuffer act = some t') :
    Sorted (conns ++ (t.binaryReads (.supervise act)).map Prod.fst) t' := by
  obtain ⟨hpairwise, hopened, hsource⟩ := id hs
  have hagrees := hc.agrees
  revert h
  fun_cases superviseStep recvBuffer t act <;> rintro ⟨⟩
  case case9 c shuts hstage body =>
    -- the connection read from is the newest so far, and `t.conn` is no other
    have hnew := hsource c (.inl (by simp [hstage, SuperviseStage.source]))
    have hmem : ∀ d ∈ conns ++ [c], d < t.opened ∧ d ≤ c := by
      intro d hd
      rcases List.mem_append.mp hd with hd | hd
      · exact ⟨hopened d hd, hnew.2 d hd⟩
      · rw [List.mem_singleton.mp hd]
        exact ⟨hnew.1, le_rfl⟩
    simp only [binaryReads, hstage, List.map_cons, List.map_nil]
    refine ⟨?_, fun d hd => (hmem d hd).1, fun d hd => ?_⟩
    · exact List.pairwise_append.mpr ⟨hpairwise, List.pairwise_singleton _ _,
        fun d hd e he => by rw [List.mem_singleton.mp he]; exact hnew.2 d hd⟩
    · have hdc : d = c := by
        rw [hstage] at hagrees
        rcases hd with hd | hd
        · exact (Option.some.inj hd).symm
        · exact hagrees d hd
      subst hdc
      exact ⟨hnew.1, fun e he => (hmem e he).2⟩
  case case23 hstage =>
    -- a new connection is newer than all, and there is no other
    rw [hstage] at hagrees
    have hnone : t.conn = none := hagrees
    simp only [binaryReads, List.map_nil, List.append_nil]
    refine ⟨hpairwise, fun d hd => (hopened d hd).trans (Nat.lt_succ_self _), fun d hd => ?_⟩
    simp only [SuperviseStage.source, hnone, Option.some.injEq, reduceCtorEq, or_false] at hd
    subst hd
    exact ⟨Nat.lt_succ_self _, fun e he => (hopened e he).le⟩
  all_goals
    simp only [binaryReads, List.map_nil, List.append_nil]
    refine hs.keep rfl fun d hd => ?_
    simp_all [SuperviseStage.source, exit, shutConn, libraryCall, clearConn]

theorem Sorted.send (hs : Sorted conns t) {i : Nat} {act : SendAct}
    (h : t.sendStep i act = some t') : Sorted conns t' := by
  obtain ⟨conn, shut, sends, rfl, -, hconn⟩ := sendStep_changes h
  refine hs.keep rfl fun d hd => hd.imp_right fun hd => ?_
  rcases hconn with rfl | ⟨rfl, -⟩
  · exact hd
  · cases hd

theorem Sorted.close (hs : Sorted conns t) (h : t.closeStep = some t') : Sorted conns t' := by
  revert h
  fun_cases closeStep t <;> rintro ⟨⟩
  -- `Close` takes `t.conn`
  case case3 => exact hs.keep rfl fun d hd => hd.imp_right fun hd => by cases hd
  all_goals exact hs.keep rfl fun d hd => hd

/-! ## Over whole runs -/

/-- What the channel holds, and who closes it. -/
structure Channel (recvBuffer : Nat) (t : Transport) : Prop where
  room : t.recvCh.length ≤ recvBuffer
  closed : t.recvClosed = true → t.closer = .returned

theorem Channel.next (hch : Channel recvBuffer t) (e : Event) :
    Channel recvBuffer (t.next recvBuffer e) := by
  refine next_cases hch fun t' h => ?_
  obtain ⟨hroom, hclosed⟩ := hch
  cases e with
  | supervise act =>
    replace h : t.superviseStep recvBuffer act = some t' := h
    obtain ⟨hcloser, -⟩ := superviseStep_keeps h
    have hrest : t'.recvCh.length ≤ recvBuffer ∧ t'.recvClosed = t.recvClosed := by
      revert h
      fun_cases superviseStep recvBuffer t act <;> rintro ⟨⟩
      -- a frame or the end of the stream is put in only if there is room
      case case10 => exact ⟨(List.length_append ..).trans_le ‹_ ∧ _›.2, rfl⟩
      case case12 => exact ⟨(List.length_append ..).trans_le ‹_ < _›, rfl⟩
      all_goals simp_all [exit, shutConn, libraryCall, clearConn]
    exact ⟨hrest.1, fun h => by rw [hcloser]; exact hclosed (hrest.2 ▸ h)⟩
  | send i act =>
    obtain ⟨_, _, _, rfl, -⟩ := sendStep_changes h
    exact ⟨hroom, hclosed⟩
  | recv =>
    obtain ⟨_, rfl, hlength⟩ := step_recv_changes h
    exact ⟨hlength.trans hroom, hclosed⟩
  | close =>
    replace h : t.closeStep = some t' := h
    refine ⟨(closeStep_keeps h).2.1 ▸ hroom, fun hrecv => ?_⟩
    revert h
    fun_cases closeStep t <;> rintro ⟨⟩
    case case6 => rfl
    all_goals
      rename_i hstage
      rw [hstage] at hclosed
      cases hclosed hrecv

/-- A `supervise` that is blocked reads nothing. -/
theorem binaryReads_blocked {act : SuperviseAct} (h : t.superviseStep recvBuffer act = none) :
    t.binaryReads (.supervise act) = [] := by
  unfold binaryReads
  split
  · split
    · rename_i hstage
      simp_all [superviseStep]
    · rfl
  · rfl

theorem InOrder.next (ho : InOrder reads results t) (hc : t.Consistent)
    (hch : Channel recvBuffer t) (e : Event) :
    InOrder (reads ++ (t.binaryReads e).map Prod.snd) (results ++ t.recvResults e)
      (t.next recvBuffer e) := by
  cases e with
  | recv => simpa [binaryReads] using ho.recv hc hch.closed
  | supervise act =>
    cases h : t.superviseStep recvBuffer act with
    | none => simpa [binaryReads_blocked h, recvResults, Transport.next, step, h] using ho
    | some t' => simpa [recvResults, Transport.next, step, h] using ho.supervise hc h
  | send i act =>
    simp only [binaryReads, recvResults, List.map_nil, List.append_nil]
    exact next_cases ho fun t' h => ho.send h
  | close =>
    simp only [binaryReads, recvResults, List.map_nil, List.append_nil]
    exact next_cases ho fun t' h => ho.close h

theorem Sorted.next (hs : Sorted conns t) (hc : t.Consistent) (e : Event) :
    Sorted (conns ++ (t.binaryReads e).map Prod.fst) (t.next recvBuffer e) := by
  cases e with
  | supervise act =>
    cases h : t.superviseStep recvBuffer act with
    | none => simpa [binaryReads_blocked h, Transport.next, step, h] using hs
    | some t' => simpa [Transport.next, step, h] using hs.supervise hc h
  | recv =>
    simp only [binaryReads, List.map_nil, List.append_nil]
    refine next_cases hs fun t' h => ?_
    obtain ⟨_, rfl, -⟩ := step_recv_changes h
    exact hs.keep rfl fun d hd => hd
  | send i act =>
    simp only [binaryReads, List.map_nil, List.append_nil]
    exact next_cases hs fun t' h => hs.send h
  | close =>
    simp only [binaryReads, List.map_nil, List.append_nil]
    exact next_cases hs fun t' h => hs.close h

/-- **The transport is exact.** For every schedule of `supervise`, of calls of `Send`, `Recv` and
    `Close`, and whatever the library does, on however many connections: what `Recv` has returned
    and what waits in its channel are the binary frames that were read, each once and in order,
    then only `ErrClosed`; a frame that was read and is in neither is at hand to be put there. Any
    `ErrClosed` comes after `Close` and with no frame left at hand. The frames of an older
    connection come before those of a newer one, and the channel keeps to its size. -/
theorem transport_exact (recvBuffer : Nat) (es : List Event) :
    let t := runFrom recvBuffer dial es
    let reads := shows recvBuffer binaryReads es
    (∃ frames k, shows recvBuffer recvResults es ++ t.recvCh =
        frames.map RecvItem.frame ++ List.replicate k .errClosed ∧
      reads.map Prod.snd = frames ++ t.supervisor.atHand ∧
      (0 < k → t.closed = true ∧ t.supervisor.atHand = [])) ∧
    (reads.map Prod.fst).Pairwise (· ≤ ·) ∧ t.recvCh.length ≤ recvBuffer := by
  have hrun := Transition.run_induction (next recvBuffer) (s := dial)
    (fun es t => t.Consistent ∧ Channel recvBuffer t ∧
      InOrder ((shows recvBuffer binaryReads es).map Prod.snd) (shows recvBuffer recvResults es) t ∧
      Sorted ((shows recvBuffer binaryReads es).map Prod.fst) t)
    ⟨consistent_dial, ⟨Nat.zero_le _, by simp [dial]⟩, inOrder_dial, sorted_dial⟩ ?_ es
  · obtain ⟨-, hch, ⟨frames, k, hchannel, hreads, hend⟩, hsorted⟩ := hrun
    exact ⟨⟨frames, k, hchannel, hreads, fun hk =>
      ⟨(hend hk).1, SuperviseStage.atHand_of_leaving (hend hk).2⟩⟩, hsorted.pairwise, hch.room⟩
  · rintro es e ⟨hc, hch, horder, hsorted⟩
    simp only [shows, Transition.observe_concat, List.map_append] at horder hsorted ⊢
    exact ⟨hc.next e, hch.next e, horder.next hc hch e, hsorted.next hc e⟩

end Transport

end PilotBeacon.WSS.Daemon
