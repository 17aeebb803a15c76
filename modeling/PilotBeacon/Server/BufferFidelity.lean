import PilotBeacon.Server.BufferOwnership

/-!
# Recycled Buffers Are Not Seen

Payloads and outgoing messages lie in arrays that are used over and over, by goroutines that know
nothing of each other. Nobody notices: every transmission, read from the arrays at the moment it is
made, is what its worker wrote, and that is a frame that was received; and once nothing is under
way, every buffer is back in its pool.

- `FramesKnown`: every job and every message in the beacon stems from a received frame
- `recycled_buffers_unseen`: what goes out is what came in
- `OutsFit`: output buffers are large enough, so that nothing is lost to a panic
- `buffers_returned`: no buffer leaks
-/

namespace PilotBeacon

open PilotBeacon.Lib PilotBeacon.Net
open Ownership (Tracked)
open Tally (total)

/-! ## Transmissions -/

/-- An output buffer is read as it was written. -/
theorem BuffersOwned.outBytes {cfg : Config} {receivers i : Nat} {c : Shared}
    {lostP lostO : Multiset Nat} (h : BuffersOwned cfg receivers c lostP lostO)
    (hi : i < cfg.relayWorkerCount) {s : Slice} (hs : s.cell ∈ c.filledOuts i) :
    c.outBytes s = s.data := by
  apply Tracked.take_eq h.outs
  rw [Tally.mem_total]
  exact ⟨i, hi, hs⟩

theorem BuffersOwned.wire_eq {cfg : Config} {receivers : Nat} {c : Shared}
    {lostP lostO : Multiset Nat} (h : BuffersOwned cfg receivers c lostP lostO) (e : SharedStep) :
    wire cfg c e = written cfg c e := by
  unfold wire written transmits
  split
  · split
    · rename_i job out hstage
      split_ifs with hi
      · rw [h.outBytes hi]
        simp [Shared.filledOuts, hstage, WorkerStage.outFilled]
      · rfl
    · rfl
  · split
    · rename_i i _ k n hstage
      split_ifs with hi
      · cases hm : (c.server.workers i).msgs[k]? with
        | none => rfl
        | some m =>
          have hmem : m.buffer.cell ∈ c.filledOuts i :=
            List.mem_append_right _ (List.mem_map.mpr ⟨m, List.mem_of_getElem? hm, rfl⟩)
          simp only [Option.toList_some, List.map_cons, List.map_nil, h.outBytes hi hmem]
      · rfl
    · rfl
  · rfl

/-! ## Received frames -/

/-- The frame a step receives. -/
def receivedFrame (cfg : Config) : SharedStep → List Addressed
  | .receiver _ (.receive _ _ data _ _) => cfg.proto.relayFrames data
  | _ => []

/-- The frame in a receiver's read buffer. -/
def Receiver.frame (rv : Receiver) : Addressed :=
  (BigEndian.uint32 (rv.body.drop 4), ⟨BigEndian.uint32 rv.body, rv.body.drop 8⟩)

/-- The frames a receiver works on. -/
def Receiver.frames (rv : Receiver) : List Addressed :=
  match rv.stage with
  | .idle => []
  | .passed => [rv.frame]
  | .lent _ => [rv.frame]
  | .copied job => [job.addressed]

/-- What a worker has written for WSS. -/
def WorkerStage.Written (cfg : Config) : WorkerStage → Prop
  | .writing job out => out.data = deliverHeader cfg job.senderID ++ job.payload.data
  | _ => True

/-- **What a worker's step does to frames**: its jobs are among those it had or would get, and its
    messages are old ones or carry the job it had. -/
structure FrameEffect (cfg : Config) (i : Nat) (c c' : Shared) : Prop where
  queued : ∀ job ∈ (c'.stages i).jobs ++ c'.server.relayChs i,
    job ∈ (c.stages i).jobs ++ c.server.relayChs i
  written : (c'.stages i).Written cfg
  batched : ∀ m ∈ (c'.server.workers i).msgs, m ∈ (c.server.workers i).msgs ∨
    ∃ job ∈ (c.stages i).jobs, Carries cfg (.udp m) job.addressed

section

variable {cfg : Config} {c : Shared} {i : Nat}

/-- A message shaped for a UDP address carries its job. -/
theorem Tier.carries {s : Server} {job : RelayJob} {tier : Tier} {addr : UDPAddr} {header : Bytes}
    (h : tier.header cfg s job = some (some addr, header)) (obp : Buf) :
    Carries cfg (.udp ⟨⟨obp, header ++ job.payload.data⟩, addr, job.destID⟩) job.addressed := by
  refine ⟨rfl, ?_⟩
  unfold Tier.header at h
  unfold Encodes RelayJob.addressed RelayJob.frame
  cases tier with
  | wss => cases h
  | localNode a =>
    simp only [Option.some.injEq, Prod.mk.injEq] at h
    rw [← h.2]
    split_ifs
    · exact Or.inr (Or.inl rfl)
    · exact Or.inl rfl
  | other =>
    obtain ⟨a, -, heq⟩ := Option.map_eq_some_iff.mp h
    simp only [Prod.mk.injEq] at heq
    rw [← heq.2]
    exact Or.inr (Or.inr rfl)

/-- What is shaped for WSS is a delivery. -/
theorem Tier.header_wss {s : Server} {job : RelayJob} {tier : Tier} {header : Bytes}
    (h : tier.header cfg s job = some (none, header)) :
    header = deliverHeader cfg job.senderID := by
  unfold Tier.header at h
  cases tier with
  | wss =>
    simp only [Option.some.injEq, Prod.mk.injEq, true_and] at h
    exact h.symm
  | localNode a => simp at h
  | other =>
    obtain ⟨a, -, heq⟩ := Option.map_eq_some_iff.mp h
    simp at heq

theorem frameEffect_batch (job : RelayJob) (m : Message) (payload : Buf)
    (hjob : job ∈ (c.stages i).jobs) (hm : Carries cfg (.udp m) job.addressed) :
    FrameEffect cfg i c (c.batch i m payload) := by
  have hmsgs : ∀ m' ∈ (c.server.workers i).msgs ++ [m], m' ∈ (c.server.workers i).msgs ∨
      ∃ job ∈ (c.stages i).jobs, Carries cfg (.udp m') job.addressed := by
    intro m' hm'
    rcases List.mem_append.mp hm' with hm' | hm'
    · exact Or.inl hm'
    · rw [List.mem_singleton.mp hm']
      exact Or.inr ⟨job, hjob, hm⟩
  unfold Shared.batch
  dsimp only
  split_ifs
  all_goals
    refine ⟨?_, ?_, ?_⟩
    · rw [Shared.stages_setStage]
      exact fun j hj => List.mem_append_right _ hj
    · rw [Shared.stages_setStage]
      trivial
    · simpa using hmsgs

theorem frameEffect_shape {job : RelayJob} {tier : Tier} {obp : Buf}
    (hstage : c.stages i = .lent job tier obp) :
    FrameEffect cfg i c (c.shape cfg i job tier obp) := by
  unfold Shared.shape
  cases hheader : tier.header cfg c.server job with
  | none =>
    refine ⟨?_, ?_, ?_⟩
    all_goals simp [hstage, WorkerStage.jobs, WorkerStage.Written]
    exact fun m hm => Or.inl hm
  | some p =>
    obtain ⟨addr, header⟩ := p
    dsimp only
    split
    · refine ⟨?_, ?_, ?_⟩
      all_goals simp [Shared.workerCrash, Server.workerPanic, Server.setWorker, hstage,
        WorkerStage.jobs, WorkerStage.Written, Worker.start]
      exact fun j hj => Or.inr hj
    · rename_i out hout
      have hfit : out = ⟨obp, header ++ job.payload.data⟩ := by
        unfold outSlice at hout
        split_ifs at hout
        exact (Option.some.inj hout).symm
      subst hfit
      have hjob : job ∈ (c.stages i).jobs := by simp [hstage, WorkerStage.jobs]
      cases addr with
      | none =>
        refine ⟨?_, ?_, ?_⟩
        · simp [hstage, WorkerStage.jobs]
        · rw [Shared.stages_setStage]
          show _ = _
          rw [Tier.header_wss hheader]
        · exact fun m hm => Or.inl hm
      | some addr =>
        have hbatch := frameEffect_batch (c := c.fillOut obp header job.payload) (i := i) job
          ⟨⟨obp, header ++ job.payload.data⟩, addr, job.destID⟩ job.payload.buf hjob
          (Tier.carries hheader obp)
        exact ⟨hbatch.queued, hbatch.written, hbatch.batched⟩

theorem frameEffect_refl (hwritten : (c.stages i).Written cfg) : FrameEffect cfg i c c :=
  ⟨fun _ hj => hj, hwritten, fun _ hm => Or.inl hm⟩

/-- A step that makes no message. -/
theorem frameEffect_setStage {s : Server} {old stage : WorkerStage} (hstage : c.stages i = old)
    (hjobs : ∀ job ∈ stage.jobs ++ s.relayChs i, job ∈ old.jobs ++ c.server.relayChs i)
    (hwritten : stage.Written cfg)
    (hmsgs : ∀ m ∈ (s.workers i).msgs, m ∈ (c.server.workers i).msgs) :
    FrameEffect cfg i c (Shared.setStage { c with server := s } i stage) where
  queued := by
    rw [Shared.stages_setStage, hstage]
    exact hjobs
  written := by rwa [Shared.stages_setStage]
  batched := fun m hm => Or.inl (hmsgs m hm)

theorem frameEffect_selectFlush {w : Worker} (hwritten : (c.stages i).Written cfg) (enabled : Bool)
    (hmsgs : w.msgs = (c.server.workers i).msgs) :
    FrameEffect cfg i c (c.selectFlush i enabled w) := by
  unfold Shared.selectFlush Shared.flushFrom
  split
  · rename_i hstage
    split_ifs
    · exact frameEffect_refl hwritten
    all_goals
      refine frameEffect_setStage hstage (fun j hj => hj) trivial ?_
      rw [Server.workers_setWorker, hmsgs]
      exact fun m hm => hm
  · exact frameEffect_refl hwritten

theorem frameEffect_putBack (hwritten : (c.stages i).Written cfg) :
    FrameEffect cfg i c (c.putBack i) := by
  unfold Shared.putBack
  split
  · rename_i hstage _
    refine frameEffect_setStage hstage (fun j hj => hj) trivial ?_
    simp
  · rename_i hstage _ _
    refine frameEffect_setStage hstage (fun j hj => hj) trivial ?_
    simp
  · rename_i hstage _ _
    exact frameEffect_setStage hstage (fun j hj => hj) trivial fun m hm => hm
  · exact frameEffect_refl hwritten

/-- **What a worker does to frames.** -/
theorem frameEffect_workerNext (cfg : Config) (c : Shared) (i : Nat) (a : WorkerStep)
    (hwritten : (c.stages i).Written cfg) : FrameEffect cfg i c (c.workerNext cfg i a) := by
  cases a with
  | take =>
    simp only [Shared.workerNext, Shared.take]
    split
    · rename_i job rest hstage hq
      split_ifs
      · exact frameEffect_refl hwritten
      · refine frameEffect_setStage hstage ?_ trivial fun m hm => hm
        simp [hq, WorkerStage.jobs]
    · exact frameEffect_refl hwritten
  | lookup wssConnected =>
    simp only [Shared.workerNext, Shared.lookup]
    split
    · rename_i hstage
      exact frameEffect_setStage hstage (fun j hj => hj) trivial fun m hm => hm
    · exact frameEffect_refl hwritten
  | getOut pick =>
    simp only [Shared.workerNext, Shared.getOut]
    split
    · rename_i hstage
      exact frameEffect_setStage hstage (fun j hj => hj) trivial fun m hm => hm
    · exact frameEffect_refl hwritten
  | shape =>
    simp only [Shared.workerNext]
    split
    · rename_i hstage
      exact frameEffect_shape hstage
    · exact frameEffect_refl hwritten
  | writeFrame ok =>
    simp only [Shared.workerNext, Shared.writeFrame]
    split
    · rename_i hstage
      exact frameEffect_setStage hstage (fun j hj => hj) trivial fun m hm => hm
    · exact frameEffect_refl hwritten
  | release =>
    simp only [Shared.workerNext, Shared.release]
    split
    · rename_i hstage
      exact frameEffect_setStage hstage (fun j hj => List.mem_append_right _ hj) trivial
        fun m hm => hm
    · rename_i hstage
      exact frameEffect_setStage hstage (fun j hj => hj) trivial fun m hm => hm
    · exact frameEffect_refl hwritten
  | timer => exact frameEffect_selectFlush hwritten _ rfl
  | done => exact frameEffect_selectFlush hwritten _ rfl
  | send ok =>
    simp only [Shared.workerNext, Shared.send]
    split
    · rename_i hstage
      split
      · exact frameEffect_setStage hstage (fun j hj => hj) trivial fun m hm => hm
      · refine frameEffect_setStage hstage (fun j hj => hj) trivial ?_
        simp
    · exact frameEffect_refl hwritten
  | putBack => exact frameEffect_putBack hwritten
  | crash =>
    refine frameEffect_setStage rfl (fun j hj => List.mem_append_right _ hj) trivial ?_
    simp [Server.workerPanic, Worker.start]

end

/-- Every frame in the beacon has the property `P`, and messages carry such frames. -/
structure FramesKnown (cfg : Config) (P : Addressed → Prop) (c : Shared) : Prop where
  received : ∀ r, ∀ a ∈ (c.receivers r).frames, P a
  queued : ∀ i, ∀ job ∈ (c.stages i).jobs ++ c.server.relayChs i, P job.addressed
  written : ∀ i, (c.stages i).Written cfg
  batched : ∀ i, ∀ m ∈ (c.server.workers i).msgs, ∃ a, P a ∧ Carries cfg (.udp m) a

section

variable {cfg : Config} {receivers : Nat} {P : Addressed → Prop} {c : Shared}

theorem FramesKnown.worker {c' : Shared} {i : Nat} (h : FramesKnown cfg P c)
    (hw : WorkerOnly i c c') (he : FrameEffect cfg i c c') : FramesKnown cfg P c' where
  received := by
    rw [hw.receivers]
    exact h.received
  queued := by
    intro j job hjob
    by_cases hj : j = i
    · subst hj
      exact h.queued j job (he.queued job hjob)
    · rw [hw.stages j hj, hw.relayChs j hj] at hjob
      exact h.queued j job hjob
  written := by
    intro j
    by_cases hj : j = i
    · subst hj
      exact he.written
    · rw [hw.stages j hj]
      exact h.written j
  batched := by
    intro j m hm
    by_cases hj : j = i
    · subst hj
      rcases he.batched m hm with hm | ⟨job, hjob, hcarries⟩
      · exact h.batched j m hm
      · exact ⟨job.addressed, h.queued j job (List.mem_append_left _ hjob), hcarries⟩
    · rw [hw.workers j hj] at hm
      exact h.batched j m hm

/-- A step of receiver `r` that does nothing to the queues but append a job it had. -/
theorem FramesKnown.setReceiver {s : Server} {payloads : Nat → Bytes} {r : Nat} {rv : Receiver}
    (h : FramesKnown cfg P c) (hworkers : s.workers = c.server.workers)
    (hchs : ∀ i, ∀ job ∈ s.relayChs i, job ∈ c.server.relayChs i ∨ P job.addressed)
    (hframes : ∀ a ∈ rv.frames, P a) :
    FramesKnown cfg P
      (Shared.setReceiver { c with server := s, payloads := payloads } r rv) where
  received := by
    intro j a ha
    by_cases hj : j = r
    · subst hj
      simp only [Shared.setReceiver, Function.update_self] at ha
      exact hframes a ha
    · simp only [Shared.setReceiver, Function.update_of_ne hj] at ha
      exact h.received j a ha
  queued := by
    intro i job hjob
    rcases List.mem_append.mp hjob with hjob | hjob
    · exact h.queued i job (List.mem_append_left _ hjob)
    · rcases hchs i job hjob with hjob | hjob
      · exact h.queued i job (List.mem_append_right _ hjob)
      · exact hjob
  written := h.written
  batched := by
    rw [Shared.server_setReceiver, hworkers]
    exact h.batched

/-- What gets through the checks is long enough and not too long. -/
theorem Server.length_of_admitted {env : Env} {now : Int} {s : Server} {data : Bytes}
    {src : RelaySourceKey} (h : (s.admitRelay cfg env now data src).2 = true) :
    8 ≤ data.length ∧ (data.drop 8).length ≤ maxRelayPayload := by
  unfold Server.admitRelay at h
  split_ifs at h with hlen hopen hknown
  dsimp only at h
  rw [Bool.and_eq_true, decide_eq_true_eq] at h
  exact ⟨by omega, h.2⟩

/-- The channel send adds at most its job to the queues. -/
theorem Server.enqueueRelay_frames (cfg : Config) (s : Server) (job : RelayJob) :
    (s.enqueueRelay cfg job).1.workers = s.workers ∧
      ∀ i, ∀ job' ∈ (s.enqueueRelay cfg job).1.relayChs i, job' ∈ s.relayChs i ∨ job' = job := by
  unfold Server.enqueueRelay
  dsimp only
  split_ifs
  · refine ⟨rfl, ?_⟩
    intro i job' hjob'
    by_cases hi : i = relayQueueFor cfg job.destID
    · subst hi
      simpa using hjob'
    · simp only [Function.update_of_ne hi] at hjob'
      exact Or.inl hjob'
  · exact ⟨rfl, fun _ _ hj => Or.inl hj⟩

/-- **What a receiver does to frames.** -/
theorem FramesKnown.receiverNext (h : FramesKnown cfg P c) (r : Nat) (a : ReceiverStep)
    (hnew : ∀ x ∈ receivedFrame cfg (.receiver r a),
      x.2.payload.length ≤ maxRelayPayload → P x) :
    FramesKnown cfg P (c.receiverNext cfg r a) := by
  have hold := h.received r
  revert hnew
  fun_cases Shared.receiverNext cfg c r a <;> intro hnew
  case case1 now env data remote bridgePeer hstage body hdec s admitted hpassed =>
    obtain ⟨_, _, _, hs⟩ := c.server.admitRelay_frame cfg env now body
      (relaySource remote bridgePeer)
    have hlen := @Server.length_of_admitted cfg env now c.server body
      (relaySource remote bridgePeer)
    rw [hpassed] at hs hlen
    subst hs
    refine h.setReceiver rfl (fun _ _ hj => Or.inl hj) ?_
    cases admitted with
    | false => exact fun _ hx => absurd hx List.not_mem_nil
    | true =>
      obtain ⟨hmin, hmax⟩ := hlen rfl
      intro x hx
      rw [List.mem_singleton.mp hx]
      apply hnew _ _ hmax
      rw [receivedFrame, Protocol.relayFrames_eq hdec, if_pos hmin]
      exact List.mem_singleton_self _
  case case2 => exact h
  case case3 pick hstage buf pool _ =>
    simp only [Receiver.frames, show (c.receivers r).stage = _ from hstage] at hold
    exact h.setReceiver rfl (fun _ _ hj => Or.inl hj) hold
  case case4 buf hstage =>
    simp only [Receiver.frames, show (c.receivers r).stage = _ from hstage] at hold
    exact h.setReceiver rfl (fun _ _ hj => Or.inl hj) hold
  case case5 job hstage =>
    have hjob : P job.addressed := by
      apply hold
      simp [Receiver.frames, show (c.receivers r).stage = _ from hstage]
    obtain ⟨hworkers, hchs⟩ := Server.enqueueRelay_frames cfg c.server job
    refine h.setReceiver hworkers (fun i job' hjob' => (hchs i job' hjob').imp_right ?_)
      fun _ hx => absurd hx List.not_mem_nil
    rintro rfl
    exact hjob
  case case6 =>
    exact h.setReceiver rfl (fun _ _ hj => Or.inl hj) fun _ hx => absurd hx List.not_mem_nil
  case case7 => exact h

theorem FramesKnown.next (h : FramesKnown cfg P c) (e : SharedStep)
    (hnew : ∀ x ∈ receivedFrame cfg e, x.2.payload.length ≤ maxRelayPayload → P x) :
    FramesKnown cfg P (sharedNext cfg receivers c e) := by
  cases e with
  | receiver r a =>
    simp only [sharedNext]
    split_ifs
    · exact h.receiverNext r a hnew
    · exact h
  | worker i a =>
    simp only [sharedNext]
    split_ifs
    · exact h.worker (workerOnly_workerNext cfg c i a)
        (frameEffect_workerNext cfg c i a (h.written i))
    · exact h
  | setTables t => exact ⟨h.received, h.queued, h.written, h.batched⟩
  | listen addr => exact ⟨h.received, h.queued, h.written, h.batched⟩
  | close => exact ⟨h.received, h.queued, h.written, h.batched⟩

theorem FramesKnown.mono {Q : Addressed → Prop} (h : FramesKnown cfg P c) (hPQ : ∀ a, P a → Q a) :
    FramesKnown cfg Q c where
  received := fun r a ha => hPQ a (h.received r a ha)
  queued := fun i job hjob => hPQ _ (h.queued i job hjob)
  written := h.written
  batched := fun i m hm => (h.batched i m hm).imp fun a ha => ⟨hPQ a ha.1, ha.2⟩

/-- **Nothing is made up.** Every frame in the beacon was received, and is not too long. -/
theorem framesKnown_run (cfg : Config) (receivers : Nat) (peers : List Text)
    (es : List SharedStep) :
    FramesKnown cfg
      (fun a => a ∈ es.flatMap (receivedFrame cfg) ∧ a.2.payload.length ≤ maxRelayPayload)
      (sharedRun cfg receivers peers es) := by
  apply Transition.run_induction (sharedNext cfg receivers) (fun es c =>
    FramesKnown cfg
      (fun a => a ∈ es.flatMap (receivedFrame cfg) ∧ a.2.payload.length ≤ maxRelayPayload) c)
  · exact ⟨fun _ _ ha => absurd ha List.not_mem_nil, fun _ _ hj => absurd hj List.not_mem_nil,
      fun _ => trivial, fun _ _ hm => absurd hm List.not_mem_nil⟩
  · intro es e h
    apply FramesKnown.next (h.mono ?_) e
    · intro x hx hlen
      rw [List.flatMap_append, List.flatMap_singleton]
      exact ⟨List.mem_append_right _ hx, hlen⟩
    · intro a ha
      rw [List.flatMap_append]
      exact ⟨List.mem_append_left _ ha.1, ha.2⟩

/-- A transmission carries a frame the beacon has. -/
theorem carries_of_framesKnown (h : FramesKnown cfg P c) (e : SharedStep) {x : Sent}
    (hx : x ∈ written cfg c e) : ∃ a, P a ∧ Carries cfg x a := by
  unfold written transmits at hx
  split at hx
  · split at hx
    · rename_i i _ job out hstage
      split_ifs at hx
      · rw [List.mem_singleton.mp hx]
        have hwritten := h.written i
        rw [hstage] at hwritten
        refine ⟨job.addressed, h.queued i job ?_, rfl, hwritten⟩
        simp [hstage, WorkerStage.jobs]
      · cases hx
    · cases hx
  · split at hx
    · rename_i i _ k n hstage
      split_ifs at hx
      · obtain ⟨m, hm, rfl⟩ := List.mem_map.mp hx
        rw [Option.mem_toList] at hm
        exact h.batched i m (List.mem_of_getElem? hm)
      · cases hx
    · cases hx
  · cases hx

/-- **Recycled buffers are not seen.** Whatever the receivers and workers do to the arrays they
    share, and whenever one of them panics: what every transmission reads from the arrays is what
    was written for it, and carries a frame that was received before. -/
theorem recycled_buffers_unseen (cfg : Config) (receivers : Nat) (peers : List Text)
    (es : List SharedStep) :
    sharedSeen cfg receivers peers (wire cfg) es = sharedSeen cfg receivers peers (written cfg) es ∧
      ∀ pre e post, es = pre ++ e :: post →
        ∀ x ∈ wire cfg (sharedRun cfg receivers peers pre) e,
          ∃ a ∈ pre.flatMap (receivedFrame cfg), Carries cfg x a := by
  have hwire : ∀ pre e, wire cfg (sharedRun cfg receivers peers pre) e =
      written cfg (sharedRun cfg receivers peers pre) e :=
    fun pre e => (shared_owned cfg receivers peers pre).wire_eq e
  constructor
  · exact Transition.observe_congr_run (sharedNext cfg receivers) fun pre e _ _ => hwire pre e
  · intro pre e post _ x hx
    rw [hwire] at hx
    obtain ⟨a, ha, hcarries⟩ :=
      carries_of_framesKnown (framesKnown_run cfg receivers peers pre) e hx
    exact ⟨a, ha.1, hcarries⟩

end

/-! ## Nothing leaks -/

/-- The output buffer in a worker's hands. -/
def WorkerStage.outBufs : WorkerStage → List Buf
  | .lent _ _ obp => [obp]
  | .writing _ out => [out.buf]
  | .releasing _ obp => [obp]
  | .releasingOut obp => [obp]
  | _ => []

/-- The output buffers of the pool and of worker `i`. -/
def Shared.outsWith (c : Shared) (i : Nat) : List Buf :=
  c.server.outBufPool.free ++ ((c.stages i).outBufs ++ (c.server.workers i).outBufsToReturn)

/-- Output buffers are large enough for every payload with every header. -/
def OutsFit (c : Shared) : Prop := ∀ i, ∀ b ∈ c.outsWith i, maxRelayPayload + 9 ≤ b.cap

section

variable {cfg : Config} {receivers i : Nat} {c : Shared}

theorem mem_outsWith_batch (c : Shared) (i : Nat) (m : Message) (payload b : Buf)
    (hb : b ∈ (c.batch i m payload).outsWith i) : b ∈ c.outsWith i ∨ b = m.buffer.buf := by
  unfold Shared.batch at hb
  dsimp only at hb
  split_ifs at hb
  all_goals
    simp [Shared.outsWith, Server.setWorker, WorkerStage.outBufs] at hb ⊢
    tauto

theorem mem_outsWith_shape {job : RelayJob} {tier : Tier} {obp : Buf}
    (hstage : c.stages i = .lent job tier obp) (b : Buf)
    (hb : b ∈ (c.shape cfg i job tier obp).outsWith i) : b ∈ c.outsWith i := by
  have hobp : obp ∈ c.outsWith i := by simp [Shared.outsWith, hstage, WorkerStage.outBufs]
  unfold Shared.shape at hb
  split at hb
  · simpa [Shared.outsWith, hstage, WorkerStage.outBufs] using hb
  · split at hb
    · simp [Shared.outsWith, Shared.workerCrash, Server.workerPanic, WorkerStage.outBufs,
        Worker.start, Server.setWorker] at hb
      exact List.mem_append_left _ hb
    · rename_i out hout
      have hfit : out.buf = obp := by
        unfold outSlice at hout
        split_ifs at hout
        rw [← Option.some.inj hout]
      dsimp only at hb
      split at hb
      · simpa [Shared.outsWith, hstage, WorkerStage.outBufs, hfit] using hb
      · rcases mem_outsWith_batch _ i _ _ b hb with hb | rfl
        · exact hb
        · rw [hfit]
          exact hobp

/-- A step that takes no output buffer. -/
theorem mem_outsWith_setStage {s : Server} {old stage : WorkerStage} (hstage : c.stages i = old)
    {b : Buf} (hb : b ∈ (Shared.setStage { c with server := s } i stage).outsWith i)
    (h : b ∈ s.outBufPool.free ++ (stage.outBufs ++ (s.workers i).outBufsToReturn) →
      b ∈ c.server.outBufPool.free ++ (old.outBufs ++ (c.server.workers i).outBufsToReturn)) :
    b ∈ c.outsWith i := by
  rw [Shared.outsWith, Shared.stages_setStage] at hb
  rw [Shared.outsWith, hstage]
  exact h hb

theorem mem_outsWith_selectFlush {w : Worker} {enabled : Bool} {b : Buf}
    (hb : b ∈ (c.selectFlush i enabled w).outsWith i)
    (hw : w.outBufsToReturn = (c.server.workers i).outBufsToReturn) : b ∈ c.outsWith i := by
  unfold Shared.selectFlush Shared.flushFrom at hb
  split at hb
  · rename_i hstage
    split_ifs at hb
    · exact hb
    all_goals
      refine mem_outsWith_setStage hstage hb ?_
      rw [Server.workers_setWorker, hw]
      exact fun hb => hb
  · exact hb

theorem mem_outsWith_putBack (b : Buf) (hb : b ∈ (c.putBack i).outsWith i) : b ∈ c.outsWith i := by
  unfold Shared.putBack at hb
  split at hb
  · rename_i hstage _
    refine mem_outsWith_setStage hstage hb ?_
    simp [Server.setWorker, WorkerStage.outBufs]
  · rename_i hstage _ hobps
    refine mem_outsWith_setStage hstage hb ?_
    simp [Server.setWorker, WorkerStage.outBufs, Pool.put, hobps]
    tauto
  · rename_i hstage _ _
    exact mem_outsWith_setStage hstage hb fun hb => hb
  · exact hb

/-- The buffer `Get` hands out was in the pool, or is new. -/
theorem Pool.get_cases (p : Pool) (pick cap : Nat) :
    (p.get pick cap).1 ∈ p.free ∨ (p.get pick cap).1.cap = cap := by
  unfold Pool.get
  split
  · rename_i b hb
    exact Or.inl (List.mem_of_getElem? hb)
  · exact Or.inr rfl

/-- **What a worker does with output buffers**: it and the pool have those they had before, or a
    new one. -/
theorem mem_outsWith_workerNext (cfg : Config) (c : Shared) (i : Nat) (a : WorkerStep) (b : Buf)
    (hb : b ∈ (c.workerNext cfg i a).outsWith i) :
    b ∈ c.outsWith i ∨ b.cap = maxRelayPayload + 9 := by
  cases a with
  | take =>
    simp only [Shared.workerNext, Shared.take] at hb
    split at hb
    · rename_i hstage _
      split_ifs at hb
      · exact Or.inl hb
      · exact Or.inl (mem_outsWith_setStage hstage hb fun hb => hb)
    · exact Or.inl hb
  | lookup wssConnected =>
    simp only [Shared.workerNext, Shared.lookup] at hb
    split at hb
    · rename_i hstage
      exact Or.inl (mem_outsWith_setStage hstage hb fun hb => hb)
    · exact Or.inl hb
  | getOut pick =>
    simp only [Shared.workerNext, Shared.getOut] at hb
    split at hb
    · rename_i hstage
      have hcases := c.server.outBufPool.get_cases pick (maxRelayPayload + 9)
      simp only [Shared.outsWith, Shared.stages_setStage, Shared.server_setStage, hstage,
        WorkerStage.outBufs, List.mem_append, List.mem_singleton, List.not_mem_nil, false_or]
        at hb ⊢
      rcases hb with hb | rfl | hb
      · exact Or.inl (Or.inl (Pool.mem_free_get hb))
      · exact hcases.imp_left Or.inl
      · exact Or.inl (Or.inr hb)
    · exact Or.inl hb
  | shape =>
    simp only [Shared.workerNext] at hb
    split at hb
    · rename_i hstage
      exact Or.inl (mem_outsWith_shape hstage b hb)
    · exact Or.inl hb
  | writeFrame ok =>
    simp only [Shared.workerNext, Shared.writeFrame] at hb
    split at hb
    · rename_i hstage
      exact Or.inl (mem_outsWith_setStage hstage hb fun hb => hb)
    · exact Or.inl hb
  | release =>
    simp only [Shared.workerNext, Shared.release] at hb
    split at hb
    · rename_i hstage
      exact Or.inl (mem_outsWith_setStage hstage hb fun hb => hb)
    · rename_i hstage
      refine Or.inl (mem_outsWith_setStage hstage hb ?_)
      simp [WorkerStage.outBufs, Pool.put]
      tauto
    · exact Or.inl hb
  | timer => exact Or.inl (mem_outsWith_selectFlush hb rfl)
  | done => exact Or.inl (mem_outsWith_selectFlush hb rfl)
  | send ok =>
    simp only [Shared.workerNext, Shared.send] at hb
    split at hb
    · rename_i hstage
      split at hb
      · exact Or.inl (mem_outsWith_setStage hstage hb fun hb => hb)
      · refine Or.inl (mem_outsWith_setStage hstage hb ?_)
        simp [WorkerStage.outBufs, Server.setWorker]
    · exact Or.inl hb
  | putBack => exact Or.inl (mem_outsWith_putBack b hb)
  | crash =>
    refine Or.inl (mem_outsWith_setStage rfl hb ?_)
    simp [WorkerStage.outBufs, Server.workerPanic, Server.setWorker, Worker.start]
    tauto

/-- Receivers have no output buffers. -/
theorem outsWith_receiverNext (cfg : Config) (c : Shared) (r : Nat) (a : ReceiverStep) :
    (c.receiverNext cfg r a).outsWith = c.outsWith := by
  fun_cases Shared.receiverNext cfg c r a
  case case1 now env data remote bridgePeer _ body _ s admitted hpassed =>
    obtain ⟨_, _, _, hs⟩ := c.server.admitRelay_frame cfg env now body
      (relaySource remote bridgePeer)
    rw [hpassed] at hs
    subst hs
    rfl
  case case5 job _ =>
    unfold Server.enqueueRelay
    dsimp only
    split_ifs <;> rfl
  all_goals rfl

theorem OutsFit.next (h : OutsFit c) (e : SharedStep) : OutsFit (sharedNext cfg receivers c e) := by
  cases e with
  | receiver r a =>
    simp only [sharedNext]
    split_ifs
    · unfold OutsFit
      rw [outsWith_receiverNext]
      exact h
    · exact h
  | worker i a =>
    simp only [sharedNext]
    split_ifs
    · -- of the other workers only the pool has changed
      have hi : ∀ b ∈ (c.workerNext cfg i a).outsWith i, maxRelayPayload + 9 ≤ b.cap := by
        intro b hb
        rcases mem_outsWith_workerNext cfg c i a b hb with hb | hb
        · exact h i b hb
        · exact hb.ge
      intro j b hb
      rcases List.mem_append.mp hb with hb | hb
      · exact hi b (List.mem_append_left _ hb)
      · by_cases hj : j = i
        · subst hj
          exact hi b (List.mem_append_right _ hb)
        · have hw := workerOnly_workerNext cfg c i a
          rw [hw.stages j hj, hw.workers j hj] at hb
          exact h j b (List.mem_append_right _ hb)
    · exact h
  | setTables t => exact h
  | listen addr => exact h
  | close => exact h

theorem outsFit_run (cfg : Config) (receivers : Nat) (peers : List Text) (es : List SharedStep) :
    OutsFit (sharedRun cfg receivers peers es) :=
  Transition.run_invariant (sharedNext cfg receivers) OutsFit
    (fun _ _ hb => absurd hb List.not_mem_nil) (fun _ e h => h.next e) es

/-- A panic. -/
def SharedStep.isCrash : SharedStep → Bool
  | .receiver _ .crash => true
  | .worker _ .crash => true
  | _ => false

theorem Tier.length_header {s : Server} {job : RelayJob} {tier : Tier} {p : Option UDPAddr × Bytes}
    (h : tier.header cfg s job = some p) : p.2.length ≤ 9 := by
  unfold Tier.header at h
  cases tier with
  | wss =>
    cases h
    simp [deliverHeader, BigEndian.length_putUint32]
  | localNode addr =>
    cases h
    split_ifs <;> simp [deliverHeader, deliverDestHeader, BigEndian.length_putUint32]
  | other =>
    obtain ⟨addr, -, rfl⟩ := Option.map_eq_some_iff.mp h
    simp [relayHeader, BigEndian.length_putUint32]

/-- A worker panics only if something makes it. -/
theorem OutsFit.not_crashes (h : OutsFit c)
    (hsize : ∀ job ∈ (c.stages i).jobs, job.payload.data.length ≤ maxRelayPayload)
    {a : WorkerStep} (ha : a ≠ .crash) : c.crashes cfg i a = false := by
  unfold Shared.crashes
  split
  · exact absurd rfl ha
  · split
    · rename_i job tier obp hstage
      have hcap : maxRelayPayload + 9 ≤ obp.cap := by
        apply h i obp
        simp [Shared.outsWith, hstage, WorkerStage.outBufs]
      have hlen : job.payload.data.length ≤ maxRelayPayload := by
        apply hsize
        simp [hstage, WorkerStage.jobs]
      cases hheader : tier.header cfg c.server job with
      | none => rfl
      | some p =>
        have hp := Tier.length_header hheader
        rw [Option.any_some, outSlice, if_pos]
        · rfl
        · rw [List.length_append]
          omega
    · rfl
  · rfl

/-- The payload buffer a step gives up because the payload does not fit. -/
def tooSmall (receivers : Nat) (c : Shared) : SharedStep → List Nat
  | .receiver r (.get pick) =>
    match (c.receivers r).stage with
    | .passed =>
      if r < receivers then c.server.pool.givenUp pick ((c.receivers r).body.drop 8).length else []
    | _ => []
  | _ => []

/-- Without panics nothing is lost but what is too small. -/
theorem lost_of_not_crash (h : OutsFit c)
    (hsize : ∀ i, ∀ job ∈ (c.stages i).jobs, job.payload.data.length ≤ maxRelayPayload)
    {e : SharedStep} (he : e.isCrash = false) :
    payloadsLost cfg receivers c e = tooSmall receivers c e ∧ outsLost cfg c e = [] := by
  cases e with
  | receiver r a =>
    refine ⟨?_, rfl⟩
    cases a with
    | get pick =>
      simp only [payloadsLost, tooSmall, Shared.receiverLostPayloads]
      cases (c.receivers r).stage <;> simp
    | crash => cases he
    | _ => simp [payloadsLost, tooSmall, Shared.receiverLostPayloads]
  | worker i a =>
    have ha : a ≠ .crash := by
      rintro rfl
      cases he
    have hcrash : c.crashes cfg i a = false := h.not_crashes (hsize i) ha
    simp [payloadsLost, outsLost, tooSmall, Shared.workerLostPayloads, Shared.workerLostOuts,
      hcrash]
  | setTables t => exact ⟨rfl, rfl⟩
  | listen addr => exact ⟨rfl, rfl⟩
  | close => exact ⟨rfl, rfl⟩

/-- Nothing is under way. -/
def Quiet (cfg : Config) (receivers : Nat) (c : Shared) : Prop :=
  (∀ r < receivers, (c.receivers r).stage = .idle) ∧
    ∀ i < cfg.relayWorkerCount, c.stages i = .waiting ∧ c.server.relayChs i = [] ∧
      (c.server.workers i).msgs = [] ∧ (c.server.workers i).payloadsToReturn = []

instance (cfg : Config) (receivers : Nat) (c : Shared) : Decidable (Quiet cfg receivers c) :=
  inferInstanceAs (Decidable (_ ∧ _))

/-- Whoever is quiet has no buffers. -/
theorem Quiet.totals (h : Quiet cfg receivers c) :
    (total cfg.relayWorkerCount c.batchPayloads = 0 ∧ total receivers c.lentPayloads = 0) ∧
    (total cfg.relayWorkerCount c.queuedPayloads = 0 ∧ total receivers c.copiedPayloads = 0) ∧
    (total cfg.relayWorkerCount c.spareOuts = 0 ∧ total cfg.relayWorkerCount c.filledOuts = 0) := by
  refine ⟨⟨?_, ?_⟩, ⟨?_, ?_⟩, ⟨?_, ?_⟩⟩ <;> apply Tally.total_eq_zero <;> intro j hj
  · simp [Shared.batchPayloads, (h.2 j hj).2.2.2]
  · simp [Shared.lentPayloads, h.1 j hj, ReceiverStage.spare]
  · simp [Shared.queuedPayloads, (h.2 j hj).1, (h.2 j hj).2.1, WorkerStage.jobs]
  · simp [Shared.copiedPayloads, h.1 j hj, ReceiverStage.filled]
  · simp [Shared.spareOuts, (h.2 j hj).1, WorkerStage.outSpare]
  · simp [Shared.filledOuts, (h.2 j hj).1, (h.2 j hj).2.2.1, WorkerStage.outFilled]

/-- **No buffer leaks.** After a run without panics, once nothing is under way, every output buffer
    ever allocated is back in its pool, and so is every payload buffer, except those that were
    replaced by larger ones. -/
theorem buffers_returned (cfg : Config) (receivers : Nat) (peers : List Text)
    (es : List SharedStep) (hcalm : ∀ e ∈ es, e.isCrash = false)
    (hquiet : Quiet cfg receivers (sharedRun cfg receivers peers es)) :
    let s := (sharedRun cfg receivers peers es).server
    (s.outBufPool.free.map Buf.id).Perm (List.range s.outBufPool.next) ∧
      (s.pool.free.map Buf.id ++ sharedSeen cfg receivers peers (tooSmall receivers) es).Perm
        (List.range s.pool.next) := by
  have hlost : ∀ pre e post, es = pre ++ e :: post →
      payloadsLost cfg receivers (sharedRun cfg receivers peers pre) e =
        tooSmall receivers (sharedRun cfg receivers peers pre) e ∧
      outsLost cfg (sharedRun cfg receivers peers pre) e = [] := by
    intro pre e post heq
    apply lost_of_not_crash (outsFit_run cfg receivers peers pre)
    · intro j job hjob
      exact ((framesKnown_run cfg receivers peers pre).queued j job
        (List.mem_append_left _ hjob)).2
    · apply hcalm
      simp [heq]
  have hpayloads : sharedSeen cfg receivers peers (payloadsLost cfg receivers) es =
      sharedSeen cfg receivers peers (tooSmall receivers) es :=
    Transition.observe_congr_run _ fun pre e post heq => (hlost pre e post heq).1
  have houts : sharedSeen cfg receivers peers (outsLost cfg) es = [] := by
    rw [List.eq_nil_iff_forall_not_mem]
    intro x hx
    obtain ⟨pre, e, post, heq, hx⟩ := (Transition.mem_observe _ _ _ _ _).mp hx
    have hnone := (hlost pre e post heq).2
    rw [sharedRun] at hnone
    simp [hnone] at hx
  obtain ⟨⟨hbatch, hlent⟩, ⟨hqueued, hcopied⟩, hspare, hfilled⟩ := hquiet.totals
  have howned := shared_owned cfg receivers peers es
  constructor
  · have honce := howned.outs.once
    rw [houts, hspare, hfilled] at honce
    rw [← Multiset.coe_eq_coe, Multiset.coe_range]
    simpa [Pool.ids] using honce
  · have honce := howned.payloads.once
    rw [hpayloads, hbatch, hlent, hqueued, hcopied] at honce
    rw [← Multiset.coe_eq_coe, ← Multiset.coe_add, Multiset.coe_range]
    simpa [Pool.ids] using honce

/-- Two frames for a node of another beacon, received at the same time and sent in one batch. -/
def framesForSeven : List SharedStep :=
  [.listen (sampleAddr 0 0 0 0 9001),
    .setTables { (newWithPeers sampleConfig []).tables with
      peerNodes := AList.insert 7 (sampleAddr 10 0 0 9 9001) ∅ },
    .receiver 0 (.receive 0 sampleEnv [0x05, 0, 0, 0, 3, 0, 0, 0, 7, 0xAA]
      (sampleAddr 10 0 0 1 4000) 0),
    .receiver 1 (.receive 0 sampleEnv [0x05, 0, 0, 0, 4, 0, 0, 0, 7, 0xBB]
      (sampleAddr 10 0 0 2 4000) 0),
    .receiver 0 (.get 0), .receiver 1 (.get 0), .receiver 1 .copy, .receiver 0 .copy,
    .receiver 1 .enqueue, .receiver 0 .enqueue] ++
  ([.take, .lookup false, .getOut 0, .shape, .take, .lookup false, .getOut 0, .shape, .timer,
    .send true, .send true, .send true, .putBack, .putBack, .putBack, .putBack, .putBack].map
      (SharedStep.worker 7))

set_option maxRecDepth 2000 in
theorem buffers_returned_two_frames :
    (sharedRun sampleConfig 2 [] framesForSeven).server.pool.next = 2 ∧
      ((sharedRun sampleConfig 2 [] framesForSeven).server.outBufPool.free.map Buf.id).Perm
        (List.range 2) := by
  refine ⟨by decide, ?_⟩
  exact (buffers_returned sampleConfig 2 [] framesForSeven (by decide) (by decide)).1

end

end PilotBeacon
