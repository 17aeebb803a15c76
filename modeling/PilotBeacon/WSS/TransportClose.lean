import PilotBeacon.WSS.Transport

/-!
# Closing the Daemon's WSS Transport

`Close` waits for `supervise`, and promises that nothing of the transport is left. Both depend
on where `supervise` stands when `Close` comes by.

While `drainReads` hands a frame over to `Recv`, it waits for room in `recvCh` or for
`superviseDoneCh`, which only its own goroutine closes: with a full channel and no `Recv`,
`Close` waits for the supervisor and the supervisor for `Recv`. Everywhere else the supervisor
runs to its end by itself.

Between its `closed` test after a dial and the store to `t.conn`, `supervise` installs a
connection that `Close` does not see if it takes `t.conn` in that window: the connection stays
open and installed.

- `canProceed_iff`: where the supervisor can go on under a cancelled context
- `superviseMoves_le`: it then has few steps left to take, under every schedule
- `close_unstuck_iff`: and it can always take one, if the hand-over is not blocked at the cancel
- `close_shuts_all`: what `Close` leaves behind outside the window
-/

namespace PilotBeacon.WSS.Daemon

open PilotBeacon.Lib

namespace SuperviseStage

/-- `drainReads` has a frame to hand over to `Recv`. -/
def hands : SuperviseStage → Bool
  | .handing _ _ => true
  | _ => false

theorem hands_iff : ∀ {stage : SuperviseStage},
    stage.hands = true ↔ ∃ conn frame, stage = .handing conn frame := by
  intro stage
  cases stage <;> simp [hands]

/-- The step of `supervise` that waits for nobody. -/
def ownAct : SuperviseStage → Transport.SuperviseAct
  | .reading _ => .read .failed true
  | .sleeping => .tick
  | .dialing => .dialFails
  | _ => .go

/-- How many steps it is to the end of `supervise` once the transport is closed. -/
def stepsToExit : SuperviseStage → Nat
  | .exited => 0
  | .top | .drained _ | .dropping _ => 1
  | .drainTop _ | .readFailed _ | .dialed _ | .installing _ => 2
  | .reading _ | .handing _ _ | .dialing => 3
  | .sleeping => 4
  | .readConn | .closing _ => 5
  | .clearing _ => 6

/-- `supervise` is past its last `closed` test before it stores the new connection. -/
def installs : SuperviseStage → Bool
  | .installing _ => true
  | _ => false

/-- The connection that `supervise` is going to close or install. -/
def owns : SuperviseStage → Option Nat
  | .clearing c | .closing c | .dialed (some c) | .dropping c | .installing c => some c
  | _ => none

end SuperviseStage

/-- The connection that a call of `Send` is going to remove from `t.conn`. -/
def SendStage.clears : SendStage → Option Nat
  | .clearing c => some c
  | _ => none

/-- `Close` has taken `t.conn`. -/
def CloseStage.took : CloseStage → Bool
  | .holding _ | .waiting | .returned => true
  | _ => false

namespace Transport

variable {recvBuffer : Nat} {t t' : Transport}

/-! ## Whether the supervisor can go on -/

/-- The supervisor hands a frame over and `recvCh` is full. -/
def HandOverBlocked (recvBuffer : Nat) (t : Transport) : Prop :=
  t.supervisor.hands = true ∧ recvBuffer ≤ t.recvCh.length

instance (recvBuffer : Nat) (t : Transport) : Decidable (HandOverBlocked recvBuffer t) :=
  inferInstanceAs (Decidable (_ ∧ _))

/-- The supervisor has a step, with reads and dials that honour the context. -/
def CanProceed (recvBuffer : Nat) (t : Transport) : Prop :=
  ∃ act, t.HonoursContext (.supervise act) ∧ (t.superviseStep recvBuffer act).isSome = true

theorem honoursContext_ownAct (t : Transport) (stage : SuperviseStage) :
    t.HonoursContext (.supervise stage.ownAct) := by
  cases stage <;> trivial

/-- Away from its end and from a blocked hand-over, the supervisor moves by itself. -/
theorem superviseStep_ownAct (hrun : t.supervisor ≠ .exited)
    (hfree : ¬ t.HandOverBlocked recvBuffer) :
    (t.superviseStep recvBuffer t.supervisor.ownAct).isSome = true := by
  cases hstage : t.supervisor with
  | exited => exact absurd hstage hrun
  | handing c frame =>
    have hroom : t.recvCh.length < recvBuffer := by
      by_contra hfull
      exact hfree ⟨by rw [hstage]; rfl, Nat.le_of_not_lt hfull⟩
    simp [superviseStep, SuperviseStage.ownAct, hstage, hroom]
  | readConn => cases hconn : t.conn <;> simp [superviseStep, SuperviseStage.ownAct, hstage, hconn]
  | dialed newConn =>
    cases newConn <;> by_cases hclosed : t.closed <;>
      simp [superviseStep, SuperviseStage.ownAct, hstage, hclosed]
  | readFailed c =>
    by_cases hpush : t.closed = true ∧ t.recvCh.length < recvBuffer <;>
      simp [superviseStep, SuperviseStage.ownAct, hstage, hpush]
  | _ =>
    by_cases hclosed : t.closed <;>
      simp [superviseStep, SuperviseStage.ownAct, hstage, hclosed]

/-- In a blocked hand-over neither arm of the `select` is ready: the channel is full, and the
    goroutine that would close `superviseDoneCh` is the one that waits. -/
theorem superviseStep_blocked (hdone : t.superviseDone = true ↔ t.supervisor = .exited)
    (hblocked : t.HandOverBlocked recvBuffer) (act : SuperviseAct) :
    t.superviseStep recvBuffer act = none := by
  obtain ⟨hhands, hfull⟩ := hblocked
  obtain ⟨c, frame, hstage⟩ := SuperviseStage.hands_iff.mp hhands
  have hnot : t.superviseDone = false := by
    rw [Bool.eq_false_iff, Ne, hdone, hstage]
    exact nofun
  cases act <;> simp [superviseStep, hstage, hnot, Nat.not_lt.mpr hfull]

theorem canProceed_iff (hdone : t.superviseDone = true ↔ t.supervisor = .exited) :
    t.CanProceed recvBuffer ↔ t.supervisor ≠ .exited ∧ ¬ t.HandOverBlocked recvBuffer := by
  constructor
  · rintro ⟨act, -, hact⟩
    constructor
    · intro hexited
      simp [superviseStep, hexited] at hact
    · intro hblocked
      rw [superviseStep_blocked hdone hblocked act] at hact
      cases hact
  · rintro ⟨hrun, hfree⟩
    exact ⟨_, honoursContext_ownAct t _, superviseStep_ownAct hrun hfree⟩

/-! ## From the cancel of the lifetime context on -/

/-- `Close` has cancelled the context, and the hand-over is not blocked. -/
structure Unwinding (recvBuffer : Nat) (t : Transport) : Prop where
  closed : t.closed = true
  cancelled : t.cancelled = true
  free : t.supervisor.hands = true → t.recvCh.length < recvBuffer

theorem Unwinding.not_blocked (h : Unwinding recvBuffer t) : ¬ t.HandOverBlocked recvBuffer :=
  fun ⟨hhands, hfull⟩ => absurd (h.free hhands) (Nat.not_lt.mpr hfull)

/-- No frame is read under the cancelled context, so none is left to hand over. -/
theorem Unwinding.supervise (hu : Unwinding recvBuffer t) {act : SuperviseAct}
    (hctx : t.HonoursContext (.supervise act)) (h : t.superviseStep recvBuffer act = some t') :
    Unwinding recvBuffer t' := by
  obtain ⟨-, hclosed, hcancelled⟩ := superviseStep_keeps h
  refine ⟨hclosed.trans hu.closed, hcancelled.trans hu.cancelled, ?_⟩
  revert h
  fun_cases superviseStep recvBuffer t act <;> rintro ⟨⟩
  case case9 => exact absurd hu.cancelled (by rw [hctx]; exact Bool.false_ne_true)
  all_goals simp_all [SuperviseStage.hands, exit, shutConn, libraryCall, clearConn]

theorem Unwinding.next (hu : Unwinding recvBuffer t) {e : Event} (hctx : t.HonoursContext e) :
    Unwinding recvBuffer (t.next recvBuffer e) := by
  refine next_cases hu fun t' h => ?_
  cases e with
  | supervise act => exact hu.supervise hctx h
  | send i act =>
    obtain ⟨conn, shut, sends, rfl, -⟩ := sendStep_changes h
    exact ⟨hu.closed, hu.cancelled, hu.free⟩
  | recv =>
    obtain ⟨recvCh, rfl, hlen⟩ := step_recv_changes h
    exact ⟨hu.closed, hu.cancelled, fun hhands => hlen.trans_lt (hu.free hhands)⟩
  | close =>
    obtain ⟨hsup, hrecv, -, hclosed, hcancelled⟩ := closeStep_keeps h
    refine ⟨hclosed hu.closed, hcancelled hu.cancelled, ?_⟩
    rw [hsup, hrecv]
    exact hu.free

/-- Every step of the supervisor brings it nearer to its end. -/
theorem stepsToExit_superviseStep (hu : Unwinding recvBuffer t) {act : SuperviseAct}
    (hctx : t.HonoursContext (.supervise act)) (h : t.superviseStep recvBuffer act = some t') :
    t'.supervisor.stepsToExit < t.supervisor.stepsToExit := by
  have hclosed := hu.closed
  revert h
  fun_cases superviseStep recvBuffer t act <;> rintro ⟨⟩
  case case9 => exact absurd hu.cancelled (by rw [hctx]; exact Bool.false_ne_true)
  all_goals simp_all [SuperviseStage.stepsToExit, exit, shutConn]

/-- The steps of the supervisor in one step of the system. -/
def superviseMoves (recvBuffer : Nat) (t : Transport) : Event → List SuperviseAct
  | .supervise act => if (t.superviseStep recvBuffer act).isSome then [act] else []
  | _ => []

/-- Only the supervisor moves the supervisor. -/
theorem supervisor_next (e : Event) (he : ∀ act, e ≠ .supervise act) :
    (t.next recvBuffer e).supervisor = t.supervisor := by
  refine next_cases (P := fun t' => t'.supervisor = t.supervisor) rfl fun t' h => ?_
  cases e with
  | supervise act => exact absurd rfl (he act)
  | send i act =>
    obtain ⟨conn, shut, sends, rfl, -⟩ := sendStep_changes h
    rfl
  | recv =>
    obtain ⟨recvCh, rfl, -⟩ := step_recv_changes h
    rfl
  | close => exact (closeStep_keeps h).1

theorem stepsToExit_next (hu : Unwinding recvBuffer t) {e : Event} (hctx : t.HonoursContext e) :
    (superviseMoves recvBuffer t e).length + (t.next recvBuffer e).supervisor.stepsToExit ≤
      t.supervisor.stepsToExit := by
  cases e with
  | supervise act =>
    cases h : t.superviseStep recvBuffer act with
    | none => simp [superviseMoves, next, step, h]
    | some t' =>
      have hlt := stepsToExit_superviseStep hu hctx h
      simp only [superviseMoves, next, step, h, Option.isSome_some, if_true, Option.getD_some,
        List.length_singleton]
      omega
  | send i act =>
    rw [supervisor_next (.send i act) nofun]
    exact (Nat.zero_add _).le
  | recv =>
    rw [supervisor_next .recv nofun]
    exact (Nat.zero_add _).le
  | close =>
    rw [supervisor_next .close nofun]
    exact (Nat.zero_add _).le

/-- **The supervisor does not go on forever.** Whatever the schedule, it takes at most
    `stepsToExit` more steps, six from where it is farthest. -/
theorem superviseMoves_le (hu : Unwinding recvBuffer t) {es : List Event}
    (hctx : Transition.Along (next recvBuffer) HonoursContext t es) :
    (Transition.observe (next recvBuffer) (superviseMoves recvBuffer) t es).length +
        (runFrom recvBuffer t es).supervisor.stepsToExit ≤ t.supervisor.stepsToExit := by
  induction es generalizing t with
  | nil => exact (Nat.zero_add _).le
  | cons e es ih =>
    have hstep := stepsToExit_next hu hctx.1
    have hrest := ih (hu.next hctx.1) hctx.2
    rw [Transition.observe_cons, List.length_append]
    change _ + (runFrom recvBuffer (t.next recvBuffer e) es).supervisor.stepsToExit ≤ _
    omega

/-- Until it has returned the supervisor has a step, along every schedule. -/
theorem canProceed_run (hc : t.Consistent) (hu : Unwinding recvBuffer t) {es : List Event}
    (hctx : Transition.Along (next recvBuffer) HonoursContext t es)
    (hrun : (runFrom recvBuffer t es).supervisor ≠ .exited) :
    (runFrom recvBuffer t es).CanProceed recvBuffer := by
  have hinv : (runFrom recvBuffer t es).Consistent ∧
      Unwinding recvBuffer (runFrom recvBuffer t es) :=
    Transition.along_invariant (next recvBuffer) (fun t => t.Consistent ∧ Unwinding recvBuffer t)
      ⟨hc, hu⟩ (fun _ e he h => ⟨h.1.next e, h.2.next he⟩) hctx
  exact (canProceed_iff hinv.1.done_iff).mpr ⟨hrun, hinv.2.not_blocked⟩

theorem next_close_marked (hmarked : t.closer = .marked) :
    t.next recvBuffer .close = { t with cancelled := true, closer := .cancelled } := by
  simp [next, step, closeStep, hmarked]

/-- **Close cannot get stuck**, whatever the schedule of the other calls, exactly if the
    supervisor is not handing a frame over to a full `recvCh` when `Close` cancels the context:
    then it always has a step of its own until it has returned. -/
theorem close_unstuck_iff (recvBuffer : Nat) (es : List Event)
    (hmarked : (runFrom recvBuffer dial es).closer = .marked) :
    (∀ es', Transition.Along (next recvBuffer) HonoursContext
        ((runFrom recvBuffer dial es).next recvBuffer .close) es' →
      let t := runFrom recvBuffer ((runFrom recvBuffer dial es).next recvBuffer .close) es'
      t.supervisor ≠ .exited → t.CanProceed recvBuffer) ↔
    ¬ (runFrom recvBuffer dial es).HandOverBlocked recvBuffer := by
  have hc : (runFrom recvBuffer dial es).Consistent := consistent_run es
  have hc' : ((runFrom recvBuffer dial es).next recvBuffer .close).Consistent := hc.next .close
  have hclosed := hc.closed_of_close (by simp [hmarked])
  rw [next_close_marked hmarked] at hc' ⊢
  constructor
  · -- in the state after the cancel the supervisor stands where it stood before
    intro h hblocked
    have hrun : (runFrom recvBuffer dial es).supervisor ≠ .exited := by
      obtain ⟨c, frame, hstage⟩ := SuperviseStage.hands_iff.mp hblocked.1
      rw [hstage]
      exact nofun
    exact ((canProceed_iff hc'.done_iff).mp (h [] trivial hrun)).2 hblocked
  · intro hfree es' hctx t hrun
    refine canProceed_run hc' ⟨hclosed, rfl, fun hhands => ?_⟩ hctx hrun
    exact Nat.lt_of_not_le fun hfull => hfree ⟨hhands, hfull⟩

/-- One frame fills a channel of size one, and `drainReads` has read a second one when `Close`
    comes; nobody calls `Recv`. -/
def secondFrameRead : List Event :=
  [.supervise .go, .supervise .go, .supervise .go, .supervise (.read (.binary [1]) false),
    .supervise .go, .supervise .go, .supervise (.read (.binary [2]) false), .close]

/-- `Close` has cancelled the context and taken `t.conn`, the supervisor has not returned, and
    no step of it is possible: `Close` waits for it forever. -/
theorem close_stuck_secondFrame :
    let t := runFrom 1 dial (secondFrameRead ++ [.close, .close, .close])
    t.closed = true ∧ t.cancelled = true ∧ t.closer = .waiting ∧ t.supervisor ≠ .exited ∧
      ∀ act, t.superviseStep 1 act = none := by
  refine ⟨by decide, by decide, by decide, by decide, ?_⟩
  exact superviseStep_blocked (consistent_run _).done_iff (by decide)

/-- With room for the second frame the same schedule goes on. -/
theorem close_unstuck_secondFrame :
    (runFrom 2 dial secondFrameRead).closer = .marked ∧
      (runFrom 2 ((runFrom 2 dial secondFrameRead).next 2 .close) [.close, .close]).CanProceed 2 :=
  ⟨by decide, (close_unstuck_iff 2 secondFrameRead (by decide)).mpr (by decide) [.close, .close]
    ⟨trivial, trivial, trivial⟩ (by decide)⟩

/-! ## What Close leaves behind -/

/-- `Close` does not take `t.conn` while the supervisor is about to store a new connection, and
    `Send` removes a connection from `t.conn` only when the library has closed it. -/
def Orderly (t : Transport) : Event → Prop
  | .close => t.closer = .cancelled → t.supervisor.installs = false
  | .send i .go => ∀ c ∈ (t.sends i).clears, t.conn = some c → c ∈ t.shut
  | _ => True

instance Orderly.decidable (t : Transport) : ∀ e, Decidable (Orderly t e)
  | .close => inferInstanceAs (Decidable (_ → _))
  | .send i .go => inferInstanceAs (Decidable (∀ c ∈ (t.sends i).clears, _ → _))
  | .send _ (.call _) | .send _ .writeOk | .send _ (.writeFails _) | .supervise _ | .recv =>
    inferInstanceAs (Decidable True)

/-- Connection `c` is closed, or somebody is going to close it: who finds it in `t.conn`, the
    supervisor, or `Close`. -/
def AnsweredFor (t : Transport) (c : Nat) : Prop :=
  c ∈ t.shut ∨ t.conn = some c ∨ t.supervisor.owns = some c ∨ t.closer = .holding (some c)

/-- The supervisor lets go of a connection only where `t.conn` agrees with it. -/
theorem answeredFor_superviseStep (hagrees : ConnAgrees t.conn t.supervisor) {c : Nat}
    (hc : t.AnsweredFor c) {act : SuperviseAct} (h : t.superviseStep recvBuffer act = some t') :
    t'.AnsweredFor c := by
  unfold AnsweredFor at hc ⊢
  revert h
  fun_cases superviseStep recvBuffer t act <;> rintro ⟨⟩ <;>
    simp_all [SuperviseStage.owns, ConnAgrees, exit, shutConn, libraryCall, clearConn]
  all_goals grind

/-- A connection that `dialAndAuth` returns to the supervisor is the supervisor's. -/
theorem opened_superviseStep {act : SuperviseAct} (h : t.superviseStep recvBuffer act = some t') :
    t'.opened = t.opened ∨ t'.opened = t.opened + 1 ∧ t'.supervisor.owns = some t.opened := by
  revert h
  fun_cases superviseStep recvBuffer t act <;> rintro ⟨⟩
  case case23 => exact .inr ⟨rfl, rfl⟩
  all_goals exact .inl rfl

/-- In a closed transport the supervisor stores no connection, unless it was about to. -/
theorem gone_superviseStep (hclosed : t.closed = true)
    (hgone : t.conn = none ∧ t.supervisor.installs = false) {act : SuperviseAct}
    (h : t.superviseStep recvBuffer act = some t') :
    t'.conn = none ∧ t'.supervisor.installs = false := by
  revert h
  fun_cases superviseStep recvBuffer t act <;> rintro ⟨⟩ <;>
    simp_all [SuperviseStage.installs, exit, shutConn, libraryCall, clearConn]

/-- Every connection is answered for, and once `Close` has taken `t.conn` it stays nil. -/
structure Accounted (t : Transport) : Prop where
  held : ∀ c < t.opened, t.AnsweredFor c
  gone : t.closer.took = true → t.conn = none ∧ t.supervisor.installs = false

theorem accounted_dial : dial.Accounted where
  held := fun c hc => .inr (.inl (by rw [Nat.lt_one_iff.mp hc]; rfl))
  gone := nofun

theorem Accounted.supervise (hc : t.Consistent) (ha : t.Accounted) {act : SuperviseAct}
    (h : t.superviseStep recvBuffer act = some t') : t'.Accounted := by
  constructor
  · intro c hlt
    rcases opened_superviseStep h with heq | ⟨heq, howns⟩
    · exact answeredFor_superviseStep hc.agrees (ha.held c (heq ▸ hlt)) h
    · rcases Nat.lt_succ_iff_lt_or_eq.mp (heq ▸ hlt) with hold | rfl
      · exact answeredFor_superviseStep hc.agrees (ha.held c hold) h
      · exact .inr (.inr (.inl howns))
  · intro htook
    rw [(superviseStep_keeps h).1] at htook
    have hclosed : t.closed = true :=
      hc.closed_of_close (by rintro hidle; rw [hidle] at htook; cases htook)
    exact gone_superviseStep hclosed (ha.gone htook) h

/-- A connection that `Send` removes from `t.conn` is closed. -/
theorem Accounted.send (ha : t.Accounted) {i : Nat} {act : SendAct}
    (ho : Orderly t (.send i act)) (h : t.sendStep i act = some t') : t'.Accounted := by
  obtain ⟨conn, shut, sends, rfl, hshut, hconn⟩ := sendStep_changes h
  constructor
  · intro c hlt
    rcases ha.held c hlt with hc | hc | hc
    · exact .inl (hshut hc)
    · rcases hconn with rfl | ⟨rfl, rfl, d, hd, hcd⟩
      · exact .inr (.inl hc)
      · have hmem : d ∈ t.shut := ho d (by rw [hd]; rfl) hcd
        rw [Option.some.inj (hc.symm.trans hcd)]
        exact .inl (hshut hmem)
    · exact .inr (.inr hc)
  · intro htook
    obtain ⟨hnone, hinst⟩ := ha.gone htook
    refine ⟨?_, hinst⟩
    rcases hconn with rfl | ⟨rfl, -⟩
    · exact hnone
    · rfl

/-- What `Close` takes from `t.conn` it closes. -/
theorem answeredFor_closeStep {c : Nat} (hc : t.AnsweredFor c) (h : t.closeStep = some t') :
    t'.AnsweredFor c := by
  unfold AnsweredFor at hc ⊢
  revert h
  fun_cases closeStep t <;> rintro ⟨⟩ <;> simp_all [shutConn]
  all_goals grind

theorem Accounted.close (ha : t.Accounted) (ho : Orderly t .close) (h : t.closeStep = some t') :
    t'.Accounted := by
  obtain ⟨-, -, hopened, -⟩ := closeStep_keeps h
  refine ⟨fun c hlt => answeredFor_closeStep (ha.held c (hopened ▸ hlt)) h, ?_⟩
  have hgone := ha.gone
  revert h
  fun_cases closeStep t <;> rintro ⟨⟩
  case case3 hstage => exact fun _ => ⟨rfl, ho hstage⟩
  all_goals simp_all [CloseStage.took, shutConn]

theorem Accounted.next (hc : t.Consistent) (ha : t.Accounted) {e : Event} (ho : Orderly t e) :
    (t.next recvBuffer e).Accounted := by
  refine next_cases ha fun t' h => ?_
  cases e with
  | supervise act => exact ha.supervise hc h
  | send i act => exact ha.send ho h
  | recv =>
    obtain ⟨recvCh, rfl, -⟩ := step_recv_changes h
    exact ⟨ha.held, ha.gone⟩
  | close => exact ha.close ho h

/-- **Close leaves nothing behind** along every schedule in which it does not take `t.conn`
    between the supervisor's last `closed` test and its store: once it has returned, `t.conn` is
    nil and every connection that was dialed is closed. -/
theorem close_shuts_all (recvBuffer : Nat) (es : List Event)
    (horderly : Transition.Along (next recvBuffer) Orderly dial es)
    (hreturned : (runFrom recvBuffer dial es).closer = .returned) :
    (runFrom recvBuffer dial es).conn = none ∧
      ∀ c < (runFrom recvBuffer dial es).opened, c ∈ (runFrom recvBuffer dial es).shut := by
  have hinv : (runFrom recvBuffer dial es).Consistent ∧ (runFrom recvBuffer dial es).Accounted :=
    Transition.along_invariant (next recvBuffer) (fun t => t.Consistent ∧ t.Accounted)
      ⟨consistent_dial, accounted_dial⟩ (fun _ e he h => ⟨h.1.next e, h.2.next h.1 he⟩) horderly
  obtain ⟨hc, ha⟩ := hinv
  have hexited := hc.done_iff.mp (hc.done_of_returned hreturned)
  obtain ⟨hnone, -⟩ := ha.gone (by rw [hreturned]; rfl)
  refine ⟨hnone, fun c hlt => ?_⟩
  -- nobody is left to answer for it
  rcases ha.held c hlt with hshut | hconn | howns | hholding
  · exact hshut
  · exact absurd (hnone.symm.trans hconn) nofun
  · rw [hexited] at howns
    cases howns
  · exact absurd (hreturned.symm.trans hholding) nofun

/-- The first connection breaks and the supervisor dials a second one, up to its store. -/
def redialed : List Event :=
  [.supervise .go, .supervise .go, .supervise .go, .supervise (.read .failed true),
    .supervise .go, .supervise .go, .supervise .go, .supervise .go, .supervise .timer,
    .supervise .dialOk, .supervise .go]

/-- `Close` comes after the store and takes the new connection. -/
def closedAfterStore : List Event :=
  redialed ++ [.supervise .go, .close, .close, .close, .close, .supervise .go, .close]

theorem close_shuts_all_afterStore :
    Transition.Along (next 256) Orderly dial closedAfterStore ∧
      (runFrom 256 dial closedAfterStore).closer = .returned ∧
      (runFrom 256 dial closedAfterStore).conn = none ∧
      ∀ c < (runFrom 256 dial closedAfterStore).opened,
        c ∈ (runFrom 256 dial closedAfterStore).shut :=
  ⟨by decide, by decide, close_shuts_all 256 closedAfterStore (by decide) (by decide)⟩

/-- `Close` takes `t.conn`, nil by then, between the supervisor's `closed` test and its store. -/
def closedBeforeStore : List Event :=
  redialed ++ [.close, .close, .close, .close, .supervise .go, .supervise .go, .close]

/-- `Close` has returned, and the second connection is installed and open. -/
theorem close_leaves_open_beforeStore :
    (runFrom 256 dial closedBeforeStore).closer = .returned ∧
      (runFrom 256 dial closedBeforeStore).conn = some 1 ∧
      1 < (runFrom 256 dial closedBeforeStore).opened ∧
      1 ∉ (runFrom 256 dial closedBeforeStore).shut := by
  decide

end Transport

end PilotBeacon.WSS.Daemon
