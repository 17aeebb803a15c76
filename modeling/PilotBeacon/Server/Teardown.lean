import PilotBeacon.Server.BoundedWaiting
import PilotBeacon.Server.ReadLoop

/-!
# Sockets from `ListenAndServe` to `Close`

`ListenAndServe` closes what it has bound when a bind fails, `Close` closes `s.conns` once, and the
two may overlap: `Close` sees the sockets that are in `s.conns` when it looks. One that is bound
and not appended yet stays open, like those bound later.

- `ListenInv`: `s.conns` against the sockets there are, by stage of `ListenAndServe`
- `CloseMove`: what a step of a call of `Close` can be
- `Torn`: the teardown against the moment it looked at `s.conns`
- `sockets_accounted`, `close_tears_down`: the statements about runs
-/

namespace PilotBeacon

open PilotBeacon.Lib PilotBeacon.Net

/-! ## Counting closes -/

namespace Process

variable {p : Process} {c d : Nat}

/-- How often a failed `ListenAndServe` has closed socket `c`. -/
def cleanups (p : Process) (c : Nat) : Nat := (p.sockets[c]?).elim 0 Socket.cleanups

/-- How often the teardown of `Close` has closed socket `c`. -/
def teardowns (p : Process) (c : Nat) : Nat := (p.sockets[c]?).elim 0 Socket.teardowns

/-- A socket that was just bound has not been closed. -/
theorem counts_bind (p : Process) (addr : UDPAddr) (serve : ServeStage) (c : Nat) :
    let p' : Process := { p with sockets := p.sockets ++ [⟨addr, 0, 0⟩], serve }
    p'.cleanups c = p.cleanups c ∧ p'.teardowns c = p.teardowns c := by
  simp only [cleanups, teardowns, List.getElem?_append]
  by_cases hc : c < p.sockets.length
  · simp [hc]
  · cases hd : c - p.sockets.length <;> simp [hc]

theorem counts_cleanup (p : Process) (c : Nat) (serve : ServeStage) (hc : c < p.sockets.length)
    (d : Nat) :
    let p' : Process := { p with
      sockets := p.sockets.modify c fun s => { s with cleanups := s.cleanups + 1 }, serve }
    p'.cleanups d = p.cleanups d + (if d = c then 1 else 0) ∧ p'.teardowns d = p.teardowns d := by
  simp only [cleanups, teardowns, List.getElem?_modify]
  by_cases hd : c = d
  · subst hd
    simp [hc]
  · cases p.sockets[d]? <;> simp [hd, Ne.symm hd]

theorem counts_teardown (p : Process) (c : Nat) (teardown : TeardownStage) (server : Server)
    (hc : c < p.sockets.length) (d : Nat) :
    let p' : Process := { p with
      sockets := p.sockets.modify c fun s => { s with teardowns := s.teardowns + 1 }
      teardown, server }
    p'.cleanups d = p.cleanups d ∧ p'.teardowns d = p.teardowns d + (if d = c then 1 else 0) := by
  simp only [cleanups, teardowns, List.getElem?_modify]
  by_cases hd : c = d
  · subst hd
    simp [hc]
  · cases p.sockets[d]? <;> simp [hd, Ne.symm hd]

theorem isClosed_iff : p.isClosed c = true ↔ 0 < p.cleanups c + p.teardowns c := by
  unfold isClosed cleanups teardowns
  cases p.sockets[c]? <;> simp [Socket.closed]

end Process

/-- How one process's sockets relate to those of another it came from: only new closes by the
    teardown. -/
structure SameListen (p p' : Process) : Prop where
  conns : p'.conns = p.conns
  serve : p'.serve = p.serve
  length : p'.sockets.length = p.sockets.length
  cleanups : ∀ c, p'.cleanups c = p.cleanups c
  closed : ∀ c, p.isClosed c = true → p'.isClosed c = true

theorem SameListen.refl (p : Process) : SameListen p p := ⟨rfl, rfl, rfl, fun _ => rfl, fun _ => id⟩

/-! ## `ListenAndServe` -/

/-- What `s.conns` is at each stage. -/
def StageOk (pl : Platform) (p : Process) : Prop :=
  match p.serve with
  | .idle => p.conns = []
  | .binding i => p.conns.length = i ∧ ∀ c ∈ p.conns, p.cleanups c = 0
  | .opened i c => p.conns.length = i ∧ i < pl.readers ∧ (∀ d ∈ p.conns, p.cleanups d = 0) ∧
      c < p.sockets.length ∧ c ∉ p.conns ∧ p.cleanups c = 0
  | .cleaning _ rest => rest.Nodup ∧ (∀ c ∈ rest, c ∈ p.conns ∧ p.cleanups c = 0) ∧
      ∀ c ∈ p.conns, c ∉ rest → p.isClosed c = true
  | .failed _ => ∀ c ∈ p.conns, p.isClosed c = true
  | .serving => p.conns.length = pl.readers ∧ ∀ c ∈ p.conns, p.cleanups c = 0

structure ListenInv (pl : Platform) (p : Process) : Prop where
  bound : ∀ c ∈ p.conns, c < p.sockets.length
  nodup : p.conns.Nodup
  few : p.conns.length ≤ pl.readers
  /-- A socket outside `s.conns` is closed, or is about to be appended. -/
  lost : ∀ c < p.sockets.length, c ∉ p.conns → p.isClosed c = true ∨ p.serve.inHand = some c
  once : ∀ c, p.cleanups c ≤ 1
  stage : StageOk pl p

section

variable {cfg : Config} {pl : Platform} {p p' : Process}

theorem ListenInv.same (h : ListenInv pl p) (hs : SameListen p p') : ListenInv pl p' where
  bound := by simpa only [hs.conns, hs.length] using h.bound
  nodup := hs.conns ▸ h.nodup
  few := hs.conns ▸ h.few
  lost := by
    intro c hc hnot
    rw [hs.length] at hc
    rw [hs.conns] at hnot
    rw [hs.serve]
    exact (h.lost c hc hnot).imp_left (hs.closed c)
  once := fun c => (hs.cleanups c).trans_le (h.once c)
  stage := by
    have hstage := h.stage
    unfold StageOk at hstage ⊢
    rw [hs.serve]
    split at hstage
    · exact hs.conns.trans hstage
    · simpa only [hs.conns, hs.cleanups] using hstage
    · simpa only [hs.conns, hs.cleanups, hs.length] using hstage
    · simp only [hs.conns, hs.cleanups]
      exact ⟨hstage.1, hstage.2.1, fun c hc hnot => hs.closed c (hstage.2.2 c hc hnot)⟩
    · intro c hc
      rw [hs.conns] at hc
      exact hs.closed c (hstage c hc)
    · simpa only [hs.conns, hs.cleanups] using hstage

theorem listenInv_new (cfg : Config) (peers : List Text) :
    ListenInv pl (Process.new cfg peers) where
  bound := by simp [Process.new]
  nodup := List.nodup_nil
  few := Nat.zero_le _
  lost := by simp [Process.new]
  once := by simp [Process.new, Process.cleanups]
  stage := rfl

/-- A restart forgets only sockets that are closed. -/
theorem ListenInv.listen (h : ListenInv pl p) : ListenInv pl p.listenStep := by
  have hstart : p.serve.inHand = none → (∀ c ∈ p.conns, p.isClosed c = true) →
      ListenInv pl { p with conns := [], serve := .binding 0 } := fun hnone hall =>
    { bound := by simp
      nodup := List.nodup_nil
      few := Nat.zero_le _
      lost := fun c hc _ => .inl <| (em (c ∈ p.conns)).elim (hall c) fun hnot =>
        (h.lost c hc hnot).resolve_right (by simp [hnone])
      once := h.once
      stage := ⟨rfl, by simp⟩ }
  have hstage := h.stage
  unfold Process.listenStep
  unfold StageOk at hstage
  cases hserve : p.serve with
  | idle =>
    simp only [hserve] at hstage
    exact hstart (by rw [hserve]; rfl) (by simp [hstage])
  | failed i =>
    simp only [hserve] at hstage
    exact hstart (by rw [hserve]; rfl) hstage
  | _ => exact h

theorem ListenInv.bind (h : ListenInv pl p) (result : Option UDPAddr) :
    ListenInv pl (p.bindStep pl result) := by
  have hstage := h.stage
  unfold Process.bindStep
  unfold StageOk at hstage
  cases hserve : p.serve with
  | binding i =>
    simp only [hserve] at hstage ⊢
    have hlost : ∀ c < p.sockets.length, c ∉ p.conns → p.isClosed c = true := fun c hc hnot =>
      (h.lost c hc hnot).resolve_right (by simp [hserve, ServeStage.inHand])
    by_cases hi : i < pl.readers
    · simp only [hi, if_true]
      cases result with
      | none =>
        exact ⟨h.bound, h.nodup, h.few, fun c hc hnot => .inl (hlost c hc hnot), h.once,
          ⟨h.nodup, fun c hc => ⟨hc, hstage.2 c hc⟩, fun c hc hnot => absurd hc hnot⟩⟩
      | some addr =>
        have hcounts := p.counts_bind addr (.opened i p.sockets.length)
        have hnew : p.sockets.length ∉ p.conns := fun hmem => (h.bound _ hmem).false
        refine ⟨?_, h.nodup, h.few, ?_, fun c => (hcounts c).1.trans_le (h.once c), hstage.1, hi,
          fun c hc => (hcounts c).1.trans (hstage.2 c hc), by simp, hnew, ?_⟩
        · intro c hc
          simp only [List.length_append, List.length_singleton]
          exact (h.bound c hc).trans (Nat.lt_succ_self _)
        · intro c hc hnot
          simp only [List.length_append, List.length_singleton] at hc
          rcases Nat.lt_succ_iff_lt_or_eq.mp hc with hold | rfl
          · have hclosed := hlost c hold hnot
            rw [Process.isClosed_iff] at hclosed ⊢
            rw [(hcounts c).1, (hcounts c).2]
            exact .inl hclosed
          · exact .inr rfl
        · refine (hcounts _).1.trans ?_
          simp [Process.cleanups]
    · simpa only [hi, if_false] using h
  | _ => exact h

theorem ListenInv.append (h : ListenInv pl p) : ListenInv pl p.appendStep := by
  have hstage := h.stage
  unfold Process.appendStep
  unfold StageOk at hstage
  cases hserve : p.serve with
  | opened i c =>
    simp only [hserve] at hstage ⊢
    obtain ⟨hcount, hi, huntouched, hbound, hnew, hc⟩ := hstage
    have hmem : ∀ d, d ∈ p.conns ++ [c] → d ∈ p.conns ∨ d = c := fun d hd =>
      (List.mem_append.mp hd).imp_right List.mem_singleton.mp
    refine ⟨?_, ?_, ?_, ?_, h.once, ?_, ?_⟩
    · exact fun d hd => (hmem d hd).elim (h.bound d) fun heq => heq ▸ hbound
    · exact List.nodup_append.mpr ⟨h.nodup, List.nodup_singleton _, by
        intro a ha b hb hab
        rw [List.mem_singleton.mp hb] at hab
        exact hnew (hab ▸ ha)⟩
    · simp only [List.length_append, List.length_singleton, hcount]
      exact hi
    · intro d hd hnot
      simp only [List.mem_append, List.mem_singleton, not_or] at hnot
      refine .inl ((h.lost d hd hnot.1).resolve_right fun heq => hnot.2 ?_)
      rw [hserve] at heq
      exact (Option.some_inj.mp heq).symm
    · simp [hcount]
    · exact fun d hd => (hmem d hd).elim (huntouched d) fun heq => heq ▸ hc
  | _ => exact h

theorem ListenInv.cleanup (h : ListenInv pl p) : ListenInv pl p.cleanupStep := by
  have hstage := h.stage
  unfold Process.cleanupStep
  unfold StageOk at hstage
  cases hserve : p.serve with
  | cleaning i rest =>
    simp only [hserve] at hstage ⊢
    obtain ⟨hnodup, hrest, hclosed⟩ := hstage
    have hlost : ∀ c < p.sockets.length, c ∉ p.conns → p.isClosed c = true := fun c hc hnot =>
      (h.lost c hc hnot).resolve_right (by simp [hserve, ServeStage.inHand])
    cases rest with
    | nil =>
      exact ⟨h.bound, h.nodup, h.few, fun c hc hnot => .inl (hlost c hc hnot), h.once,
        fun c hc => hclosed c hc (by simp)⟩
    | cons c rest =>
      have hc := hrest c List.mem_cons_self
      have hcounts := p.counts_cleanup c (.cleaning i rest) (h.bound c hc.1)
      have hmono : ∀ d, p.isClosed d = true ∨ d = c → Process.isClosed { p with
          sockets := p.sockets.modify c fun s => { s with cleanups := s.cleanups + 1 }
          serve := .cleaning i rest } d = true := by
        intro d hd
        rw [Process.isClosed_iff, (hcounts d).1, (hcounts d).2]
        rcases hd with hold | rfl
        · rw [Process.isClosed_iff] at hold
          omega
        · simp
      refine ⟨?_, h.nodup, h.few, ?_, ?_, hnodup.of_cons, ?_, ?_⟩
      · simpa only [List.length_modify] using h.bound
      · intro d hd hnot
        simp only [List.length_modify] at hd
        exact .inl (hmono d (.inl (hlost d hd hnot)))
      · intro d
        refine (hcounts d).1.trans_le ?_
        by_cases hd : d = c
        · simp [hd, hc.2]
        · simpa [hd] using h.once d
      · intro d hd
        have hne : d ≠ c := fun heq => (List.nodup_cons.mp hnodup).1 (heq ▸ hd)
        exact ⟨(hrest d (List.mem_cons_of_mem c hd)).1, (hcounts d).1.trans (by
          simp [hne, (hrest d (List.mem_cons_of_mem c hd)).2])⟩
      · intro d hd hnot
        by_cases hdc : d = c
        · exact hmono d (.inr hdc)
        · exact hmono d (.inl (hclosed d hd (by simp [hdc, hnot])))
  | _ => exact h

theorem ListenInv.serve (h : ListenInv pl p) : ListenInv pl (p.serveStep pl) := by
  have hstage := h.stage
  unfold Process.serveStep
  unfold StageOk at hstage
  cases hserve : p.serve with
  | binding i =>
    simp only [hserve] at hstage ⊢
    by_cases hi : i < pl.readers
    · simpa only [hi, if_true] using h
    · simp only [hi, if_false]
      have hall : p.conns.length = pl.readers :=
        le_antisymm h.few (hstage.1.symm ▸ Nat.le_of_not_lt hi)
      have hlost : ∀ c < p.sockets.length, c ∉ p.conns → p.isClosed c = true := fun c hc hnot =>
        (h.lost c hc hnot).resolve_right (by simp [hserve, ServeStage.inHand])
      exact ⟨h.bound, h.nodup, h.few, fun c hc hnot => .inl (hlost c hc hnot), h.once, hall,
        hstage.2⟩
  | _ => exact h

/-! ## Calls of `Close` -/

/-- What the teardown learns when it closes a socket. -/
def closeResults (p : Process) : ProcessStep → List (Option CloseError)
  | .close k _ ok =>
    match p.callers k, p.teardown with
    | .inside, .closing j (c :: _) _ => if j = k then [p.closeResult c ok] else []
    | _, _ => []
  | _ => []

/-- **What a step of call `k` of `Close` can be**, and what the teardown learns at it. -/
inductive CloseMove (p : Process) (k : Nat) (ok : Bool) :
    List (Option CloseError) → Process → Prop where
  | wait : CloseMove p k ok [] p
  | enter (hout : p.callers k = .outside) (hstage : p.teardown = .fresh) :
      CloseMove p k ok [] { p.setCaller k .inside with teardown := .entered k }
  | join (hout : p.callers k = .outside) (hstage : p.teardown ≠ .fresh) :
      CloseMove p k ok [] (p.setCaller k .inside)
  | signal (hin : p.callers k = .inside) (hstage : p.teardown = .entered k) :
      CloseMove p k ok [] { p with teardown := .signalled k }
  | look (hin : p.callers k = .inside) (hstage : p.teardown = .signalled k) :
      CloseMove p k ok [] { p with teardown := .closing k p.conns none }
  | shut (hin : p.callers k = .inside) {c : Nat} {rest : List Nat} {firstErr : Option CloseError}
      (hstage : p.teardown = .closing k (c :: rest) firstErr) :
      CloseMove p k ok [p.closeResult c ok] { p with
        sockets := p.sockets.modify c fun s => { s with teardowns := s.teardowns + 1 }
        teardown := .closing k rest (firstErr.or (p.closeResult c ok)) }
  | finish (hin : p.callers k = .inside) {firstErr : Option CloseError}
      (hstage : p.teardown = .closing k [] firstErr) :
      CloseMove p k ok [] { p with teardown := .finished, closeErr := firstErr }
  | leave (hin : p.callers k = .inside) (hstage : p.teardown = .finished) :
      CloseMove p k ok [] (p.setCaller k (.returned p.closeErr))

theorem closeStep_move (p : Process) (k : Nat) (now : Int) (ok : Bool) :
    CloseMove p k ok (closeResults p (.close k now ok)) (p.closeStep k ok) := by
  simp only [Process.closeStep, closeResults]
  cases hcaller : p.callers k with
  | outside =>
    by_cases hfresh : p.teardown = .fresh
    · simpa only [hfresh, if_true] using CloseMove.enter hcaller hfresh
    · simpa only [hfresh, if_false] using CloseMove.join hcaller hfresh
  | returned err => exact .wait
  | inside =>
    cases hstage : p.teardown with
    | fresh => exact .wait
    | finished => exact .leave hcaller hstage
    | entered j =>
      by_cases hj : j = k
      · subst hj
        simpa using CloseMove.signal hcaller hstage
      · simpa [hj] using CloseMove.wait
    | signalled j =>
      by_cases hj : j = k
      · subst hj
        simpa using CloseMove.look hcaller hstage
      · simpa [hj] using CloseMove.wait
    | closing j rest firstErr =>
      by_cases hj : j = k
      · subst hj
        cases rest with
        | nil => simpa using CloseMove.finish hcaller hstage
        | cons c rest => simpa using CloseMove.shut hcaller hstage
      · cases rest <;> simpa [hj] using CloseMove.wait

/-- What the steps outside `Close` leave alone. -/
structure OutsideClose (p p' : Process) : Prop where
  teardown : p'.teardown = p.teardown
  closeErr : p'.closeErr = p.closeErr
  callers : p'.callers = p.callers
  length : p.sockets.length ≤ p'.sockets.length
  teardowns : ∀ c, p'.teardowns c = p.teardowns c
  closed : ∀ c, p.isClosed c = true → p'.isClosed c = true

theorem OutsideClose.refl (p : Process) : OutsideClose p p :=
  ⟨rfl, rfl, rfl, le_rfl, fun _ => rfl, fun _ => id⟩

theorem ListenInv.outsideClose (h : ListenInv pl p) {e : ProcessStep}
    (he : ∀ k now ok, e ≠ .close k now ok) : OutsideClose p (p.goroutineStep pl e) := by
  have hsame := OutsideClose.refl p
  cases e with
  | close k now ok => exact absurd rfl (he k now ok)
  | listen =>
    simp only [Process.goroutineStep, Process.listenStep]
    split <;> exact ⟨rfl, rfl, rfl, le_rfl, fun _ => rfl, fun _ => id⟩
  | bind result =>
    simp only [Process.goroutineStep, Process.bindStep]
    split
    · rename_i i hserve
      split_ifs
      · cases result with
        | none => exact ⟨rfl, rfl, rfl, le_rfl, fun _ => rfl, fun _ => id⟩
        | some addr =>
          have hcounts := p.counts_bind addr (.opened i p.sockets.length)
          refine ⟨rfl, rfl, rfl, by simp, fun c => (hcounts c).2, fun c hc => ?_⟩
          rw [Process.isClosed_iff] at hc ⊢
          rwa [(hcounts c).1, (hcounts c).2]
      · exact hsame
    · exact hsame
  | append =>
    simp only [Process.goroutineStep, Process.appendStep]
    split <;> exact ⟨rfl, rfl, rfl, le_rfl, fun _ => rfl, fun _ => id⟩
  | cleanup =>
    have hstage := h.stage
    simp only [Process.goroutineStep, Process.cleanupStep]
    split
    · rename_i i c rest hserve
      simp only [StageOk, hserve] at hstage
      have hcounts := p.counts_cleanup c (.cleaning i rest)
        (h.bound c (hstage.2.1 c List.mem_cons_self).1)
      refine ⟨rfl, rfl, rfl, by simp, fun c => (hcounts c).2, fun d hd => ?_⟩
      rw [Process.isClosed_iff] at hd ⊢
      rw [(hcounts d).1, (hcounts d).2]
      omega
    · exact ⟨rfl, rfl, rfl, le_rfl, fun _ => rfl, fun _ => id⟩
    · exact hsame
  | serve now =>
    simp only [Process.goroutineStep, Process.serveStep]
    split
    · rename_i i hserve
      by_cases hi : i < pl.readers
      · simpa only [hi, if_true] using hsame
      · simp only [hi, if_false]
        exact ⟨rfl, rfl, rfl, le_rfl, fun _ => rfl, fun _ => id⟩
    · exact hsame
  | _ => exact ⟨rfl, rfl, rfl, le_rfl, fun _ => rfl, fun _ => id⟩

/-- A step of `Close` is nothing to `ListenAndServe`, if it closes sockets there are. -/
theorem CloseMove.sameListen {k : Nat} {ok : Bool} {results : List (Option CloseError)}
    (h : CloseMove p k ok results p')
    (hbound : ∀ j c rest firstErr, p.teardown = .closing j (c :: rest) firstErr →
      c < p.sockets.length) : SameListen p p' := by
  cases h with
  | @shut _ c rest firstErr hstage =>
    have hcounts := p.counts_teardown c (.closing k rest (firstErr.or (p.closeResult c ok)))
      p.server (hbound _ _ _ _ hstage)
    refine ⟨rfl, rfl, by simp, fun d => (hcounts d).1, fun d hd => ?_⟩
    rw [Process.isClosed_iff] at hd ⊢
    rw [(hcounts d).1, (hcounts d).2]
    omega
  | _ => exact ⟨rfl, rfl, rfl, fun _ => rfl, fun _ => id⟩

/-! ## The teardown along a run -/

/-- The teardown looked at `s.conns` at a moment of the run `es`; it has closed each socket it saw
    then once, apart from `rest`, and no other. -/
structure Looked (cfg : Config) (pl : Platform) (peers : List Text) (es : List ProcessStep)
    (p : Process) (rest : List Nat) (pre : List ProcessStep) (e : ProcessStep) : Prop where
  moment : pre ++ [e] <+: es
  before : ∃ j, (processRun cfg pl peers pre).teardown = .signalled j ∧
    (processRun cfg pl peers (pre ++ [e])).teardown =
      .closing j (processRun cfg pl peers pre).conns none
  suffix : rest <:+ (processRun cfg pl peers pre).conns
  nodup : (processRun cfg pl peers pre).conns.Nodup
  bound : ∀ c ∈ (processRun cfg pl peers pre).conns, c < p.sockets.length
  teardowns : ∀ c, p.teardowns c =
    if c ∈ (processRun cfg pl peers pre).conns ∧ c ∉ rest then 1 else 0
  closed : ∀ c < (processRun cfg pl peers pre).sockets.length, p.isClosed c = true ∨ c ∈ rest ∨
    (processRun cfg pl peers pre).serve.inHand = some c

variable {peers : List Text} {es pre : List ProcessStep} {e e₀ : ProcessStep} {rest : List Nat}

theorem Looked.keep (h : Looked cfg pl peers es p rest pre e₀) (e : ProcessStep)
    (hlength : p.sockets.length ≤ p'.sockets.length)
    (hteardowns : ∀ c, p'.teardowns c = p.teardowns c)
    (hclosed : ∀ c, p.isClosed c = true → p'.isClosed c = true) :
    Looked cfg pl peers (es ++ [e]) p' rest pre e₀ where
  moment := h.moment.trans (List.prefix_append _ _)
  before := h.before
  suffix := h.suffix
  nodup := h.nodup
  bound := fun c hc => (h.bound c hc).trans_le hlength
  teardowns := fun c => (hteardowns c).trans (h.teardowns c)
  closed := fun c hc => (h.closed c hc).imp_left (hclosed c)

/-- The next socket is closed. -/
theorem Looked.shut {c : Nat} (h : Looked cfg pl peers es p (c :: rest) pre e₀) (e : ProcessStep)
    (teardown : TeardownStage) (server : Server) :
    Looked cfg pl peers (es ++ [e]) { p with
      sockets := p.sockets.modify c fun s => { s with teardowns := s.teardowns + 1 }
      teardown, server } rest pre e₀ := by
  have hmem : c ∈ (processRun cfg pl peers pre).conns := h.suffix.subset List.mem_cons_self
  have hcounts := p.counts_teardown c teardown server (h.bound c hmem)
  have hrest : c ∉ rest := (List.nodup_cons.mp (h.suffix.sublist.nodup h.nodup)).1
  refine ⟨h.moment.trans (List.prefix_append _ _), h.before,
    (List.suffix_cons c rest).trans h.suffix, h.nodup, ?_, fun d => ?_, fun d hd => ?_⟩
  · simpa only [List.length_modify] using h.bound
  · rw [(hcounts d).2, h.teardowns d]
    by_cases hd : d = c
    · simp [hd, hmem, hrest]
    · simp [hd]
  · rw [Process.isClosed_iff, (hcounts d).1, (hcounts d).2]
    rcases h.closed d hd with hold | hin | hhand
    · rw [Process.isClosed_iff] at hold
      exact .inl (by omega)
    · rcases List.mem_cons.mp hin with rfl | hin
      · exact .inl (by simp)
      · exact .inr (.inl hin)
    · exact .inr (.inr hhand)

/-- The teardown by its stage: what it has closed and what it has learnt. -/
def TeardownOk (cfg : Config) (pl : Platform) (peers : List Text) (es : List ProcessStep)
    (p : Process) : Prop :=
  let results := processShows cfg pl peers closeResults es
  match p.teardown with
  | .fresh | .entered _ | .signalled _ => (∀ c, p.teardowns c = 0) ∧ results = []
  | .closing _ rest firstErr => firstErr = results.findSome? id ∧
      ∃ pre e, Looked cfg pl peers es p rest pre e
  | .finished => p.closeErr = results.findSome? id ∧ ∃ pre e, Looked cfg pl peers es p [] pre e

/-- The owner of the teardown, if it is under way. -/
def TeardownStage.owner : TeardownStage → Option Nat
  | .entered k | .signalled k | .closing k _ _ => some k
  | .fresh | .finished => none

/-- `done` has been closed. -/
def TeardownStage.pastDone : TeardownStage → Bool
  | .fresh | .entered _ => false
  | _ => true

structure Torn (cfg : Config) (pl : Platform) (peers : List Text) (es : List ProcessStep)
    (p : Process) : Prop where
  listen : ListenInv pl p
  owner : ∀ k, p.teardown.owner = some k → p.callers k = .inside
  returned : ∀ k err, p.callers k = .returned err → p.teardown = .finished ∧ err = p.closeErr
  waiting : ∀ k, p.callers k ≠ .outside → p.teardown ≠ .fresh
  done : p.teardown.pastDone = true → p.server.done = true
  stage : TeardownOk cfg pl peers es p

theorem torn_new (cfg : Config) (pl : Platform) (peers : List Text) :
    Torn cfg pl peers [] (Process.new cfg peers) where
  listen := listenInv_new cfg peers
  owner := by simp [Process.new, TeardownStage.owner]
  returned := by simp [Process.new]
  waiting := fun _ h => absurd rfl h
  done := by simp [Process.new, TeardownStage.pastDone]
  stage := ⟨fun _ => rfl, rfl⟩

/-- `done` stays closed. -/
theorem done_next (h : p.server.done = true) (e : ProcessStep) :
    (processNext cfg pl p e).server.done = true := by
  rcases processNext_server cfg pl p e with hsame | ⟨ev, -, hnext⟩
  · rw [hsame, h]
  · have hdone : (PilotBeacon.next cfg p.server ev).done = _ :=
      (relayNext_lifetime cfg p.server (.beacon ev)).1
    rw [hnext, hdone, h, Bool.true_or]

/-- The step that signals closes `done`. -/
theorem done_signal {k : Nat} (hin : p.callers k = .inside) (hstage : p.teardown = .entered k)
    (now : Int) (ok : Bool) : (processNext cfg pl p (.close k now ok)).server.done = true := by
  simp [processNext, Process.emitted, hin, hstage, next, step]

/-- `ListenInv` does not look at the beacon. -/
theorem ListenInv.next (h : ListenInv pl p) (hclosing : ∀ j c rest firstErr,
    p.teardown = .closing j (c :: rest) firstErr → c < p.sockets.length) (e : ProcessStep) :
    ListenInv pl (processNext cfg pl p e) := by
  have hserver : ∀ q : Process, ListenInv pl q → ListenInv pl { q with
      server := ((p.emitted pl e).map (PilotBeacon.next cfg p.server)).getD p.server } :=
    fun q hq => hq.same ⟨rfl, rfl, rfl, fun _ => rfl, fun _ => id⟩
  refine hserver _ ?_
  cases e with
  | listen => exact h.listen
  | bind result => exact h.bind result
  | append => exact h.append
  | cleanup => exact h.cleanup
  | serve now => exact h.serve
  | close k now ok => exact h.same ((closeStep_move p k now ok).sameListen hclosing)
  | read r result => exact h.same ⟨rfl, rfl, rfl, fun _ => rfl, fun _ => id⟩
  | handle r now env => exact h.same ⟨rfl, rfl, rfl, fun _ => rfl, fun _ => id⟩
  | unwind r => exact h.same ⟨rfl, rfl, rfl, fun _ => rfl, fun _ => id⟩
  | beacon ev => exact h

/-- The socket the teardown closes next is one there is. -/
theorem Torn.closing (h : Torn cfg pl peers es p) {j c : Nat} {rest : List Nat}
    {firstErr : Option CloseError} (hstage : p.teardown = .closing j (c :: rest) firstErr) :
    c < p.sockets.length := by
  have hok := h.stage
  simp only [TeardownOk, hstage] at hok
  obtain ⟨-, pre, e, hlooked⟩ := hok
  exact hlooked.bound c (hlooked.suffix.subset List.mem_cons_self)

theorem processShows_concat {α : Type} (f : Process → ProcessStep → List α) (e : ProcessStep) :
    processShows cfg pl peers f (es ++ [e]) =
      processShows cfg pl peers f es ++ f (processRun cfg pl peers es) e :=
  Transition.observe_concat ..

theorem processRun_append (es es' : List ProcessStep) : processRun cfg pl peers (es ++ es') =
    Transition.run (processNext cfg pl) (processRun cfg pl peers es) es' :=
  Transition.run_append ..

theorem processRun_concat (e : ProcessStep) : processRun cfg pl peers (es ++ [e]) =
    processNext cfg pl (processRun cfg pl peers es) e :=
  Transition.run_concat ..

/-- A step outside `Close`. -/
theorem Torn.outside (h : Torn cfg pl peers es (processRun cfg pl peers es)) {e : ProcessStep}
    (he : ∀ k now ok, e ≠ .close k now ok) :
    Torn cfg pl peers (es ++ [e]) (processNext cfg pl (processRun cfg pl peers es) e) := by
  have hout := h.listen.outsideClose he
  have hresults : closeResults (processRun cfg pl peers es) e = [] := by
    cases e with
    | close k now ok => exact absurd rfl (he k now ok)
    | _ => rfl
  have hteardown : (processNext cfg pl (processRun cfg pl peers es) e).teardown =
    (processRun cfg pl peers es).teardown := hout.teardown
  have hcallers : (processNext cfg pl (processRun cfg pl peers es) e).callers =
    (processRun cfg pl peers es).callers := hout.callers
  have herr : (processNext cfg pl (processRun cfg pl peers es) e).closeErr =
    (processRun cfg pl peers es).closeErr := hout.closeErr
  have hkeep : ∀ {rest pre e₀}, Looked cfg pl peers es (processRun cfg pl peers es) rest pre e₀ →
      Looked cfg pl peers (es ++ [e]) (processNext cfg pl (processRun cfg pl peers es) e)
        rest pre e₀ :=
    fun hlooked => hlooked.keep e hout.length hout.teardowns hout.closed
  refine ⟨h.listen.next (fun _ _ _ _ hstage => h.closing hstage) e, ?_, ?_, ?_, ?_, ?_⟩
  · simpa only [hteardown, hcallers] using h.owner
  · simpa only [hteardown, hcallers, herr] using h.returned
  · simpa only [hteardown, hcallers] using h.waiting
  · rw [hteardown]
    exact fun hpast => done_next (h.done hpast) e
  · have hstage := h.stage
    simp only [TeardownOk, hteardown, herr, processShows_concat, hresults,
      List.append_nil] at hstage ⊢
    split at hstage
    · exact ⟨fun c => (hout.teardowns c).trans (hstage.1 c), hstage.2⟩
    · exact ⟨fun c => (hout.teardowns c).trans (hstage.1 c), hstage.2⟩
    · exact ⟨fun c => (hout.teardowns c).trans (hstage.1 c), hstage.2⟩
    · exact ⟨hstage.1, hstage.2.imp fun _ => Exists.imp fun _ => hkeep⟩
    · exact ⟨hstage.1, hstage.2.imp fun _ => Exists.imp fun _ => hkeep⟩

/-- **A step of `Close`**, by what it can be. -/
theorem Torn.close_move (h : Torn cfg pl peers es p) {k : Nat} {ok : Bool}
    {results : List (Option CloseError)} (hmove : CloseMove p k ok results p') {server : Server}
    (hp : p = processRun cfg pl peers es)
    (hp' : processRun cfg pl peers (es ++ [e]) = { p' with server })
    (hresults : closeResults p e = results)
    (hdone : p.server.done = true ∨ p.callers k = .inside ∧ p.teardown = .entered k →
      server.done = true)
    (hlisten : ListenInv pl { p' with server }) :
    Torn cfg pl peers (es ++ [e]) { p' with server } := by
  have hshows : processShows cfg pl peers closeResults (es ++ [e]) =
      processShows cfg pl peers closeResults es ++ results := by
    rw [processShows_concat, ← hp, hresults]
  have hkeep : ∀ {rest pre e₀ teardown callers closeErr},
      Looked cfg pl peers es p rest pre e₀ →
      Looked cfg pl peers (es ++ [e]) { p with server, teardown, callers, closeErr } rest pre e₀ :=
    fun hlooked => hlooked.keep e le_rfl (fun _ => rfl) fun _ => id
  have hstage := h.stage
  -- nothing moves but calls
  have hstay : results = [] → ∀ callers,
      TeardownOk cfg pl peers (es ++ [e]) { p with server, callers } := by
    intro hnone callers
    simp only [TeardownOk, hshows, hnone, List.append_nil] at hstage ⊢
    split at hstage
    · exact hstage
    · exact hstage
    · exact hstage
    · exact ⟨hstage.1, hstage.2.imp fun _ => Exists.imp fun _ => hkeep⟩
    · exact ⟨hstage.1, hstage.2.imp fun _ => Exists.imp fun _ => hkeep⟩
  have hpast : p.teardown.pastDone = true → server.done = true := fun hpast =>
    hdone (.inl (h.done hpast))
  cases hmove with
  | wait => exact ⟨hlisten, h.owner, h.returned, h.waiting, hpast, hstay rfl _⟩
  | enter hout hfresh =>
    simp only [TeardownOk, hfresh] at hstage
    refine ⟨hlisten, ?_, ?_, by simp, by simp [TeardownStage.pastDone], ?_⟩
    · rintro j ⟨⟩
      exact Function.update_self ..
    · intro j err hj
      by_cases hjk : j = k
      · simp [Process.setCaller, hjk] at hj
      · simp only [Process.setCaller, Function.update_of_ne hjk] at hj
        rw [(h.returned j err hj).1] at hfresh
        cases hfresh
    · simp only [TeardownOk, hshows, List.append_nil]
      exact hstage
  | join hout hrun =>
    refine ⟨hlisten, ?_, ?_, fun _ _ => hrun, hpast, hstay rfl _⟩
    · intro j hj
      by_cases hjk : j = k
      · simp [Process.setCaller, hjk]
      · simpa only [Process.setCaller, Function.update_of_ne hjk] using h.owner j hj
    · intro j err hj
      by_cases hjk : j = k
      · simp [Process.setCaller, hjk] at hj
      · exact h.returned j err (by
          simpa only [Process.setCaller, Function.update_of_ne hjk] using hj)
  | signal hin hentered =>
    simp only [TeardownOk, hentered] at hstage
    refine ⟨hlisten, ?_, ?_, by simp, fun _ => hdone (.inr ⟨hin, hentered⟩), ?_⟩
    · rintro j ⟨⟩
      exact hin
    · intro j err hj
      rw [(h.returned j err hj).1] at hentered
      cases hentered
    · simp only [TeardownOk, hshows, List.append_nil]
      exact hstage
  | look hin hsignalled =>
    simp only [TeardownOk, hsignalled] at hstage
    refine ⟨hlisten, ?_, ?_, by simp, fun _ => hpast (by rw [hsignalled]; rfl), ?_⟩
    · rintro j ⟨⟩
      exact hin
    · intro j err hj
      rw [(h.returned j err hj).1] at hsignalled
      cases hsignalled
    · simp only [TeardownOk, hshows, List.append_nil, hstage.2]
      refine ⟨rfl, es, e, List.prefix_rfl, ⟨k, ?_, ?_⟩, ?_, ?_, ?_, ?_, ?_⟩
      · rw [← hp, hsignalled]
      · rw [hp', ← hp]
      · rw [← hp]
      · rw [← hp]
        exact h.listen.nodup
      · rw [← hp]
        exact h.listen.bound
      · intro c
        rw [← hp, if_neg fun hc => hc.2 hc.1]
        exact hstage.1 c
      · intro c hc
        rw [← hp] at hc ⊢
        by_cases hmem : c ∈ p.conns
        · exact .inr (.inl hmem)
        · exact (h.listen.lost c hc hmem).imp_right .inr
  | @shut hin c rest firstErr hclosing =>
    simp only [TeardownOk, hclosing] at hstage
    refine ⟨hlisten, ?_, ?_, by simp, fun _ => hpast (by rw [hclosing]; rfl), ?_⟩
    · rintro j ⟨⟩
      exact hin
    · intro j err hj
      rw [(h.returned j err hj).1] at hclosing
      cases hclosing
    · obtain ⟨herr, pre, e₀, hlooked⟩ := hstage
      simp only [TeardownOk, hshows]
      refine ⟨?_, pre, e₀, hlooked.shut e _ server⟩
      rw [List.findSome?_append, ← herr]
      cases p.closeResult c ok <;> rfl
  | finish hin hclosing =>
    simp only [TeardownOk, hclosing] at hstage
    refine ⟨hlisten, by simp [TeardownStage.owner], ?_, by simp,
      fun _ => hpast (by rw [hclosing]; rfl), ?_⟩
    · intro j err hj
      rw [(h.returned j err hj).1] at hclosing
      cases hclosing
    · simp only [TeardownOk, hshows, List.append_nil]
      exact ⟨hstage.1, hstage.2.imp fun _ => Exists.imp fun _ => hkeep⟩
  | leave hin hfinished =>
    refine ⟨hlisten, ?_, ?_, ?_, hpast, hstay rfl _⟩
    · intro j hj
      have hnone : p.teardown.owner = some j := hj
      rw [hfinished] at hnone
      cases hnone
    · intro j err hj
      by_cases hjk : j = k
      · simp only [Process.setCaller, hjk, Function.update_self] at hj
        cases hj
        exact ⟨hfinished, rfl⟩
      · exact h.returned j err (by
          simpa only [Process.setCaller, Function.update_of_ne hjk] using hj)
    · intro j _ hfresh
      have hfresh' : p.teardown = .fresh := hfresh
      rw [hfinished] at hfresh'
      cases hfresh'

/-- Every run keeps the teardown in order. -/
theorem torn_run (cfg : Config) (pl : Platform) (peers : List Text) (es : List ProcessStep) :
    Torn cfg pl peers es (processRun cfg pl peers es) := by
  refine Transition.run_induction (processNext cfg pl) (fun es p => Torn cfg pl peers es p)
    (torn_new cfg pl peers) (fun es e h => ?_) es
  have h : Torn cfg pl peers es (processRun cfg pl peers es) := h
  cases e with
  | close k now ok =>
    refine h.close_move (closeStep_move _ k now ok) rfl (processRun_concat _) rfl ?_
      (h.listen.next (fun _ _ _ _ hstage => h.closing hstage) _)
    rintro (hdone | ⟨hin, hentered⟩)
    · exact done_next hdone _
    · exact done_signal hin hentered now ok
  | _ => exact h.outside (by simp)

/-! ## The port of the beacon -/

/-- Closing a socket and binding another do not change where a socket is bound. -/
theorem port?_next (e : ProcessStep) {c : Nat} (hc : c < p.sockets.length) :
    (processNext cfg pl p e).port? c = p.port? c := by
  have hmodify : ∀ d f, (∀ s : Socket, (f s).addr = s.addr) →
      ((p.sockets.modify d f)[c]?).map (fun s => s.addr.port) =
        (p.sockets[c]?).map fun s => s.addr.port := by
    intro d f hf
    rw [List.getElem?_modify]
    split_ifs <;> cases p.sockets[c]? <;> simp [hf]
  show ((p.goroutineStep pl e).sockets[c]?).map (fun s => s.addr.port) = _
  cases e with
  | close k now ok =>
    have hmove := closeStep_move p k now ok
    show ((p.closeStep k ok).sockets[c]?).map (fun s => s.addr.port) = _
    revert hmove
    generalize p.closeStep k ok = p', closeResults p (.close k now ok) = results
    intro hmove
    cases hmove with
    | shut => exact hmodify _ _ fun _ => rfl
    | _ => rfl
  | cleanup =>
    simp only [Process.goroutineStep, Process.cleanupStep]
    split
    · exact hmodify _ _ fun _ => rfl
    · rfl
    · rfl
  | bind result =>
    simp only [Process.goroutineStep, Process.bindStep]
    split
    · split_ifs
      · cases result with
        | none => rfl
        | some addr => simp [Process.port?, List.getElem?_append_left hc]
      · rfl
    · rfl
  | append =>
    simp only [Process.goroutineStep, Process.appendStep]
    split <;> rfl
  | listen =>
    simp only [Process.goroutineStep, Process.listenStep]
    split <;> rfl
  | serve now =>
    simp only [Process.goroutineStep, Process.serveStep]
    split
    · by_cases hi : ‹Nat› < pl.readers <;> simp [hi, Process.port?]
    · rfl
  | _ => rfl

/-- Only the start of the goroutines gives the beacon its socket. -/
theorem conn_next {e : ProcessStep} (he : ∀ now, e ≠ .serve now) :
    (processNext cfg pl p e).server.conn = p.server.conn := by
  rcases processNext_server cfg pl p e with hsame | ⟨ev, hev, hnext⟩
  · rw [hsame]
  · rw [hnext]
    rcases (relayNext_lifetime cfg p.server (.beacon ev)).2 with hkeep | ⟨now, addr, heq, -⟩
    · exact hkeep
    · -- no other step emits it
      cases heq
      cases e with
      | serve now => exact absurd rfl (he now)
      | handle r now env =>
        simp only [Process.emitted, Option.map_eq_some_iff] at hev
        obtain ⟨x, -, hx⟩ := hev
        cases hx
      | close k now ok =>
        simp only [Process.emitted] at hev
        split_ifs at hev
        cases hev
      | beacon ev =>
        obtain ⟨now, act⟩ := ev
        cases act with
        | packet env data remote bridgePeer =>
          simp only [Process.emitted] at hev
          split_ifs at hev
          cases hev
        | _ => simp [Process.emitted] at hev
      | _ => cases hev

/-- Replies and relayed datagrams leave from the port of the first socket. -/
structure OnePort (p : Process) : Prop where
  before : p.serve ≠ .serving → p.server.conn = none
  first : p.serve = .serving → ∃ c ∈ p.conns, p.server.conn.map (fun a => a.port) = p.port? c ∧
    p.sendConns ≠ [] ∧ ∀ d ∈ p.sendConns, d ∈ p.conns ∧ p.port? d = p.port? c

/-- A step that does not start the goroutines. -/
theorem OnePort.keep (h : OnePort p) (hlisten : ListenInv pl p) {e : ProcessStep}
    (he : ∀ now, e ≠ .serve now) (hserve : p.serve = .serving →
      (processNext cfg pl p e).conns = p.conns ∧
        (processNext cfg pl p e).sendConns = p.sendConns)
    (hstart : (processNext cfg pl p e).serve = .serving → p.serve = .serving) :
    OnePort (processNext cfg pl p e) := by
  refine ⟨fun hnot => ?_, fun hserving => ?_⟩
  · rw [conn_next he]
    exact h.before fun hserving => hnot (serving_next hserving e)
  · have hserving := hstart hserving
    obtain ⟨c, hc, hconn, hsend, hports⟩ := h.first hserving
    rw [(hserve hserving).1, (hserve hserving).2, conn_next he]
    refine ⟨c, hc, ?_, hsend, fun d hd => ⟨(hports d hd).1, ?_⟩⟩
    · rw [port?_next e (hlisten.bound c hc), hconn]
    · rw [port?_next e (hlisten.bound d (hports d hd).1), port?_next e (hlisten.bound c hc),
        (hports d hd).2]

theorem sharedPort_iff {c : Nat} {rest : List Nat} (hconns : p.conns = c :: rest) :
    p.sharedPort = true ↔ ∀ d ∈ p.conns, p.port? d = p.port? c := by
  simp [Process.sharedPort, hconns]

theorem processNext_idle {e : ProcessStep} (hstep : p.goroutineStep pl e = p)
    (hev : p.emitted pl e = none) : processNext cfg pl p e = p := by
  simp [processNext, hstep, hev]

theorem OnePort.serve (h : OnePort p) (hlisten : ListenInv pl p) (now : Int) :
    OnePort (processNext cfg pl p (.serve now)) := by
  cases hstage : p.serve with
  | binding i =>
    by_cases hi : i < pl.readers
    · rw [processNext_idle (by simp [Process.goroutineStep, Process.serveStep, hstage, hi])
        (by simp [Process.emitted, hstage, hi])]
      exact h
    · -- all sockets are bound, and there is at least one
      have hok := hlisten.stage
      simp only [StageOk, hstage] at hok
      have hpos := pl.readers_pos
      obtain ⟨c, rest, hconns⟩ : ∃ c rest, p.conns = c :: rest :=
        List.exists_cons_of_length_pos (by omega)
      have hc : c ∈ p.conns := hconns ▸ List.mem_cons_self
      have hnone := h.before (by simp [hstage])
      obtain ⟨s, hs⟩ : ∃ s, p.sockets[c]? = some s :=
        ⟨_, List.getElem?_eq_getElem (hlisten.bound c hc)⟩
      refine ⟨fun hnot => ?_, fun _ => ⟨c, ?_, ?_, ?_, ?_⟩⟩
      · simp [processNext, Process.goroutineStep, Process.serveStep, hstage, hi] at hnot
      · simpa [processNext, Process.goroutineStep, Process.serveStep, hstage, hi] using hc
      · simp [processNext, Process.goroutineStep, Process.serveStep, Process.emitted, hstage, hi,
          hconns, hs, next, step, hnone, Process.port?]
      · simp only [processNext, Process.goroutineStep, Process.serveStep, hstage, hi, if_false]
        split_ifs <;> simp [hconns]
      · have hports : ∀ d ∈ (if p.sharedPort then p.conns else p.conns.take 1),
            d ∈ p.conns ∧ p.port? d = p.port? c := by
          intro d hd
          split_ifs at hd with hshared
          · exact ⟨hd, (sharedPort_iff hconns).mp hshared d hd⟩
          · simp only [hconns, List.take_succ_cons, List.take_zero, List.mem_singleton] at hd
            exact ⟨hd ▸ hc, hd ▸ rfl⟩
        intro d hd
        simp only [processNext, Process.goroutineStep, Process.serveStep, hstage, hi,
          if_false] at hd ⊢
        exact hports d hd
  | _ =>
    rw [processNext_idle (by simp [Process.goroutineStep, Process.serveStep, hstage])
      (by simp [Process.emitted, hstage])]
    exact h

/-- Before the goroutines start, `ListenAndServe` is still at work after each of its steps. -/
theorem not_serving (h : p.serve ≠ .serving) (result : Option UDPAddr) :
    p.listenStep.serve ≠ .serving ∧ (p.bindStep pl result).serve ≠ .serving ∧
      p.appendStep.serve ≠ .serving ∧ p.cleanupStep.serve ≠ .serving := by
  unfold Process.listenStep Process.bindStep Process.appendStep Process.cleanupStep
  cases hstage : p.serve with
  | serving => exact absurd hstage h
  | binding i =>
    by_cases hi : i < pl.readers
    · cases result <;> simp [hstage, hi]
    · simp [hstage, hi]
  | cleaning i rest => cases rest <;> simp [hstage]
  | _ => simp [hstage]

/-- The goroutines start at one step only, and `s.conns` stays from then on. -/
theorem OnePort.next (h : OnePort p) (hlisten : ListenInv pl p) (e : ProcessStep) :
    OnePort (processNext cfg pl p e) := by
  have hwork := fun hnot result => @not_serving pl p hnot result
  cases e with
  | serve now => exact h.serve hlisten now
  | close k now ok =>
    have hframe := p.closeStep_frame k ok
    exact h.keep hlisten (by simp) (fun _ => ⟨hframe.2.2.1, hframe.2.2.2⟩) hframe.2.1.symm.trans
  | listen =>
    refine h.keep hlisten (by simp) (fun hserving => ?_) fun hstart => ?_
    · simp [processNext, Process.goroutineStep, Process.listenStep, hserving]
    · exact of_not_not fun hnot => (hwork hnot none).1 hstart
  | bind result =>
    refine h.keep hlisten (by simp) (fun hserving => ?_) fun hstart => ?_
    · simp [processNext, Process.goroutineStep, Process.bindStep, hserving]
    · exact of_not_not fun hnot => (hwork hnot result).2.1 hstart
  | append =>
    refine h.keep hlisten (by simp) (fun hserving => ?_) fun hstart => ?_
    · simp [processNext, Process.goroutineStep, Process.appendStep, hserving]
    · exact of_not_not fun hnot => (hwork hnot none).2.2.1 hstart
  | cleanup =>
    refine h.keep hlisten (by simp) (fun hserving => ?_) fun hstart => ?_
    · simp [processNext, Process.goroutineStep, Process.cleanupStep, hserving]
    · exact of_not_not fun hnot => (hwork hnot none).2.2.2 hstart
  | _ => exact h.keep hlisten (by simp) (fun _ => ⟨rfl, rfl⟩) id

end

/-! ## Over whole runs -/

section

variable {cfg : Config} {pl : Platform} {p : Process} {peers : List Text} {es : List ProcessStep}

/-- From when the goroutines run, `s.conns` stays as it is. -/
theorem conns_next (h : p.serve = .serving) (e : ProcessStep) :
    (processNext cfg pl p e).conns = p.conns := by
  cases e with
  | close k now ok => exact (p.closeStep_frame k ok).2.2.1
  | _ =>
    simp [processNext, Process.goroutineStep, Process.listenStep, Process.bindStep,
      Process.appendStep, Process.cleanupStep, Process.serveStep, Process.setReader, h]

/-- A closed socket stays closed. -/
theorem Torn.isClosed_next (h : Torn cfg pl peers es p) (e : ProcessStep) {c : Nat}
    (hc : p.isClosed c = true) : (processNext cfg pl p e).isClosed c = true := by
  have hout := @ListenInv.outsideClose pl p h.listen e
  cases e with
  | close k now ok =>
    have hmove := (closeStep_move p k now ok).sameListen fun _ _ _ _ hstage => h.closing hstage
    exact hmove.closed c hc
  | _ => exact (hout (by simp)).closed c hc

theorem Torn.readerClosed_next (h : Torn cfg pl peers es p) (hserving : p.serve = .serving)
    (e : ProcessStep) {r : Nat} (hr : p.readerClosed r = true) :
    (processNext cfg pl p e).readerClosed r = true := by
  simp only [Process.readerClosed, conns_next hserving, Option.any_eq_true] at hr ⊢
  exact hr.imp fun c => And.imp_right (h.isClosed_next e)

theorem readersInv_run (cfg : Config) (pl : Platform) (peers : List Text)
    (es : List ProcessStep) : ReadersInv (processRun cfg pl peers es) :=
  Transition.run_invariant (processNext cfg pl) ReadersInv (readersInv_new cfg peers)
    (fun _ e h => h.next e) es

/-- Nothing arrives through a closed socket: what its reader still hands over is pending now. -/
theorem closed_reader (cfg : Config) (pl : Platform) (peers : List Text) (r : Nat)
    (es es' : List ProcessStep) (hserving : (processRun cfg pl peers es).serve = .serving)
    (hclosed : (processRun cfg pl peers es).readerClosed r = true) :
    (Transition.observe (processNext cfg pl) (handedBy r) (processRun cfg pl peers es)
      es').Sublist ((processRun cfg pl peers es).readers r).pending := by
  induction es' generalizing es with
  | nil => exact List.nil_sublist _
  | cons e es' ih =>
    have htorn := torn_run cfg pl peers es
    have hread : datagramsRead r (processRun cfg pl peers es) e = [] := by
      cases e with
      | read j result => cases result <;> simp [datagramsRead, hclosed]
      | _ => rfl
    have hrest := ih (es ++ [e])
    rw [processRun_concat] at hrest
    have hrest := hrest (serving_next hserving e) (htorn.readerClosed_next hserving e hclosed)
    rw [Transition.observe_cons]
    rcases @reader_step cfg pl _ (readersInv_run cfg pl peers es) r e with
      ⟨hmove, -⟩ | ⟨-, hhand, -, hnone⟩
    · rw [hread, List.append_nil] at hmove
      rw [hmove]
      exact hrest.append_left _
    · rw [hhand, List.nil_append]
      rw [hnone] at hrest
      exact hrest.trans (List.nil_sublist _)

end

/-- **`Close` tears down once.** Whatever runs beside it, a call of `Close` that has returned found
    `done` closed and the teardown over, and returns the first error the teardown met, like every
    other call. At one moment of the run the teardown looked at `s.conns`: it has closed each
    socket it saw there once and no other socket ever. Of the sockets bound by that moment at most
    one is open, the one that `ListenAndServe` had bound and not appended yet. A reader whose
    socket is closed hands over nothing but the rest of its batch. -/
theorem close_tears_down (cfg : Config) (pl : Platform) (peers : List Text)
    (es : List ProcessStep) (k : Nat) (err : Option CloseError)
    (hreturned : (processRun cfg pl peers es).callers k = .returned err) :
    let p := processRun cfg pl peers es
    p.server.done = true ∧ err = (processShows cfg pl peers closeResults es).findSome? id ∧
      (∃ pre e j, pre ++ [e] <+: es ∧
        (processRun cfg pl peers pre).teardown = .signalled j ∧
        (processRun cfg pl peers (pre ++ [e])).teardown =
          .closing j (processRun cfg pl peers pre).conns none ∧
        (∀ c, p.teardowns c = if c ∈ (processRun cfg pl peers pre).conns then 1 else 0) ∧
        ∀ c < (processRun cfg pl peers pre).sockets.length, p.isClosed c = true ∨
          (processRun cfg pl peers pre).serve.inHand = some c) ∧
      ∀ r, p.serve = .serving → p.readerClosed r = true → ∀ es',
        (Transition.observe (processNext cfg pl) (handedBy r) p es').Sublist
          (p.readers r).pending := by
  intro p
  have htorn : Torn cfg pl peers es p := torn_run cfg pl peers es
  obtain ⟨hfinished, herr⟩ := htorn.returned k err hreturned
  have hstage := htorn.stage
  simp only [TeardownOk, hfinished] at hstage
  obtain ⟨hfirst, pre, e, hlooked⟩ := hstage
  obtain ⟨j, hbefore, hafter⟩ := hlooked.before
  refine ⟨htorn.done (by rw [hfinished]; rfl), herr.trans hfirst,
    ⟨pre, e, j, hlooked.moment, hbefore, hafter, fun c => ?_, fun c hc => ?_⟩,
    fun r hserving hclosed es' => closed_reader cfg pl peers r es es' hserving hclosed⟩
  · simpa using hlooked.teardowns c
  · exact (hlooked.closed c hc).imp_right fun hrest =>
      hrest.resolve_left List.not_mem_nil

/-- Two sockets are bound and served, and two calls of `Close` overlap. -/
def twoCalls : List ProcessStep :=
  [.listen, .bind (some (sampleAddr 0 0 0 0 9001)), .append,
    .bind (some (sampleAddr 0 0 0 0 9001)), .append, .serve 0, .close 0 0 true, .close 1 0 true,
    .close 0 0 true, .close 0 0 true, .close 0 0 true, .close 0 0 false, .close 0 0 true,
    .close 1 0 true]

/-- The second call waited, and returns what the first met. -/
theorem close_tears_down_twoCalls :
    (processRun sampleConfig ⟨1, 0⟩ [] twoCalls).callers 1 = .returned (some .system) ∧
      (processRun sampleConfig ⟨1, 0⟩ [] twoCalls).server.done = true :=
  ⟨rfl, (close_tears_down sampleConfig ⟨1, 0⟩ [] twoCalls 1 (some .system) rfl).1⟩

/-- `Close` returns while `ListenAndServe` is between bind and append, and the socket stays open. -/
def closeInBetween : List ProcessStep :=
  [.listen, .bind (some (sampleAddr 0 0 0 0 9001)), .close 0 0 true, .close 0 0 true,
    .close 0 0 true, .close 0 0 true, .close 0 0 true, .append]

example : (processRun sampleConfig ⟨1, 1⟩ [] closeInBetween).callers 0 = .returned none ∧
    (processRun sampleConfig ⟨1, 1⟩ [] closeInBetween).conns = [0] ∧
    (processRun sampleConfig ⟨1, 1⟩ [] closeInBetween).isClosed 0 = false := by
  decide

end PilotBeacon
