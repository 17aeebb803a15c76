import PilotBeacon.WSS.Listener
import PilotBeacon.WSS.Preimages

/-!
# Agreement of the WSS Handshake

Any number of connections run their handshakes at once, and whoever controls the network
delivers any bytes as a reply on any of them. Signatures are ideal: what verifies under a key
was signed by its holder. Then the server takes a connection for node `n` only if the holder
of `n`'s key signed that connection's own challenge for `n`; and a daemon that answers its
challenge in time is taken.

- `challenged_issued`: the challenge a connection waits on is its own
- `returned_signed`: what stands behind a node id that `runAuth` returns
- `messages_challenged`: a connection that waits has been sent its challenge and nothing else
- `handshake_agreement`: the two directions
-/

namespace PilotBeacon.WSS

open PilotBeacon.Lib Encoding

/-- A challenge that was sent on connection `conn`. -/
structure Challenge where
  conn : Nat
  nonce : Nonce
  ts : Int
deriving DecidableEq

/-- The text that `n` has to sign for a challenge. -/
def Challenge.preimage (ch : Challenge) (n : UInt32) : Bytes :=
  authPreimage n ch.ts (hexText ch.nonce.val)

namespace Listener

variable {cfg : Config}

/-- The challenge a step sends. -/
def issued (l : Listener) : Action → List Challenge
  | .conn c (.challenge (some nonce) now true) =>
    match l.conns[c]? with
    | some .upgraded => [⟨c, nonce, unixSecond now⟩]
    | _ => []
  | _ => []

/-- All challenges of a run. -/
def challenges (cfg : Config) (es : List Action) : List Challenge :=
  Transition.observe (next cfg) issued new es

/-- The node id that `runAuth` returns in a step, with its connection. -/
def returned (cfg : Config) (l : Listener) : Action → List (Nat × UInt32)
  | .conn c (.reply lookup now received writeOk) =>
    match l.conns[c]? with
    | some (.challenged nonce ts) =>
      match checkReply cfg lookup nonce ts now received writeOk with
      | .ok n => [(c, n)]
      | .error _ => []
    | _ => []
  | _ => []

/-- What the server has written to the client of a connection. -/
def messagesTo (cfg : Config) (es : List Action) (c : Nat) : List Bytes :=
  ((Transition.observe (next cfg) (written cfg) new es).filter fun m => m.1 = c).map Prod.snd

/-- **Ideal signatures.** A delivered signature that verifies under a key for a message was
    made by the holder of the key for that message before. -/
def IdealSignatures (cfg : Config) (es : List Action) : Prop :=
  ∀ pre c lookup now body writeOk post,
    es = pre ++ .conn c (.reply lookup now (.text body) writeOk) :: post →
    ∀ reply sig, cfg.codec.unmarshalReply body = some reply → decodeBase64 reply.sig = some sig →
    ∀ key msg, cfg.verify key msg sig = true → .sign key msg ∈ pre

/-! ## Challenges -/

theorem advance_challenged {s : Server} {stage : Stage} {a : ConnAction} {nonce : Nonce} {ts : Int}
    (h : advance cfg s stage a = .challenged nonce ts) :
    stage = .challenged nonce ts ∨
      stage = .upgraded ∧ ∃ now, a = .challenge (some nonce) now true ∧ ts = unixSecond now := by
  cases stage
  case challenged nonce' ts' =>
    cases a
    case reply lookup now received writeOk =>
      rw [advance] at h
      split at h <;> cases h
    all_goals exact Or.inl h
  case upgraded =>
    cases a
    case challenge nonce' now writeOk =>
      cases nonce' with
      | none => cases h
      | some nonce' =>
        cases writeOk with
        | false => cases h
        | true =>
          cases h
          exact Or.inr ⟨rfl, now, rfl, rfl⟩
    all_goals cases h
  -- no other stage leads there
  all_goals cases a <;> simp only [advance] at h <;> (repeat' split at h) <;> cases h

/-- The challenge a connection waits on was sent on it. -/
theorem challenged_issued (es : List Action) : ∀ c nonce ts,
    (runFrom cfg es).conns[c]? = some (.challenged nonce ts) →
      ⟨c, nonce, ts⟩ ∈ challenges cfg es := by
  apply Transition.run_induction (next cfg) (fun es l => ∀ c nonce ts,
    l.conns[c]? = some (.challenged nonce ts) → ⟨c, nonce, ts⟩ ∈ challenges cfg es)
  · intro c nonce ts h
    cases h
  · intro es e ih c nonce ts h
    rw [challenges, Transition.observe_concat, ← challenges, List.mem_append]
    rcases conns_next _ e h with hsame | ⟨a, old, rfl, hold, hstage⟩ | ⟨-, -, hstage⟩
    · exact Or.inl (ih c nonce ts hsame)
    · rcases advance_challenged hstage.symm with rfl | ⟨rfl, now, rfl, rfl⟩
      · exact Or.inl (ih c nonce ts hold)
      · right
        simp only [issued, hold, List.mem_singleton]
    · revert hstage
      split_ifs <;> exact fun hstage => by cases hstage

/-! ## Soundness -/

/-- What `runAuth` returns, it returns for a connection that waits on its challenge. -/
theorem returned_reply {l : Listener} {c : Nat} {nonce : Nonce} {ts now : Int}
    {lookup : UInt32 → Option Bytes} {received : Received} {writeOk : Bool} {n : UInt32}
    (hstage : l.conns[c]? = some (.challenged nonce ts))
    (hok : checkReply cfg lookup nonce ts now received writeOk = .ok n) :
    returned cfg l (.conn c (.reply lookup now received writeOk)) = [(c, n)] := by
  simp only [returned, hstage, hok]

theorem returned_cases {l : Listener} {e : Action} {c : Nat} {n : UInt32}
    (h : (c, n) ∈ returned cfg l e) : ∃ lookup now received writeOk nonce ts,
      e = .conn c (.reply lookup now received writeOk) ∧
      l.conns[c]? = some (.challenged nonce ts) ∧
      checkReply cfg lookup nonce ts now received writeOk = .ok n := by
  cases e with
  | conn c' a =>
    cases a with
    | reply lookup now received writeOk =>
      cases hstage : l.conns[c']? with
      | none => simp [returned, hstage] at h
      | some stage =>
        cases stage
        case challenged nonce ts =>
          cases hcheck : checkReply cfg lookup nonce ts now received writeOk with
          | error err => simp [returned, hstage, hcheck] at h
          | ok n' =>
            simp only [returned, hstage, hcheck, List.mem_singleton, Prod.mk.injEq] at h
            obtain ⟨rfl, rfl⟩ := h
            exact ⟨lookup, now, received, writeOk, nonce, ts, rfl, hstage, hcheck⟩
        all_goals simp [returned, hstage] at h
    | _ => simp [returned] at h
  | _ => simp [returned] at h

/-- What stands behind the node id `n` that `runAuth` returns on connection `c` in step `e`
    after the steps `pre`: the key that was looked up, and `c`'s own challenge signed with it. -/
def Agreed (cfg : Config) (pre : List Action) (e : Action) (c : Nat) (n : UInt32)
    (ch : Challenge) : Prop :=
  n ≠ 0 ∧ ch ∈ challenges cfg pre ∧ ch.conn = c ∧
    ∃ lookup now received writeOk key, e = .conn c (.reply lookup now received writeOk) ∧
      lookup n = some key ∧ key.length = publicKeySize ∧ .sign key (ch.preimage n) ∈ pre

theorem returned_signed {es pre post : List Action} {e : Action} (hideal : IdealSignatures cfg es)
    (heq : es = pre ++ e :: post) {c : Nat} {n : UInt32}
    (h : (c, n) ∈ returned cfg (runFrom cfg pre) e) : ∃ ch, Agreed cfg pre e c n ch := by
  obtain ⟨lookup, now, received, writeOk, nonce, ts, rfl, hstage, hcheck⟩ := returned_cases h
  obtain ⟨hn, body, reply, key, sig, rfl, hreply, hkey, hlen, hsig, hverify⟩ :=
    checkReply_ok hcheck
  refine ⟨⟨c, nonce, ts⟩, hn, challenged_issued pre c nonce ts hstage, rfl, lookup, now, _, writeOk,
    key, rfl, hkey, hlen, ?_⟩
  exact hideal pre c lookup now body writeOk post heq reply sig hreply hsig key _ hverify

/-- With distinct nonces a signed text belongs to one challenge and one node. -/
theorem preimage_unique {chs : List Challenge} (hnonces : (chs.map Challenge.nonce).Nodup)
    {ch ch' : Challenge} (hch : ch ∈ chs) (hch' : ch' ∈ chs) {n n' : UInt32}
    (h : ch'.preimage n' = ch.preimage n) : ch' = ch ∧ n' = n := by
  obtain ⟨hn, -, hhex⟩ := authPreimage_injective h
  have hnonce : ch'.nonce = ch.nonce := Subtype.ext (hexText_injective hhex)
  exact ⟨List.inj_on_of_nodup_map hnonces hch' hch hnonce, hn⟩

/-! ## What the client is sent -/

/-- The messages a client has been sent before its connection has answered. -/
def SentBefore (cfg : Config) (sent : List Bytes) : Option Stage → Prop
  | none => sent = []
  | some .admitted => sent = []
  | some .upgraded => sent = []
  | some (.challenged nonce ts) => sent = [cfg.codec.marshalChallenge (authChallenge nonce ts)]
  | some _ => True

theorem sentBefore_advance (s : Server) (stage : Stage) (a : ConnAction) {sent : List Bytes}
    (h : SentBefore cfg sent (some stage)) :
    SentBefore cfg (sent ++ messages cfg stage a) (some (advance cfg s stage a)) := by
  cases stage
  case admitted =>
    cases a
    case accept ok =>
      cases ok with
      | false => trivial
      | true => simpa [messages, advance, SentBefore] using h
    all_goals simpa [messages, advance, SentBefore] using h
  case upgraded =>
    cases a
    case challenge nonce now writeOk =>
      -- the challenge is the first message, or the connection is over
      cases nonce with
      | none => trivial
      | some nonce =>
        cases writeOk with
        | false => trivial
        | true => simpa [messages, advance, SentBefore] using h
    all_goals simpa [messages, advance, SentBefore] using h
  case challenged nonce ts =>
    cases a
    case reply lookup now received writeOk =>
      rw [advance]
      split <;> trivial
    all_goals simpa [messages, advance, SentBefore] using h
  -- the handshake is over
  all_goals cases a <;> simp only [advance] <;> (repeat' split) <;> trivial

theorem sentBefore_next (l : Listener) (e : Action) (c : Nat) {sent : List Bytes}
    (h : SentBefore cfg sent l.conns[c]?) :
    SentBefore cfg (sent ++ ((written cfg l e).filter fun m => m.1 = c).map Prod.snd)
      (next cfg l e).conns[c]? := by
  cases e with
  | connect =>
    change SentBefore cfg (sent ++ []) (l.conns ++ [_])[c]?
    rw [List.append_nil]
    by_cases hlt : c < l.conns.length
    · rw [List.getElem?_append_left hlt]
      exact h
    · -- a new connection, or none
      rw [List.getElem?_eq_none (by omega)] at h
      rw [List.getElem?_append_right (by omega)]
      cases c - l.conns.length with
      | zero =>
        rw [List.getElem?_cons_zero]
        split_ifs
        · trivial
        · exact h
      | succ k => exact h
  | conn c' a =>
    change SentBefore cfg _ (l.conns.modify c' fun stage => advance cfg l.server stage a)[c]?
    rw [List.getElem?_modify]
    by_cases hc : c' = c
    · subst hc
      cases hstage : l.conns[c']? with
      | none =>
        rw [hstage] at h
        simpa [written, hstage] using h
      | some stage =>
        rw [hstage] at h
        simpa [written, hstage, List.filter_map, Function.comp_def] using
          sentBefore_advance l.server stage a h
    · cases hstage : l.conns[c']? with
      | none => simpa [written, hstage, hc] using h
      | some stage => simpa [written, hstage, hc, List.filter_map, Function.comp_def] using h
  | drop p => exact (List.append_nil sent).symm ▸ h
  | dropFinish p => exact (List.append_nil sent).symm ▸ h
  | close => exact (List.append_nil sent).symm ▸ h
  | closeFinish p => exact (List.append_nil sent).symm ▸ h
  | sign key msg => exact (List.append_nil sent).symm ▸ h

/-- A client whose reply is waited for has been sent its challenge and nothing else. -/
theorem messagesTo_challenged {es : List Action} {c : Nat} {nonce : Nonce} {ts : Int}
    (h : (runFrom cfg es).conns[c]? = some (.challenged nonce ts)) :
    messagesTo cfg es c = [cfg.codec.marshalChallenge (authChallenge nonce ts)] := by
  have hsent : SentBefore cfg (messagesTo cfg es c) (runFrom cfg es).conns[c]? := by
    apply Transition.run_induction (next cfg)
      (fun es l => SentBefore cfg (messagesTo cfg es c) l.conns[c]?)
    · rfl
    · intro es e ih
      rw [messagesTo, Transition.observe_concat, List.filter_append, List.map_append, ← messagesTo]
      exact sentBefore_next _ e c ih
  rw [h] at hsent
  exact hsent

/-! ## Agreement -/

/-- **Handshake agreement.** With ideal signatures and distinct nonces, `runAuth` returns a
    node id only for a challenge of its own connection that the node's key has signed, and
    what was signed is no other challenge, no other node's and no punch grant. And the reply
    that the daemon of a known node computes from what it has been sent is accepted for
    `maxAuthAge` seconds, with which the daemon's side succeeds as well. -/
theorem handshake_agreement (cfg : Config) (es : List Action) (hideal : IdealSignatures cfg es)
    (hnonces : ((challenges cfg es).map Challenge.nonce).Nodup) :
    (∀ pre e post, es = pre ++ e :: post →
      ∀ c n, (c, n) ∈ returned cfg (runFrom cfg pre) e →
        ∃ ch, Agreed cfg pre e c n ch ∧
          (∀ ch' ∈ challenges cfg es, ∀ n', ch'.preimage n' = ch.preimage n → ch' = ch ∧ n' = n) ∧
          (∀ requesterID targetID expiry,
            punchGrantPreimage requesterID targetID expiry ≠ ch.preimage n)) ∧
    (∀ c nonce ts, (runFrom cfg es).conns[c]? = some (.challenged nonce ts) →
      ∀ n identity lookup now, n ≠ 0 → lookup n = some identity.publicKey →
        identity.publicKey.length = publicKeySize →
        (∀ msg, cfg.verify identity.publicKey msg (identity.sign msg) = true) →
        0 ≤ unixSecond now - ts → unixSecond now - ts ≤ maxAuthAge →
        ∃ challenge reply, messagesTo cfg es c = [challenge] ∧
          Daemon.answer cfg.codec identity n (.text challenge) = .ok reply ∧
          returned cfg (runFrom cfg es) (.conn c (.reply lookup now (.text reply) true)) =
            [(c, n)] ∧
          ∃ ok, written cfg (runFrom cfg es) (.conn c (.reply lookup now (.text reply) true)) =
              [(c, ok)] ∧
            Daemon.runAuth cfg.codec identity n (.text challenge) true (.text ok) = .ok ()) := by
  constructor
  · rintro pre e post heq c n hret
    obtain ⟨ch, hagreed⟩ := returned_signed hideal heq hret
    refine ⟨ch, hagreed, ?_, ?_⟩
    · intro ch' hch' n' hpre
      have hch : ch ∈ challenges cfg es := by
        rw [heq, challenges, Transition.observe_append]
        exact List.mem_append_left _ hagreed.2.1
      exact preimage_unique hnonces hch hch' hpre
    · intro requesterID targetID expiry hpre
      exact authPreimage_ne_punchGrantPreimage n ch.ts _ requesterID targetID expiry hpre.symm
  · intro c nonce ts hstage n identity lookup now hn hkey hlen hsign hlo hhi
    have hanswer := answer_authChallenge cfg.codec identity n nonce ts
    have hok := checkReply_answer hn hkey hlen hsign (And.intro hlo hhi) hanswer
    refine ⟨_, _, messagesTo_challenged hstage, hanswer, ?_,
      cfg.codec.marshalOK ⟨authOKType⟩, ?_, ?_⟩
    · exact returned_reply hstage hok
    · simp only [written, hstage, messages, hok, List.map_cons, List.map_nil]
    · exact daemon_runAuth_ok hanswer

/-- The daemon of node 7 signs the challenge of connection 0 and connects. -/
def signedHandshake : List Action :=
  .sign (sampleKey 7) (authPreimage 7 0 (hexText (sampleNonce 0).val)) :: sampleHandshake 0 7

theorem signedHandshake_ideal : IdealSignatures (sampleWSSConfig 0) signedHandshake := by
  intro pre c lookup now body writeOk post heq reply sig hreply hsig key msg hverify
  -- there is one reply, and it comes after the signature
  have hbody : body = sampleReply 7 (sampleNonce 0) := by
    have hmem : Action.conn c (.reply lookup now (.text body) writeOk) ∈ signedHandshake := by
      rw [heq]
      simp
    simp only [signedHandshake, sampleHandshake, handshake, List.mem_cons, reduceCtorEq,
      Action.conn.injEq, ConnAction.reply.injEq, Received.text.injEq, and_false, false_or,
      List.not_mem_nil, or_false] at hmem
    exact hmem.2.2.2.1
  have hfirst :
      Action.sign (sampleKey 7) (authPreimage 7 0 (hexText (sampleNonce 0).val)) ∈ pre := by
    cases pre with
    | nil => cases heq
    | cons a pre =>
      rw [signedHandshake, List.cons_append, List.cons.injEq] at heq
      rw [heq.1]
      exact List.mem_cons_self
  -- the signature is for one key and one message
  rw [hbody] at hreply
  cases hreply.symm.trans (Codec.json.reply_faithful _)
  rw [decodeBase64_encodeBase64, Option.some_inj] at hsig
  obtain ⟨hlen, heq'⟩ := of_decide_eq_true hverify
  rw [← hsig] at heq'
  obtain ⟨rfl, rfl⟩ := List.append_inj heq' (by rw [hlen]; rfl)
  exact hfirst

/-- Node 7 is accepted on connection 0, for the challenge it signed. -/
theorem handshake_agreement_signed : ∃ ch, Agreed (sampleWSSConfig 0) (signedHandshake.take 4)
    (.conn 0 (.reply (fun n => some (sampleKey n)) 0 (.text (sampleReply 7 (sampleNonce 0))) true))
    0 7 ch := by
  have hlen : (sampleKey 7).length = publicKeySize := List.length_replicate
  have hok : checkReply (sampleWSSConfig 0) (fun n => some (sampleKey n)) (sampleNonce 0) 0 0
      (.text (sampleReply 7 (sampleNonce 0))) true = .ok 7 :=
    checkReply_answer (by decide) rfl hlen (fun msg => decide_eq_true ⟨hlen, rfl⟩)
      (by decide) (answer_authChallenge Codec.json (sampleIdentity 7) 7 (sampleNonce 0) 0)
  have hnonces : ((challenges (sampleWSSConfig 0) signedHandshake).map Challenge.nonce).Nodup :=
    List.nodup_singleton _
  have hstage : (runFrom (sampleWSSConfig 0) (signedHandshake.take 4)).conns[0]? =
      some (.challenged (sampleNonce 0) 0) := rfl
  have hsplit : signedHandshake = signedHandshake.take 4 ++
      [.conn 0 (.reply (fun n => some (sampleKey n)) 0 (.text (sampleReply 7 (sampleNonce 0)))
        true)] := by
    simp [signedHandshake, sampleHandshake, handshake]
  have hreturned := returned_reply hstage hok
  obtain ⟨ch, hagreed, -⟩ := (handshake_agreement (sampleWSSConfig 0) signedHandshake
    signedHandshake_ideal hnonces).1 (signedHandshake.take 4) _ [] hsplit 0 7
      (by rw [hreturned]; exact List.mem_singleton_self _)
  exact ⟨ch, hagreed⟩

end Listener

end PilotBeacon.WSS
