import PilotBeacon.Lib.Encoding
import PilotBeacon.Lib.FlatJson
import PilotBeacon.Server.Punch

/-!
# The WSS Handshake (`runAuth` of the server and of the daemon)

After the upgrade the server sends a random nonce and its clock, the daemon answers with a
signature over its node id and both, and the server looks the key up and verifies. The two
sides were written apart: each has its own formatting of the signed text.

`websocket.Conn.Read` and `Write` are answers of the environment, `ed25519.Verify` and
`encoding/json` are parameters. The error texts are not modelled, the cases are.

- `checkReply_ok`: what the server has checked when it accepts
- `checkReply_answer`: the daemon's answer to a challenge is accepted
-/

namespace PilotBeacon.WSS

open PilotBeacon.Lib Encoding

/-! ## Messages -/

structure AuthChallengeMsg where
  type : Text
  nonce : Text
  timestamp : Int
deriving DecidableEq

structure AuthReplyMsg where
  type : Text
  nodeID : UInt32
  publicKey : Text
  sig : Text
deriving DecidableEq

structure AuthOKMsg where
  type : Text
deriving DecidableEq

/-- `json.Marshal` and `json.Unmarshal` at the message types, each of which is read back from
    the bytes it is written as. -/
structure Codec where
  marshalChallenge : AuthChallengeMsg → Bytes
  unmarshalChallenge : Bytes → Option AuthChallengeMsg
  marshalReply : AuthReplyMsg → Bytes
  unmarshalReply : Bytes → Option AuthReplyMsg
  marshalOK : AuthOKMsg → Bytes
  unmarshalOK : Bytes → Option AuthOKMsg
  challenge_faithful : ∀ m, unmarshalChallenge (marshalChallenge m) = some m
  reply_faithful : ∀ m, unmarshalReply (marshalReply m) = some m
  ok_faithful : ∀ m, unmarshalOK (marshalOK m) = some m

/-- What `websocket.Conn.Read` returns. -/
inductive Received where
  | failed
  | text (body : Bytes)
  | binary (body : Bytes)
deriving DecidableEq

def authChallengeType : Text := "auth_challenge".toList

def authReplyType : Text := "auth_reply".toList

def authOKType : Text := "auth_ok".toList

/-! ## Server -/

/-- The random bytes of a challenge. -/
abbrev Nonce := { b : Bytes // b.length = 32 }

/-- What the server is built with. `verify` stands for `ed25519.Verify`. -/
structure Config where
  codec : Codec
  verify : Bytes → Bytes → Bytes → Bool
  maxPeers : Int

/-- The longest time, in seconds, between a challenge and its reply. -/
def maxAuthAge : Int := 30

/-- Why `runAuth` fails after the challenge was sent. -/
inductive AuthError where
  | readReply
  | notText
  | parseReply
  | malformedReply (type : Text) (nodeID : UInt32)
  | unknownNode (nodeID : UInt32)
  | malformedKey (nodeID : UInt32) (length : Nat)
  | badSigEncoding
  | expired (age : Int)
  | verifyFailed (nodeID : UInt32)
  | writeOK
deriving DecidableEq

/-- `fmt.Sprintf("compat_auth:%d:%d:%s", reply.NodeID, ts, nonce)`. -/
def authPreimage (nodeID : UInt32) (ts : Int) (nonce : Text) : Bytes :=
  utf8 ("compat_auth:".toList ++ (Nat.toDigits 10 nodeID.toNat ++ ':' ::
    (decimalInt ts ++ ':' :: nonce)))

/-- The challenge with a nonce, at the Unix time `ts`. -/
def authChallenge (nonce : Nonce) (ts : Int) : AuthChallengeMsg :=
  ⟨authChallengeType, hexText nonce.val, ts⟩

/-- The rest of `runAuth` once the challenge is out: read the reply, look the key up, verify.
    `lookup` is `PubKeyLookup`, `writeOk` whether the `auth_ok` message gets written. -/
def checkReply (cfg : Config) (lookup : UInt32 → Option Bytes) (nonce : Nonce) (ts : Int)
    (now : Int) (received : Received) (writeOk : Bool) : Except AuthError UInt32 :=
  match received with
  | .failed => .error .readReply
  | .binary _ => .error .notText
  | .text body =>
    match cfg.codec.unmarshalReply body with
    | none => .error .parseReply
    | some reply =>
      -- node id 0 stands for "not bridged" and never connects
      if reply.type ≠ authReplyType ∨ reply.nodeID = 0 then
        .error (.malformedReply reply.type reply.nodeID)
      else
        match lookup reply.nodeID with
        | none => .error (.unknownNode reply.nodeID)
        | some pubKey =>
          if pubKey.length ≠ publicKeySize then
            .error (.malformedKey reply.nodeID pubKey.length)
          else
            match decodeBase64 reply.sig with
            | none => .error .badSigEncoding
            | some sig =>
              let age := unixSecond now - ts
              if age < 0 ∨ maxAuthAge < age then .error (.expired age)
              else if !cfg.verify pubKey (authPreimage reply.nodeID ts (hexText nonce.val)) sig then
                .error (.verifyFailed reply.nodeID)
              else if !writeOk then .error .writeOK
              else .ok reply.nodeID

/-! ## Daemon -/

/-- `crypto.Identity` and `crypto.EncodePublicKey` of the shared library. -/
structure Identity where
  publicKey : Bytes
  encodePublicKey : Bytes → Text
  sign : Bytes → Bytes

/-- Why the daemon's `runAuth` fails. -/
inductive DaemonAuthError where
  | readChallenge
  | challengeNotText
  | parseChallenge
  | malformedChallenge (type : Text) (nonceLength : Nat)
  | writeReply
  | readOK
  | okNotText
  | parseOK
  | rejected (body : Bytes)
deriving DecidableEq

namespace Daemon

/-- `fmt.Sprintf("compat_auth:%d:%d:%s", t.cfg.NodeID, ch.Timestamp, ch.Nonce)`. -/
def authMessage (nodeID : UInt32) (ch : AuthChallengeMsg) : Bytes :=
  utf8 ("compat_auth:".toList ++ (Nat.toDigits 10 nodeID.toNat ++ ':' ::
    (decimalInt ch.timestamp ++ ':' :: ch.nonce)))

/-- The first half of `runAuth`: read the challenge and compute the reply. -/
def answer (codec : Codec) (identity : Identity) (nodeID : UInt32) (received : Received) :
    Except DaemonAuthError Bytes :=
  match received with
  | .failed => .error .readChallenge
  | .binary _ => .error .challengeNotText
  | .text body =>
    match codec.unmarshalChallenge body with
    | none => .error .parseChallenge
    | some ch =>
      if ch.type ≠ authChallengeType ∨ ch.nonce = [] then
        .error (.malformedChallenge ch.type ch.nonce.length)
      else
        .ok (codec.marshalReply
          { type := authReplyType
            nodeID := nodeID
            publicKey := identity.encodePublicKey identity.publicKey
            sig := encodeBase64 (identity.sign (authMessage nodeID ch)) })

/-- The second half of `runAuth`, once the reply is written. -/
def finish (codec : Codec) (received : Received) : Except DaemonAuthError Unit :=
  match received with
  | .failed => .error .readOK
  | .binary _ => .error .okNotText
  | .text body =>
    match codec.unmarshalOK body with
    | none => .error .parseOK
    | some ok => if ok.type ≠ authOKType then .error (.rejected body) else .ok ()

/-- `runAuth` of the daemon: what it reads, whether its reply gets written, what it reads
    then. -/
def runAuth (codec : Codec) (identity : Identity) (nodeID : UInt32) (challenge : Received)
    (writeOk : Bool) (result : Received) : Except DaemonAuthError Unit := do
  let _ ← answer codec identity nodeID challenge
  if writeOk then finish codec result else .error .writeReply

end Daemon

/-! ## What the server accepts -/

section

variable {cfg : Config} {lookup : UInt32 → Option Bytes} {nonce : Nonce} {ts now : Int}

/-- **Soundness of one reply.** -/
theorem checkReply_ok {received : Received} {writeOk : Bool} {n : UInt32}
    (h : checkReply cfg lookup nonce ts now received writeOk = .ok n) :
    n ≠ 0 ∧ ∃ body reply key sig, received = .text body ∧
      cfg.codec.unmarshalReply body = some reply ∧ lookup n = some key ∧
      key.length = publicKeySize ∧ decodeBase64 reply.sig = some sig ∧
      cfg.verify key (authPreimage n ts (hexText nonce.val)) sig = true := by
  unfold checkReply at h
  cases received with
  | failed => cases h
  | binary body => cases h
  | text body =>
    dsimp only at h
    cases hreply : cfg.codec.unmarshalReply body with
    | none => rw [hreply] at h; cases h
    | some reply =>
      rw [hreply] at h
      dsimp only at h
      by_cases hform : reply.type ≠ authReplyType ∨ reply.nodeID = 0
      · rw [if_pos hform] at h; cases h
      rw [if_neg hform] at h
      cases hkey : lookup reply.nodeID with
      | none => rw [hkey] at h; cases h
      | some key =>
        rw [hkey] at h
        dsimp only at h
        by_cases hlen : key.length ≠ publicKeySize
        · rw [if_pos hlen] at h; cases h
        rw [if_neg hlen] at h
        cases hsig : decodeBase64 reply.sig with
        | none => rw [hsig] at h; cases h
        | some sig =>
          rw [hsig] at h
          dsimp only at h
          split_ifs at h with hage hverify hwrite
          cases h
          exact ⟨fun hzero => hform (Or.inr hzero), body, reply, key, sig, rfl, hreply, hkey,
            not_not.mp hlen, hsig, by simpa using hverify⟩

/-- The daemon answers every challenge of the server. -/
theorem answer_authChallenge (codec : Codec) (identity : Identity) (n : UInt32) (nonce : Nonce)
    (ts : Int) : Daemon.answer codec identity n
        (.text (codec.marshalChallenge (authChallenge nonce ts))) =
      .ok (codec.marshalReply ⟨authReplyType, n, identity.encodePublicKey identity.publicKey,
        encodeBase64 (identity.sign (authPreimage n ts (hexText nonce.val)))⟩) := by
  have hne : hexText nonce.val ≠ [] := by
    intro hnil
    have hlen := length_hexText nonce.val
    rw [hnil, nonce.property] at hlen
    cases hlen
  unfold Daemon.answer
  dsimp only
  rw [codec.challenge_faithful]
  dsimp only [authChallenge]
  rw [if_neg (by simp [hne])]
  rfl

/-- **Completeness of one reply.** What the daemon of node `n` answers is accepted while the
    challenge is fresh. -/
theorem checkReply_answer {identity : Identity} {n : UInt32} {body : Bytes} (hn : n ≠ 0)
    (hkey : lookup n = some identity.publicKey) (hlen : identity.publicKey.length = publicKeySize)
    (hsign : ∀ msg, cfg.verify identity.publicKey msg (identity.sign msg) = true)
    (hfresh : 0 ≤ unixSecond now - ts ∧ unixSecond now - ts ≤ maxAuthAge)
    (hbody : Daemon.answer cfg.codec identity n
      (.text (cfg.codec.marshalChallenge (authChallenge nonce ts))) = .ok body) :
    checkReply cfg lookup nonce ts now (.text body) true = .ok n := by
  rw [answer_authChallenge] at hbody
  cases hbody
  unfold checkReply
  dsimp only
  rw [cfg.codec.reply_faithful]
  dsimp only
  rw [if_neg (by simp [hn]), hkey]
  dsimp only
  rw [if_neg (not_not.mpr hlen), decodeBase64_encodeBase64]
  dsimp only
  rw [if_neg (by omega), hsign]
  rfl

/-- A daemon whose reply gets written succeeds on the server's `auth_ok`. -/
theorem daemon_runAuth_ok {codec : Codec} {identity : Identity} {n : UInt32} {challenge : Received}
    {body : Bytes} (h : Daemon.answer codec identity n challenge = .ok body) :
    Daemon.runAuth codec identity n challenge true (.text (codec.marshalOK ⟨authOKType⟩)) =
      .ok () := by
  have hfinish : Daemon.finish codec (.text (codec.marshalOK ⟨authOKType⟩)) = .ok () := by
    simp [Daemon.finish, codec.ok_faithful]
  rw [Daemon.runAuth, h]
  exact hfinish

end

/-! ## JSON texts

What `encoding/json` writes for the three messages, and a reader of flat objects by field
name: an absent field is the zero value, a field of the wrong kind is an error. -/

namespace Codec

open FlatJson

/-- The number of a decimal numeral. -/
def parseInt : Text → Int
  | '-' :: t => -(Nat.ofDigitChars 10 t 0 : Int)
  | t => Nat.ofDigitChars 10 t 0

def stringField (ms : List (Text × Value)) (key : Text) : Option Text :=
  match ms.lookup key with
  | none => some []
  | some (.str t) => some t
  | some (.numeral _) => none

def intField (ms : List (Text × Value)) (key : Text) : Option Int :=
  match ms.lookup key with
  | none => some 0
  | some (.str _) => none
  | some (.numeral t) => some (parseInt t)

def uint32Field (ms : List (Text × Value)) (key : Text) : Option UInt32 :=
  (intField ms key).bind fun i =>
    if 0 ≤ i ∧ i < 2 ^ 32 then some (UInt32.ofNat i.toNat) else none

def challengeMembers (m : AuthChallengeMsg) : List (Text × Value) :=
  [("type".toList, .str m.type), ("nonce".toList, .str m.nonce),
    ("ts".toList, .numeral (decimalInt m.timestamp))]

def replyMembers (m : AuthReplyMsg) : List (Text × Value) :=
  [("type".toList, .str m.type), ("node_id".toList, .numeral (decimalInt m.nodeID.toNat)),
    ("public_key".toList, .str m.publicKey), ("sig".toList, .str m.sig)]

def okMembers (m : AuthOKMsg) : List (Text × Value) := [("type".toList, .str m.type)]

/-- The members of the object with the given bytes. -/
def members (b : Bytes) : Option (List (Text × Value)) := (decodeUtf8 b).bind readObject

theorem parseInt_decimalInt (i : Int) : parseInt (decimalInt i) = i := by
  have hparse : ∀ n, Nat.ofDigitChars 10 (Nat.toDigits 10 n) 0 = n := fun n =>
    Nat.ofDigitChars_toDigits (by omega) (by omega)
  cases i with
  | ofNat n =>
    rw [decimalInt, parseInt, hparse]
    · rfl
    · -- a numeral does not start with a minus sign
      intro t h
      exact Text.notMem_toDigits (b := 10) (n := n) (c := '-') (by omega) (by omega) (by decide)
        (by rw [h]; exact List.mem_cons_self)
  | negSucc n =>
    rw [decimalInt, parseInt, hparse]
    rfl

/-- Numerals are read as such. -/
theorem readable_decimalInt (i : Int) : (Value.numeral (decimalInt i)).Readable := by
  have hall : ∀ d < 16, inNumeral (Nat.digitChar d) = true ∧ Nat.digitChar d ≠ '"' := by decide
  have hdigits : ∀ n, ∀ c ∈ Nat.toDigits 10 n, inNumeral c = true ∧ c ≠ '"' := by
    intro n c hc
    obtain ⟨d, hd, rfl⟩ := Text.exists_of_mem_toDigits (by omega) hc
    exact hall d (by omega)
  have hchars : ∀ c ∈ decimalInt i, inNumeral c = true ∧ c ≠ '"' := by
    cases i with
    | ofNat n => exact hdigits n
    | negSucc n =>
      intro c hc
      rcases List.mem_cons.mp hc with rfl | hc
      · decide
      · exact hdigits (n + 1) c hc
  refine ⟨fun hquote => (hchars _ (List.mem_of_mem_take hquote)).2 rfl, ?_,
    fun c hc => (hchars c hc).1⟩
  cases i with
  | ofNat n => exact Nat.toDigits_ne_nil
  | negSucc n => exact List.cons_ne_nil _ _

theorem members_utf8 {ms : List (Text × Value)} (hms : ∀ m ∈ ms, m.2.Readable) :
    members (utf8 (objectText ms)) = some ms := by
  rw [members, decodeUtf8_utf8, Option.bind_some, readObject_objectText hms]

/-- The messages as JSON objects. -/
def json : Codec where
  marshalChallenge m := utf8 (objectText (challengeMembers m))
  unmarshalChallenge b := do
    let ms ← members b
    return ⟨← stringField ms "type".toList, ← stringField ms "nonce".toList,
      ← intField ms "ts".toList⟩
  marshalReply m := utf8 (objectText (replyMembers m))
  unmarshalReply b := do
    let ms ← members b
    return ⟨← stringField ms "type".toList, ← uint32Field ms "node_id".toList,
      ← stringField ms "public_key".toList, ← stringField ms "sig".toList⟩
  marshalOK m := utf8 (objectText (okMembers m))
  unmarshalOK b := do
    let ms ← members b
    return ⟨← stringField ms "type".toList⟩
  challenge_faithful := by
    intro m
    rw [members_utf8 (by simp [challengeMembers, readable_decimalInt])]
    show some (AuthChallengeMsg.mk m.type m.nonce (parseInt (decimalInt m.timestamp))) = some m
    rw [parseInt_decimalInt]
  reply_faithful := by
    intro m
    have hid : uint32Field (replyMembers m) "node_id".toList = some m.nodeID := by
      show (if 0 ≤ parseInt (decimalInt m.nodeID.toNat) ∧ _ then _ else _) = _
      rw [parseInt_decimalInt, if_pos ⟨by omega, by have := m.nodeID.toNat_lt; omega⟩,
        Int.toNat_natCast, UInt32.ofNat_toNat]
    rw [members_utf8 (by simp [replyMembers, readable_decimalInt])]
    simp only [Option.bind_eq_bind, Option.bind_some, hid]
    rfl
  ok_faithful := by
    intro m
    rw [members_utf8 (by simp [okMembers])]
    rfl

end Codec

end PilotBeacon.WSS
