import PilotBeacon.WSS.Auth

/-!
# The Signed Texts

Two texts of this protocol are signed with a node's key: the grant that lets a requester be
punched through to it, and the answer to a WSS challenge. Each is a tag followed by decimal
fields with a colon between them. The nonce of a challenge is any Go string, hence any bytes;
on the daemon's side it is whatever the server sent.

- `authBytes`: the challenge text over a nonce of any bytes, which both sides' texts are cases of
- `authBytes_injective`: it determines node, time and nonce
- `punchGrantPreimage_injective`: the grant text determines requester, target and expiry
- `signed_texts_unambiguous`: both, and that neither is ever the other
-/

namespace PilotBeacon.WSS

open PilotBeacon.Lib Encoding

/-! ## Decimal fields -/

theorem colon_notMem_toDigits (n : Nat) : ':' ∉ Nat.toDigits 10 n :=
  Text.notMem_toDigits (by omega) (by omega) (by decide)

theorem colon_notMem_decimalInt (i : Int) : ':' ∉ decimalInt i := by
  cases i with
  | ofNat n => exact colon_notMem_toDigits n
  | negSucc n =>
    rw [decimalInt, List.mem_cons, not_or]
    exact ⟨by decide, colon_notMem_toDigits (n + 1)⟩

theorem decimalInt_injective : Function.Injective decimalInt := by
  have hdigits := Text.toDigits_injective (b := 10) (by omega) (by omega)
  -- a minus sign is not a digit
  have hsign : ∀ n m, Nat.toDigits 10 n ≠ '-' :: Nat.toDigits 10 m := by
    intro n m h
    have hmem : '-' ∈ Nat.toDigits 10 n := by rw [h]; exact List.mem_cons_self
    exact Text.notMem_toDigits (by omega) (by omega) (by decide) hmem
  intro i j h
  cases i with
  | ofNat n =>
    cases j with
    | ofNat m => rw [hdigits h]
    | negSucc m => exact absurd h (hsign n (m + 1))
  | negSucc n =>
    cases j with
    | ofNat m => exact absurd h.symm (hsign m (n + 1))
    | negSucc m =>
      rw [decimalInt, decimalInt, List.cons.injEq] at h
      have := hdigits h.2
      rw [show n = m by omega]

/-- `%d` of an id, as a field of a signed text. -/
theorem toDigits_toNat_injective {n n' : UInt32}
    (h : Nat.toDigits 10 n.toNat = Nat.toDigits 10 n'.toNat) : n = n' :=
  UInt32.toNat_inj.mp (Text.toDigits_injective (b := 10) (by omega) (by omega) h)

/-! ## ASCII -/

/-- Every letter of the text is ASCII. -/
def IsAscii (t : Text) : Prop := ∀ c ∈ t, c.toNat < 128

theorem isAscii_cons {x : Char} {t : Text} (hx : x.toNat < 128) (ht : IsAscii t) :
    IsAscii (x :: t) := by
  intro c hc
  rcases List.mem_cons.mp hc with rfl | h
  · exact hx
  · exact ht c h

theorem isAscii_toDigits (n : Nat) : IsAscii (Nat.toDigits 10 n) := by
  intro c hc
  obtain ⟨d, hd, rfl⟩ := Text.exists_of_mem_toDigits (by omega) hc
  have hdigit : ∀ i : Fin 10, (i : Nat).digitChar.toNat < 128 := by decide
  exact hdigit ⟨d, hd⟩

theorem isAscii_decimalInt (i : Int) : IsAscii (decimalInt i) := by
  cases i with
  | ofNat n => exact isAscii_toDigits n
  | negSucc n => exact isAscii_cons (by decide) (isAscii_toDigits (n + 1))

theorem asciiBytes_append (a b : Text) : asciiBytes (a ++ b) = asciiBytes a ++ asciiBytes b :=
  List.map_append

/-- ASCII is encoded as itself. -/
theorem utf8_of_isAscii {t : Text} (ht : IsAscii t) : utf8 t = asciiBytes t := by
  induction t with
  | nil => rfl
  | cons c t ih =>
    have hc : c.toNat < 128 := ht c List.mem_cons_self
    have hchar : String.utf8EncodeChar c = [UInt8.ofNat c.toNat] := if_pos (Nat.le_of_lt_succ hc)
    have htail := ih fun x hx => ht x (List.mem_cons_of_mem c hx)
    rw [utf8] at htail
    rw [utf8, List.flatMap_cons, htail, hchar]
    rfl

theorem asciiBytes_injective {t t' : Text} (ht : IsAscii t) (ht' : IsAscii t')
    (h : asciiBytes t = asciiBytes t') : t = t' := by
  rw [← utf8_of_isAscii ht, ← utf8_of_isAscii ht'] at h
  exact utf8_injective h

theorem colon_notMem_asciiBytes {t : Text} (ht : IsAscii t) (hcolon : ':' ∉ t) :
    (58 : UInt8) ∉ asciiBytes t := by
  intro hmem
  obtain ⟨c, hc, hbyte⟩ := List.mem_map.mp hmem
  have hcode : c.toNat = 58 := by
    have hlt : c.toNat < 2 ^ 8 := Nat.lt_trans (ht c hc) (by decide)
    have hnat := congrArg UInt8.toNat hbyte
    rw [UInt8.toNat_ofNat', Nat.mod_eq_of_lt hlt] at hnat
    exact hnat
  have hchar : c = ':' := Char.toNat_inj.mp hcode
  exact hcolon (hchar ▸ hc)

/-- The first field of a colon-separated text can be read back, whatever comes after it. -/
theorem field_injective {a a' : Text} {b b' : Bytes} (ha : IsAscii a) (ha' : IsAscii a')
    (hcolon : ':' ∉ a) (hcolon' : ':' ∉ a')
    (h : asciiBytes a ++ 58 :: b = asciiBytes a' ++ 58 :: b') : a = a' ∧ b = b' := by
  obtain ⟨hfield, hrest⟩ := Text.append_sep_injective (colon_notMem_asciiBytes ha hcolon)
    (colon_notMem_asciiBytes ha' hcolon') h
  exact ⟨asciiBytes_injective ha ha' hfield, hrest⟩

theorem idField_injective {n n' : UInt32} {b b' : Bytes}
    (h : asciiBytes (Nat.toDigits 10 n.toNat) ++ 58 :: b =
      asciiBytes (Nat.toDigits 10 n'.toNat) ++ 58 :: b') : n = n' ∧ b = b' := by
  obtain ⟨hid, hrest⟩ := field_injective (isAscii_toDigits _) (isAscii_toDigits _)
    (colon_notMem_toDigits _) (colon_notMem_toDigits _) h
  exact ⟨toDigits_toNat_injective hid, hrest⟩

/-! ## The challenge text -/

/-- `fmt.Sprintf("compat_auth:%d:%d:%s", nodeID, ts, nonce)` for a Go string of any bytes. -/
def authBytes (nodeID : UInt32) (ts : Int) (nonce : Bytes) : Bytes :=
  asciiBytes "compat_auth:".toList ++ (asciiBytes (Nat.toDigits 10 nodeID.toNat) ++ 58 ::
    (asciiBytes (decimalInt ts) ++ 58 :: nonce))

/-- The server's text. -/
theorem authPreimage_eq (n : UInt32) (ts : Int) (nonce : Text) :
    authPreimage n ts nonce = authBytes n ts (utf8 nonce) := by
  have hcolon : ∀ t : Text, utf8 (':' :: t) = 58 :: utf8 t := fun _ => rfl
  rw [authPreimage, authBytes, utf8_append, utf8_append, hcolon, utf8_append, hcolon,
    utf8_of_isAscii (isAscii_toDigits n.toNat), utf8_of_isAscii (isAscii_decimalInt ts)]
  rfl

/-- The daemon's text. -/
theorem authMessage_eq (n : UInt32) (ch : AuthChallengeMsg) :
    Daemon.authMessage n ch = authBytes n ch.timestamp (utf8 ch.nonce) :=
  authPreimage_eq n ch.timestamp ch.nonce

/-- **The challenge text determines node, time and nonce**, whatever the nonce contains. -/
theorem authBytes_injective {n n' : UInt32} {ts ts' : Int} {nonce nonce' : Bytes}
    (h : authBytes n ts nonce = authBytes n' ts' nonce') :
    n = n' ∧ ts = ts' ∧ nonce = nonce' := by
  obtain ⟨hid, hrest⟩ := idField_injective (List.append_cancel_left h)
  obtain ⟨hts, hnonce⟩ := field_injective (isAscii_decimalInt ts) (isAscii_decimalInt ts')
    (colon_notMem_decimalInt ts) (colon_notMem_decimalInt ts') hrest
  exact ⟨hid, decimalInt_injective hts, hnonce⟩

theorem authPreimage_injective {n n' : UInt32} {ts ts' : Int} {nonce nonce' : Text}
    (h : authPreimage n ts nonce = authPreimage n' ts' nonce') :
    n = n' ∧ ts = ts' ∧ nonce = nonce' := by
  rw [authPreimage_eq, authPreimage_eq] at h
  obtain ⟨hid, hts, hnonce⟩ := authBytes_injective h
  exact ⟨hid, hts, utf8_injective hnonce⟩

/-! ## The grant text -/

theorem punchGrantPreimage_eq (requesterID targetID : UInt32) (expiry : Int) :
    punchGrantPreimage requesterID targetID expiry =
      asciiBytes "punch-grant:".toList ++ (asciiBytes (Nat.toDigits 10 requesterID.toNat) ++
        58 :: (asciiBytes (Nat.toDigits 10 targetID.toNat) ++
          58 :: asciiBytes (decimalInt expiry))) := by
  have hcolon : ∀ t : Text, asciiBytes (':' :: t) = 58 :: asciiBytes t := fun _ => rfl
  rw [punchGrantPreimage, List.append_assoc, List.append_assoc, asciiBytes_append,
    asciiBytes_append, List.cons_append, hcolon, asciiBytes_append, hcolon]

/-- **The grant text determines requester, target and expiry.** -/
theorem punchGrantPreimage_injective {r r' t t' : UInt32} {e e' : Int}
    (h : punchGrantPreimage r t e = punchGrantPreimage r' t' e') :
    r = r' ∧ t = t' ∧ e = e' := by
  rw [punchGrantPreimage_eq, punchGrantPreimage_eq] at h
  obtain ⟨hr, hrest⟩ := idField_injective (List.append_cancel_left h)
  obtain ⟨ht, hexp⟩ := idField_injective hrest
  have he := asciiBytes_injective (isAscii_decimalInt e) (isAscii_decimalInt e') hexp
  exact ⟨hr, ht, decimalInt_injective he⟩

/-! ## Domain separation -/

/-- The tags differ in their first letter. -/
theorem authBytes_ne_punchGrantPreimage (n : UInt32) (ts : Int) (nonce : Bytes)
    (requesterID targetID : UInt32) (expiry : Int) :
    authBytes n ts nonce ≠ punchGrantPreimage requesterID targetID expiry := by
  intro h
  have hc : (asciiBytes "compat_auth:".toList).head? = some 99 := by decide
  have hp : (asciiBytes "punch-grant:".toList).head? = some 112 := by decide
  have hhead := congrArg List.head? h
  rw [authBytes, List.head?_append, hc, Option.some_or, punchGrantPreimage_eq, List.head?_append,
    hp, Option.some_or] at hhead
  cases hhead

/-- A punch grant is never a handshake. -/
theorem authPreimage_ne_punchGrantPreimage (n : UInt32) (ts : Int) (nonce : Text)
    (requesterID targetID : UInt32) (expiry : Int) :
    authPreimage n ts nonce ≠ punchGrantPreimage requesterID targetID expiry := by
  rw [authPreimage_eq]
  exact authBytes_ne_punchGrantPreimage n ts (utf8 nonce) requesterID targetID expiry

/-- **The signed texts are unambiguous and kept apart.** Each determines its fields, over all
    ids, times and nonces; no text of one kind is a text of the other; and the texts that the
    server verifies and the daemon signs are challenge texts over the bytes of their nonce. -/
theorem signed_texts_unambiguous :
    (Function.Injective fun p : UInt32 × UInt32 × Int =>
      punchGrantPreimage p.1 p.2.1 p.2.2) ∧
    (Function.Injective fun p : UInt32 × Int × Bytes => authBytes p.1 p.2.1 p.2.2) ∧
    (∀ (r t n : UInt32) (expiry ts : Int) (nonce : Bytes),
      punchGrantPreimage r t expiry ≠ authBytes n ts nonce) ∧
    (∀ (n : UInt32) (ts : Int) (nonce : Text),
      authPreimage n ts nonce = authBytes n ts (utf8 nonce)) ∧
    (∀ (n : UInt32) (ch : AuthChallengeMsg),
      Daemon.authMessage n ch = authBytes n ch.timestamp (utf8 ch.nonce)) := by
  refine ⟨?_, ?_, ?_, authPreimage_eq, authMessage_eq⟩
  · rintro ⟨r, t, e⟩ ⟨r', t', e'⟩ h
    obtain ⟨rfl, rfl, rfl⟩ := punchGrantPreimage_injective h
    rfl
  · rintro ⟨n, ts, nonce⟩ ⟨n', ts', nonce'⟩ h
    obtain ⟨rfl, rfl, rfl⟩ := authBytes_injective h
    rfl
  · intro r t n expiry ts nonce h
    exact authBytes_ne_punchGrantPreimage n ts nonce r t expiry h.symm

end PilotBeacon.WSS
