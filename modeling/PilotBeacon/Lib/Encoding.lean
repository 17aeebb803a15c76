import PilotBeacon.Lib.BigEndian
import PilotBeacon.Lib.Text
import Mathlib.Tactic.SplitIfs

/-!
# Text Encodings of Bytes

Three codings between byte strings and texts, each with the fact that nothing is lost:

- `utf8`: the bytes of a text
- `hexText`: lower-case hexadecimal, two digits a byte
- `encodeBase64`, `decodeBase64`: the standard alphabet with padding; line breaks in the
  input of the decoder are ignored
-/

namespace PilotBeacon.Lib

namespace Encoding

/-! ## UTF-8 -/

/-- The UTF-8 bytes of a text. -/
def utf8 (t : Text) : Bytes := t.flatMap String.utf8EncodeChar

/-- The text with the given UTF-8 bytes, if they are valid. -/
def decodeUtf8 (b : Bytes) : Option Text := b.toByteArray.utf8Decode?.map Array.toList

/-- **Round trip.** The text is read back from its bytes. -/
theorem decodeUtf8_utf8 (t : Text) : decodeUtf8 (utf8 t) = some t := by
  show t.utf8Encode.utf8Decode?.map Array.toList = some t
  rw [List.utf8Decode?_utf8Encode]
  rfl

theorem utf8_injective : Function.Injective utf8 := by
  intro a b h
  have hdec := decodeUtf8_utf8 a
  rw [h, decodeUtf8_utf8, Option.some_inj] at hdec
  exact hdec.symm

theorem utf8_append (a b : Text) : utf8 (a ++ b) = utf8 a ++ utf8 b := List.flatMap_append

/-! ## Hexadecimal -/

/-- Two digits a byte, high half first. -/
def hexText (b : Bytes) : Text :=
  b.flatMap fun x => [Nat.digitChar (x.toNat / 16), Nat.digitChar (x.toNat % 16)]

theorem hexText_cons (x : UInt8) (b : Bytes) : hexText (x :: b) =
    Nat.digitChar (x.toNat / 16) :: Nat.digitChar (x.toNat % 16) :: hexText b := rfl

theorem length_hexText (b : Bytes) : (hexText b).length = 2 * b.length := by
  induction b with
  | nil => rfl
  | cons x b ih =>
    rw [hexText_cons, List.length_cons, List.length_cons, ih, List.length_cons]
    omega

/-- The digits determine the bytes. -/
theorem hexText_injective : Function.Injective hexText := by
  intro a
  induction a with
  | nil =>
    intro b h
    cases b with
    | nil => rfl
    | cons y b => cases h
  | cons x a ih =>
    intro b h
    cases b with
    | nil => cases h
    | cons y b =>
      rw [hexText_cons, hexText_cons, List.cons.injEq, List.cons.injEq] at h
      obtain ⟨hhigh, hlow, hrest⟩ := h
      have hx := x.toNat_lt
      have hy := y.toNat_lt
      -- both halves of the first byte are read off their digits
      have hdiv := Text.digitChar_injective (by omega) (by omega) hhigh
      have hmod := Text.digitChar_injective (by omega) (by omega) hlow
      rw [ih hrest, UInt8.toNat_inj.mp (show x.toNat = y.toNat by omega)]

/-! ## Base64 -/

/-- The character of a 6-bit value. -/
def encodeDigit (n : Nat) : Char :=
  if n < 26 then Char.ofNat (65 + n)
  else if n < 52 then Char.ofNat (71 + n)
  else if n < 62 then Char.ofNat (n - 4)
  else if n = 62 then '+'
  else '/'

/-- The 6-bit value of a character of the alphabet. -/
def decodeDigit (c : Char) : Option Nat :=
  if 65 ≤ c.toNat ∧ c.toNat ≤ 90 then some (c.toNat - 65)
  else if 97 ≤ c.toNat ∧ c.toNat ≤ 122 then some (c.toNat - 71)
  else if 48 ≤ c.toNat ∧ c.toNat ≤ 57 then some (c.toNat + 4)
  else if c = '+' then some 62
  else if c = '/' then some 63
  else none

/-- Three bytes give four characters; one or two bytes at the end are padded. -/
def encodeBase64 : Bytes → Text
  | [] => []
  | [a] => [encodeDigit (a.toNat / 4), encodeDigit (a.toNat % 4 * 16), '=', '=']
  | [a, b] =>
    [encodeDigit (a.toNat / 4), encodeDigit (a.toNat % 4 * 16 + b.toNat / 16),
      encodeDigit (b.toNat % 16 * 4), '=']
  | a :: b :: c :: rest =>
    encodeDigit (a.toNat / 4) :: encodeDigit (a.toNat % 4 * 16 + b.toNat / 16) ::
      encodeDigit (b.toNat % 16 * 4 + c.toNat / 64) :: encodeDigit (c.toNat % 64) ::
        encodeBase64 rest

/-- Read groups of four characters; padding is allowed in the last one only. -/
def decodeQuanta : Text → Option Bytes
  | [] => some []
  | p :: q :: r :: s :: rest =>
    match decodeDigit p, decodeDigit q with
    | some w, some x =>
      if r = '=' then
        if s = '=' ∧ rest = [] then some [UInt8.ofNat (w * 4 + x / 16)] else none
      else
        match decodeDigit r with
        | none => none
        | some y =>
          if s = '=' then
            if rest = [] then
              some [UInt8.ofNat (w * 4 + x / 16), UInt8.ofNat (x % 16 * 16 + y / 4)]
            else none
          else
            match decodeDigit s with
            | none => none
            | some z =>
              (decodeQuanta rest).map fun bytes =>
                UInt8.ofNat (w * 4 + x / 16) :: UInt8.ofNat (x % 16 * 16 + y / 4) ::
                  UInt8.ofNat (y % 4 * 64 + z) :: bytes
    | _, _ => none
  | _ => none

/-- `base64.StdEncoding.DecodeString`. -/
def decodeBase64 (t : Text) : Option Bytes :=
  decodeQuanta (t.filter fun c => c ≠ '\r' ∧ c ≠ '\n')

/-- A digit is read back, and is neither padding nor a line break. -/
theorem encodeDigit_spec {n : Nat} (hn : n < 64) : decodeDigit (encodeDigit n) = some n ∧
    encodeDigit n ≠ '=' ∧ encodeDigit n ≠ '\r' ∧ encodeDigit n ≠ '\n' := by
  have hall : ∀ i : Fin 64, decodeDigit (encodeDigit i) = some i.val ∧
      encodeDigit i ≠ '=' ∧ encodeDigit i ≠ '\r' ∧ encodeDigit i ≠ '\n' := by decide
  exact hall ⟨n, hn⟩

theorem decodeQuanta_encodeBase64 (b : Bytes) : decodeQuanta (encodeBase64 b) = some b := by
  -- a byte put together from its bits
  have hbyte : ∀ (x : UInt8) (n : Nat), n = x.toNat → UInt8.ofNat n = x := by
    rintro x n rfl
    exact UInt8.ofNat_toNat
  induction b using encodeBase64.induct with
  | case1 => rfl
  | case2 a =>
    have ha := a.toNat_lt
    have h₁ := encodeDigit_spec (show a.toNat / 4 < 64 by omega)
    have h₂ := encodeDigit_spec (show a.toNat % 4 * 16 < 64 by omega)
    simp only [encodeBase64, decodeQuanta, h₁.1, h₂.1, if_true, and_self]
    rw [hbyte a _ (by omega)]
  | case3 a b =>
    have ha := a.toNat_lt
    have hb := b.toNat_lt
    have h₁ := encodeDigit_spec (show a.toNat / 4 < 64 by omega)
    have h₂ := encodeDigit_spec (show a.toNat % 4 * 16 + b.toNat / 16 < 64 by omega)
    have h₃ := encodeDigit_spec (show b.toNat % 16 * 4 < 64 by omega)
    simp only [encodeBase64, decodeQuanta, h₁.1, h₂.1, h₃.1, h₃.2.1, if_true, if_false]
    rw [hbyte a _ (by omega), hbyte b _ (by omega)]
  | case4 a b c rest ih =>
    have ha := a.toNat_lt
    have hb := b.toNat_lt
    have hc := c.toNat_lt
    have h₁ := encodeDigit_spec (show a.toNat / 4 < 64 by omega)
    have h₂ := encodeDigit_spec (show a.toNat % 4 * 16 + b.toNat / 16 < 64 by omega)
    have h₃ := encodeDigit_spec (show b.toNat % 16 * 4 + c.toNat / 64 < 64 by omega)
    have h₄ := encodeDigit_spec (show c.toNat % 64 < 64 by omega)
    simp only [encodeBase64, decodeQuanta, h₁.1, h₂.1, h₃.1, h₄.1, h₃.2.1, h₄.2.1, if_false, ih,
      Option.map_some]
    rw [hbyte a _ (by omega), hbyte b _ (by omega), hbyte c _ (by omega)]

/-- An encoded text has no line breaks. -/
theorem filter_encodeBase64 (b : Bytes) :
    (encodeBase64 b).filter (fun c => c ≠ '\r' ∧ c ≠ '\n') = encodeBase64 b := by
  induction b using encodeBase64.induct with
  | case1 => rfl
  | case2 a =>
    have ha := a.toNat_lt
    have h₁ := encodeDigit_spec (show a.toNat / 4 < 64 by omega)
    have h₂ := encodeDigit_spec (show a.toNat % 4 * 16 < 64 by omega)
    simp [encodeBase64, h₁.2.2, h₂.2.2]
  | case3 a b =>
    have ha := a.toNat_lt
    have hb := b.toNat_lt
    have h₁ := encodeDigit_spec (show a.toNat / 4 < 64 by omega)
    have h₂ := encodeDigit_spec (show a.toNat % 4 * 16 + b.toNat / 16 < 64 by omega)
    have h₃ := encodeDigit_spec (show b.toNat % 16 * 4 < 64 by omega)
    simp [encodeBase64, h₁.2.2, h₂.2.2, h₃.2.2]
  | case4 a b c rest ih =>
    have ha := a.toNat_lt
    have hb := b.toNat_lt
    have hc := c.toNat_lt
    have h₁ := encodeDigit_spec (show a.toNat / 4 < 64 by omega)
    have h₂ := encodeDigit_spec (show a.toNat % 4 * 16 + b.toNat / 16 < 64 by omega)
    have h₃ := encodeDigit_spec (show b.toNat % 16 * 4 + c.toNat / 64 < 64 by omega)
    have h₄ := encodeDigit_spec (show c.toNat % 64 < 64 by omega)
    simpa [encodeBase64, h₁.2.2, h₂.2.2, h₃.2.2, h₄.2.2] using ih

/-- **Round trip.** What is encoded is decoded. -/
theorem decodeBase64_encodeBase64 (b : Bytes) : decodeBase64 (encodeBase64 b) = some b := by
  rw [decodeBase64, filter_encodeBase64, decodeQuanta_encodeBase64]

end Encoding

end PilotBeacon.Lib
