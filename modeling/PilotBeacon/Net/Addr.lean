import PilotBeacon.Lib.BigEndian
import PilotBeacon.Lib.Text

/-!
# Addresses of Go's `net` Package

`net.IP`, `net.UDPAddr` and the operations of theirs that the beacon uses.

- `IP.to4`, `IP.to16`, `IP.equal`: the 4-byte and the IPv4-mapped 16-byte spelling
  of an address are one address
- `IP.string`, `UDPAddr.string`: the printed forms, used as map keys
- `UDPAddr.sameEndpoint`: equal IP and port, the comparison gossip replacement makes

That equal printed forms mean equal endpoints is proved in `PilotBeacon.Net.AddrText`.
-/

namespace PilotBeacon.Net

open PilotBeacon.Lib

/-! ## IP addresses -/

/-- A `net.IP`: nil, 4 bytes or 16 bytes. Sockets produce the last two; resolving an
    address with an empty host produces nil. -/
structure IP where
  bytes : Bytes
  len_ok : bytes.length = 0 ∨ bytes.length = 4 ∨ bytes.length = 16
deriving DecidableEq

namespace IP

def v4InV6Prefix : Bytes := [0, 0, 0, 0, 0, 0, 0, 0, 0, 0, 0xff, 0xff]

/-- The 4-byte form, if the address is IPv4 in either spelling. -/
def to4 (ip : IP) : Option Bytes :=
  if ip.bytes.length = 4 then some ip.bytes
  else if ip.bytes.length = 16 ∧ ip.bytes.take 12 = v4InV6Prefix then some (ip.bytes.drop 12)
  else none

/-- The 16-byte form. -/
def to16 (ip : IP) : Option Bytes :=
  if ip.bytes.length = 4 then some (v4InV6Prefix ++ ip.bytes)
  else if ip.bytes.length = 16 then some ip.bytes
  else none

/-- `IP.Equal`: an IPv4 address and the same address in IPv6 form are equal. -/
def equal (ip x : IP) : Bool :=
  if ip.bytes.length = x.bytes.length then ip.bytes = x.bytes
  else if ip.bytes.length = 4 ∧ x.bytes.length = 16 then
    x.bytes.take 12 = v4InV6Prefix ∧ ip.bytes = x.bytes.drop 12
  else if ip.bytes.length = 16 ∧ x.bytes.length = 4 then
    ip.bytes.take 12 = v4InV6Prefix ∧ ip.bytes.drop 12 = x.bytes
  else false

/-- The bytes an address is put on the wire with: 4 if it is IPv4, else 16. -/
def wire (ip : IP) : Option Bytes :=
  match ip.to4 with
  | some b => some b
  | none => ip.to16

/-! ### Printed form -/

def decimal (n : Nat) : Text := Nat.toDigits 10 n

def hex (n : Nat) : Text := Nat.toDigits 16 n

/-- The 16-bit groups of an IPv6 address. -/
def groups : Bytes → List Nat
  | a :: b :: rest => (a.toNat * 256 + b.toNat) :: groups rest
  | _ => []

/-- How many groups are zero from the start on. -/
def zeroLen (g : List Nat) : Nat := (g.takeWhile (· == 0)).length

/-- Start and end of the run of zero groups that `::` stands for: the longest run of at
    least two, the first of these. -/
def zeroRun (g : List Nat) : Option (Nat × Nat) :=
  (List.range g.length).foldl
    (fun best i =>
      if 2 ≤ zeroLen (g.drop i) ∧ (best.elim 0 fun r => r.2 - r.1) < zeroLen (g.drop i) then
        some (i, i + zeroLen (g.drop i))
      else best)
    none

def string4 (b : Bytes) : Text := ['.'].intercalate (b.map fun x => decimal x.toNat)

def string6 (g : List Nat) : Text :=
  match zeroRun g with
  | none => [':'].intercalate (g.map hex)
  | some (s, e) =>
    [':'].intercalate ((g.take s).map hex) ++ ':' :: ':' :: [':'].intercalate ((g.drop e).map hex)

/-- `ipEmptyString`: as `IP.String`, but empty for the nil address. -/
def emptyString (ip : IP) : Text :=
  if ip.bytes.length = 0 then []
  else
    match ip.to4 with
    | some b => string4 b
    | none => string6 (groups ip.bytes)

/-- `IP.String`. -/
def string (ip : IP) : Text :=
  if ip.bytes.length = 0 then ['<', 'n', 'i', 'l', '>'] else ip.emptyString

/-! ### Equality -/

/-- `IP.Equal` compares the 16-byte forms. -/
theorem equal_iff {a b : IP} : a.equal b = true ↔ a.to16 = b.to16 := by
  have hsplit : ∀ x y : Bytes, x.length = 16 → y.length = 4 →
      (x = v4InV6Prefix ++ y ↔ x.take 12 = v4InV6Prefix ∧ x.drop 12 = y) := by
    intro x y _ _
    constructor
    · rintro rfl
      exact ⟨List.take_left' rfl, List.drop_left' rfl⟩
    · rintro ⟨hp, hy⟩
      rw [← hp, ← hy, List.take_append_drop]
  unfold equal to16
  -- the nine pairs of lengths; mixed ones compare through the prefix
  rcases a.len_ok with ha | ha | ha <;> rcases b.len_ok with hb | hb | hb <;>
    simp only [ha, hb, if_true, if_false, decide_eq_true_eq, Option.some.injEq, reduceCtorEq,
      Nat.reduceEqDiff, and_self, and_true, and_false, OfNat.ofNat_ne_zero,
      OfNat.zero_ne_ofNat, List.append_cancel_left_eq, Bool.false_eq_true, iff_true]
  · rw [List.eq_nil_of_length_eq_zero ha, List.eq_nil_of_length_eq_zero hb]
  · rw [eq_comm (b := b.bytes), hsplit _ _ hb ha, eq_comm (a := a.bytes)]
  · rw [hsplit _ _ ha hb]

theorem equal_refl (a : IP) : a.equal a = true := equal_iff.mpr rfl

/-- The 4-byte form is what follows the prefix of the 16-byte form. -/
theorem to16_of_to4 {a : IP} {b : Bytes} (h : a.to4 = some b) :
    a.to16 = some (v4InV6Prefix ++ b) ∧ b.length = 4 := by
  unfold to4 at h
  split_ifs at h with h4 h16
  · cases h
    exact ⟨by simp [to16, h4], h4⟩
  · cases h
    have hcat : v4InV6Prefix ++ a.bytes.drop 12 = a.bytes := by
      rw [← h16.2, List.take_append_drop]
    refine ⟨?_, by simp [h16.1]⟩
    rw [hcat]
    simp [to16, h16.1]

/-- A non-nil address that is not IPv4 has 16 bytes. -/
theorem to16_of_to4_none {a : IP} (h : a.to4 = none) (hne : a.bytes.length ≠ 0) :
    a.to16 = some a.bytes ∧ a.bytes.length = 16 := by
  rcases a.len_ok with h0 | h4 | h16
  · exact absurd h0 hne
  · simp [to4, h4] at h
  · exact ⟨by simp [to16, h16], h16⟩

end IP

/-! ## UDP addresses -/

/-- A `net.UDPAddr`. -/
structure UDPAddr where
  ip : IP
  port : UInt16
  zone : Text
deriving DecidableEq

namespace UDPAddr

/-- Equal IP and equal port: the test by which a gossip sync finds its sender's old routes. -/
def sameEndpoint (a b : UDPAddr) : Bool := a.ip.equal b.ip && a.port == b.port

/-- `net.JoinHostPort`. -/
def joinHostPort (host port : Text) : Text :=
  if ':' ∈ host then '[' :: host ++ ']' :: ':' :: port else host ++ ':' :: port

/-- `UDPAddr.String`. -/
def string (a : UDPAddr) : Text :=
  if a.zone ≠ [] then
    joinHostPort (a.ip.emptyString ++ '%' :: a.zone) (IP.decimal a.port.toNat)
  else joinHostPort a.ip.emptyString (IP.decimal a.port.toNat)

theorem sameEndpoint_iff {a b : UDPAddr} :
    a.sameEndpoint b = true ↔ a.ip.to16 = b.ip.to16 ∧ a.port = b.port := by
  simp [sameEndpoint, IP.equal_iff]

@[simp] theorem sameEndpoint_refl (a : UDPAddr) : a.sameEndpoint a = true :=
  sameEndpoint_iff.mpr ⟨rfl, rfl⟩

theorem sameEndpoint_symm {a b : UDPAddr} (h : a.sameEndpoint b = true) :
    b.sameEndpoint a = true := by
  rw [sameEndpoint_iff] at h ⊢
  exact ⟨h.1.symm, h.2.symm⟩

theorem sameEndpoint_comm (a b : UDPAddr) : a.sameEndpoint b = b.sameEndpoint a := by
  rw [Bool.eq_iff_iff]
  exact ⟨sameEndpoint_symm, sameEndpoint_symm⟩

theorem sameEndpoint_trans {a b c : UDPAddr} (h₁ : a.sameEndpoint b = true)
    (h₂ : b.sameEndpoint c = true) : a.sameEndpoint c = true := by
  rw [sameEndpoint_iff] at h₁ h₂ ⊢
  exact ⟨h₁.1.trans h₂.1, h₁.2.trans h₂.2⟩

/-- Two addresses of one endpoint match the same addresses. -/
theorem sameEndpoint_congr {a b : UDPAddr} (h : a.sameEndpoint b = true) (c : UDPAddr) :
    c.sameEndpoint a = c.sameEndpoint b := by
  rw [Bool.eq_iff_iff]
  constructor
  · intro hca
    exact sameEndpoint_trans hca h
  · intro hcb
    exact sameEndpoint_trans hcb (sameEndpoint_symm h)

end UDPAddr

end PilotBeacon.Net
