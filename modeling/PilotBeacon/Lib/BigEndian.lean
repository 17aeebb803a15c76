import Mathlib.Data.List.Induction
import Mathlib.Data.Nat.ModEq
import Mathlib.Tactic.Ring

/-!
# Big-Endian Fields

Fixed-width unsigned integers in network byte order, as Go's `binary.BigEndian`
reads and writes them.

- `putUint` / `uint`: `w` bytes from a natural, and back
- `uint_putUint`: what is written is read, modulo the width
- `putUint16`, `putUint32`, `uint16`, `uint32`: the widths the wire format uses
- `putUint32s`, `uint32s`: lists of 32-bit fields
-/

namespace PilotBeacon.Lib

/-- A byte string. -/
abbrev Bytes := List UInt8

namespace BigEndian

/-! ## Any width -/

/-- The `w` low-order bytes of `n`, most significant first. -/
def putUint : Nat → Nat → Bytes
  | 0, _ => []
  | w + 1, n => putUint w (n / 256) ++ [UInt8.ofNat (n % 256)]

/-- The natural whose big-endian digits are the given bytes. -/
def uint (b : Bytes) : Nat := b.foldl (fun acc x => acc * 256 + x.toNat) 0

@[simp] theorem length_putUint (w n : Nat) : (putUint w n).length = w := by
  induction w generalizing n with
  | zero => rfl
  | succ w ih => simp [putUint, ih]

theorem uint_append_singleton (b : Bytes) (x : UInt8) :
    uint (b ++ [x]) = uint b * 256 + x.toNat := by
  simp [uint, List.foldl_append]

/-- Reading back a written field gives the value modulo the field's width. -/
theorem uint_putUint (w n : Nat) : uint (putUint w n) = n % 256 ^ w := by
  induction w generalizing n with
  | zero => simp [putUint, uint, Nat.mod_one]
  | succ w ih =>
    have hbyte : (UInt8.ofNat (n % 256)).toNat = n % 256 := by
      rw [UInt8.toNat_ofNat']
      exact Nat.mod_eq_of_lt (by have := Nat.mod_lt n (show 0 < 256 by omega); omega)
    -- the last byte is the remainder, the others are the quotient by induction
    rw [putUint, uint_append_singleton, ih, hbyte, pow_succ', Nat.mod_mul]
    ring

/-- Writing back what was read gives the bytes. -/
theorem putUint_uint (b : Bytes) : putUint b.length (uint b) = b := by
  induction b using List.reverseRecOn with
  | nil => rfl
  | append_singleton b x ih =>
    have hx : x.toNat < 256 := x.toNat_lt
    have hdiv : (uint b * 256 + x.toNat) / 256 = uint b := by omega
    have hmod : (uint b * 256 + x.toNat) % 256 = x.toNat := by omega
    rw [uint_append_singleton, List.length_append, List.length_singleton, putUint, hdiv, hmod,
      ih, UInt8.ofNat_toNat]

theorem uint_lt (b : Bytes) : uint b < 256 ^ b.length := by
  have h := uint_putUint b.length (uint b)
  rw [putUint_uint] at h
  rw [h]
  exact Nat.mod_lt _ (Nat.pow_pos (by omega))

/-! ## 16 and 32 bits -/

def putUint16 (x : UInt16) : Bytes := putUint 2 x.toNat

def putUint32 (x : UInt32) : Bytes := putUint 4 x.toNat

/-- Read the first two bytes. -/
def uint16 (b : Bytes) : UInt16 := UInt16.ofNat (uint (b.take 2))

/-- Read the first four bytes. -/
def uint32 (b : Bytes) : UInt32 := UInt32.ofNat (uint (b.take 4))

@[simp] theorem length_putUint16 (x : UInt16) : (putUint16 x).length = 2 := length_putUint 2 _

@[simp] theorem length_putUint32 (x : UInt32) : (putUint32 x).length = 4 := length_putUint 4 _

@[simp] theorem uint16_putUint16_append (x : UInt16) (rest : Bytes) :
    uint16 (putUint16 x ++ rest) = x := by
  have hlt : x.toNat < 256 ^ 2 := x.toNat_lt
  rw [uint16, List.take_left' (length_putUint16 x), putUint16, uint_putUint,
    Nat.mod_eq_of_lt hlt, UInt16.ofNat_toNat]

@[simp] theorem uint32_putUint32_append (x : UInt32) (rest : Bytes) :
    uint32 (putUint32 x ++ rest) = x := by
  have hlt : x.toNat < 256 ^ 4 := x.toNat_lt
  rw [uint32, List.take_left' (length_putUint32 x), putUint32, uint_putUint,
    Nat.mod_eq_of_lt hlt, UInt32.ofNat_toNat]

theorem putUint32_uint32 {b : Bytes} (h : 4 ≤ b.length) : putUint32 (uint32 b) = b.take 4 := by
  have hlen : (b.take 4).length = 4 := List.length_take_of_le h
  have hlt : uint (b.take 4) < 2 ^ 32 := by
    have := uint_lt (b.take 4)
    rwa [hlen] at this
  have hput := putUint_uint (b.take 4)
  rw [hlen] at hput
  rw [putUint32, uint32, UInt32.toNat_ofNat_of_lt' hlt, hput]

/-- Skipping a written 32-bit field leaves the rest. -/
@[simp] theorem drop_putUint32_append (x : UInt32) (rest : Bytes) :
    (putUint32 x ++ rest).drop 4 = rest :=
  List.drop_left' (length_putUint32 x)

/-- Skipping a written 16-bit field leaves the rest. -/
@[simp] theorem drop_putUint16_append (x : UInt16) (rest : Bytes) :
    (putUint16 x ++ rest).drop 2 = rest :=
  List.drop_left' (length_putUint16 x)

/-- A field is read from the first bytes, whatever follows. -/
theorem uint16_append {b : Bytes} (h : 2 ≤ b.length) (rest : Bytes) :
    uint16 (b ++ rest) = uint16 b := by
  rw [uint16, uint16, List.take_append_of_le_length h]

theorem uint32_append {b : Bytes} (h : 4 ≤ b.length) (rest : Bytes) :
    uint32 (b ++ rest) = uint32 b := by
  rw [uint32, uint32, List.take_append_of_le_length h]

/-! ## Lists of 32-bit fields -/

/-- The values one after the other. -/
def putUint32s (xs : List UInt32) : Bytes := xs.flatMap putUint32

/-- Read `n` values. -/
def uint32s : Nat → Bytes → List UInt32
  | 0, _ => []
  | n + 1, b => uint32 b :: uint32s n (b.drop 4)

@[simp] theorem length_putUint32s (xs : List UInt32) : (putUint32s xs).length = 4 * xs.length := by
  induction xs with
  | nil => rfl
  | cons x xs ih =>
    simp only [putUint32s, List.flatMap_cons, List.length_append, length_putUint32,
      List.length_cons] at ih ⊢
    omega

@[simp] theorem length_uint32s (n : Nat) (b : Bytes) : (uint32s n b).length = n := by
  induction n generalizing b with
  | zero => rfl
  | succ n ih => rw [uint32s, List.length_cons, ih]

/-- The last of the values that are read. -/
theorem uint32s_succ (n : Nat) (b : Bytes) :
    uint32s (n + 1) b = uint32s n b ++ [uint32 (b.drop (4 * n))] := by
  induction n generalizing b with
  | zero => rfl
  | succ n ih =>
    rw [uint32s, ih, uint32s, List.drop_drop, List.cons_append, Nat.mul_succ, Nat.add_comm 4]

theorem uint32s_append {n : Nat} {b : Bytes} (h : 4 * n ≤ b.length) (rest : Bytes) :
    uint32s n (b ++ rest) = uint32s n b := by
  induction n generalizing b with
  | zero => rfl
  | succ n ih =>
    have hdrop : 4 * n ≤ (b.drop 4).length := by
      rw [List.length_drop]
      omega
    rw [uint32s, uint32s, uint32_append (by omega), List.drop_append_of_le_length (by omega),
      ih hdrop]

/-- Reading as many values as were written gives them back, whatever follows. -/
theorem uint32s_putUint32s_append (xs : List UInt32) (rest : Bytes) :
    uint32s xs.length (putUint32s xs ++ rest) = xs := by
  induction xs with
  | nil => rfl
  | cons x xs ih =>
    have hcons : putUint32s (x :: xs) ++ rest = putUint32 x ++ (putUint32s xs ++ rest) := by
      simp [putUint32s]
    rw [hcons, List.length_cons, uint32s, uint32_putUint32_append, drop_putUint32_append, ih]

end BigEndian

end PilotBeacon.Lib
