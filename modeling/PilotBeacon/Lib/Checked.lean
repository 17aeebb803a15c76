import PilotBeacon.Lib.BigEndian

/-!
# Checked Access to Slices

Index and slice expressions of Go, and the calls that check an index of their own: `none` is a
run-time panic. A computation in `Option` that uses these for every access is `some` exactly if
none of its accesses is out of range.

- reading: `index`, `slice`, `sliceFrom`, `uint64`, `field16`, `field32`
- writing: `store`, `putUint16`, `putUint32`, `copyTo`, all of them a `write` of some bytes at an
  offset
- `fill`: a buffer that is filled from the left, one write behind the other
-/

namespace PilotBeacon.Lib

namespace Checked

variable {α : Type}

/-! ## Reading -/

/-- `b[i]` -/
def index (b : List α) (i : Nat) : Option α := b[i]?

/-- `b[lo:hi]` -/
def slice (b : List α) (lo hi : Nat) : Option (List α) :=
  if lo ≤ hi ∧ hi ≤ b.length then some ((b.take hi).drop lo) else none

/-- `b[lo:]` -/
def sliceFrom (b : List α) (lo : Nat) : Option (List α) := slice b lo b.length

/-- `binary.BigEndian.Uint16(b)` -/
def uint16 (b : Bytes) : Option UInt16 :=
  if 2 ≤ b.length then some (BigEndian.uint16 b) else none

/-- `binary.BigEndian.Uint32(b)` -/
def uint32 (b : Bytes) : Option UInt32 :=
  if 4 ≤ b.length then some (BigEndian.uint32 b) else none

/-- `binary.BigEndian.Uint64(b)` -/
def uint64 (b : Bytes) : Option Nat :=
  if 8 ≤ b.length then some (BigEndian.uint (b.take 8)) else none

theorem sliceFrom_eq {b : List α} {lo : Nat} (h : lo ≤ b.length) :
    sliceFrom b lo = some (b.drop lo) := by
  rw [sliceFrom, slice, if_pos ⟨h, Nat.le_refl _⟩, List.take_length]

theorem slice_eq {b : List α} {lo hi : Nat} (hle : lo ≤ hi) (hhi : hi ≤ b.length) :
    slice b lo hi = some ((b.drop lo).take (hi - lo)) := by
  rw [slice, if_pos ⟨hle, hhi⟩, List.take_drop, Nat.add_sub_cancel' hle]

/-- `binary.BigEndian.Uint16(b[lo:lo+2])` -/
def field16 (b : Bytes) (lo : Nat) : Option UInt16 := (slice b lo (lo + 2)).bind uint16

/-- `binary.BigEndian.Uint32(b[lo:lo+4])` -/
def field32 (b : Bytes) (lo : Nat) : Option UInt32 := (slice b lo (lo + 4)).bind uint32

theorem field16_eq {b : Bytes} {lo : Nat} (h : lo + 2 ≤ b.length) :
    field16 b lo = some (BigEndian.uint16 (b.drop lo)) := by
  have hlen : ((b.drop lo).take 2).length = 2 := by
    rw [List.length_take, List.length_drop]
    omega
  rw [field16, slice_eq (by omega) h, Nat.add_sub_cancel_left, Option.bind_some, uint16,
    if_pos hlen.ge, BigEndian.uint16, BigEndian.uint16, List.take_take, Nat.min_self]

theorem field32_eq {b : Bytes} {lo : Nat} (h : lo + 4 ≤ b.length) :
    field32 b lo = some (BigEndian.uint32 (b.drop lo)) := by
  have hlen : ((b.drop lo).take 4).length = 4 := by
    rw [List.length_take, List.length_drop]
    omega
  rw [field32, slice_eq (by omega) h, Nat.add_sub_cancel_left, Option.bind_some, uint32,
    if_pos hlen.ge, BigEndian.uint32, BigEndian.uint32, List.take_take, Nat.min_self]

/-! ## Writing -/

/-- The slice with `src` written at offset `off`. -/
def write (b : List α) (off : Nat) (src : List α) : Option (List α) :=
  if off + src.length ≤ b.length then some (b.take off ++ src ++ b.drop (off + src.length))
  else none

/-- `b[i] = x` -/
def store (b : List α) (i : Nat) (x : α) : Option (List α) := write b i [x]

/-- `copy(b[lo:hi], src)` -/
def copyTo (b : List α) (lo hi : Nat) (src : List α) : Option (List α) :=
  if lo ≤ hi ∧ hi ≤ b.length then write b lo (src.take (hi - lo)) else none

/-- `binary.BigEndian.PutUint16(b[lo:hi], x)` -/
def putUint16 (b : Bytes) (lo hi : Nat) (x : UInt16) : Option Bytes :=
  if lo + 2 ≤ hi ∧ hi ≤ b.length then write b lo (BigEndian.putUint16 x) else none

/-- `binary.BigEndian.PutUint32(b[lo:hi], x)` -/
def putUint32 (b : Bytes) (lo hi : Nat) (x : UInt32) : Option Bytes :=
  if lo + 4 ≤ hi ∧ hi ≤ b.length then write b lo (BigEndian.putUint32 x) else none

/-! ## Filling a buffer from the left -/

/-- `buf` with its first places taken by `a`. -/
def fill (a buf : List α) : List α := a ++ buf.drop a.length

theorem fill_full {a buf : List α} (h : buf.length ≤ a.length) : fill a buf = a := by
  rw [fill, List.drop_of_length_le h, List.append_nil]

theorem length_fill {a buf : List α} (h : a.length ≤ buf.length) :
    (fill a buf).length = buf.length := by
  rw [fill, List.length_append, List.length_drop]
  omega

/-- What is written right behind what is there already. -/
theorem write_fill {a buf src : List α} (h : a.length + src.length ≤ buf.length) :
    write (fill a buf) a.length src = some (fill (a ++ src) buf) := by
  rw [write, if_pos (by rw [length_fill (by omega)]; exact h), fill, List.take_left,
    ← List.drop_drop, List.drop_left, List.drop_drop, fill, List.length_append]

theorem store_fill {a buf : List α} {i : Nat} {x : α} (hi : a.length = i) (h : i < buf.length) :
    store (fill a buf) i x = some (fill (a ++ [x]) buf) := by
  subst hi
  exact write_fill h

theorem copyTo_fill {a buf src : List α} {lo hi : Nat} (hlo : a.length = lo)
    (hhi : lo + src.length = hi) (h : hi ≤ buf.length) :
    copyTo (fill a buf) lo hi src = some (fill (a ++ src) buf) := by
  subst hlo hhi
  rw [copyTo, if_pos ⟨Nat.le_add_right _ _, by rw [length_fill (by omega)]; exact h⟩,
    Nat.add_sub_cancel_left, List.take_length, write_fill h]

/-- `copy(b[lo:], src)` of what fills the buffer. -/
theorem copyTo_last {a buf src : List α} {lo : Nat} (hlo : a.length = lo)
    (h : buf.length = lo + src.length) :
    copyTo (fill a buf) lo (fill a buf).length src = some (a ++ src) := by
  have hlen : (fill a buf).length = buf.length := length_fill (by omega)
  rw [hlen, copyTo_fill hlo h.symm (Nat.le_refl _),
    fill_full (by rw [List.length_append]; omega)]

theorem putUint16_fill {a buf : Bytes} {lo hi : Nat} {x : UInt16} (hlo : a.length = lo)
    (hle : lo + 2 ≤ hi) (h : hi ≤ buf.length) :
    putUint16 (fill a buf) lo hi x = some (fill (a ++ BigEndian.putUint16 x) buf) := by
  subst hlo
  rw [putUint16, if_pos ⟨hle, by rw [length_fill (by omega)]; exact h⟩,
    write_fill (by rw [BigEndian.length_putUint16]; omega)]

theorem putUint32_fill {a buf : Bytes} {lo hi : Nat} {x : UInt32} (hlo : a.length = lo)
    (hle : lo + 4 ≤ hi) (h : hi ≤ buf.length) :
    putUint32 (fill a buf) lo hi x = some (fill (a ++ BigEndian.putUint32 x) buf) := by
  subst hlo
  rw [putUint32, if_pos ⟨hle, by rw [length_fill (by omega)]; exact h⟩,
    write_fill (by rw [BigEndian.length_putUint32]; omega)]

end Checked

end PilotBeacon.Lib
