import Mathlib.Logic.Function.Basic
import Mathlib.Tactic.SplitIfs

/-!
# Copy on Write

A table behind one pointer. Who wants to change it takes the lock, fills a fresh cell from the
table the pointer shows, edits that cell, and moves the pointer. Readers take no lock: they load
the pointer, and look into that cell as often and as late as they like.

- `Cow`: cells, pointer, lock and readers; `lock`, `copy`, `edit`, `publish`, `unlock`, `load`
- `Sound`: the cell that is being edited is shown neither by the pointer nor to a reader; kept
  by every operation
- `table_…`, `copied_…`: what is published is the table that was copied, with the edits
- `view_…`: what a reader looks at is the table as it was when the reader loaded the pointer
-/

namespace PilotBeacon.Lib

namespace CopyOnWrite

variable {T : Type}

structure Cow (T : Type) where
  cells : Nat → T
  /-- The cells from here on are unused. -/
  fresh : Nat
  root : Nat
  holder : Option Nat
  /-- The copy of whoever holds the lock. -/
  draft : Option Nat
  readers : Nat → Option Nat

namespace Cow

/-! ## Operations -/

def start (t : T) : Cow T where
  cells := fun _ => t
  fresh := 1
  root := 0
  holder := none
  draft := none
  readers := fun _ => none

def lock (c : Cow T) (w : Nat) : Cow T := { c with holder := some w }

/-- Load the pointer, and copy what it shows through `f`. -/
def copy (c : Cow T) (f : T → T) : Cow T :=
  { c with
    cells := Function.update c.cells c.fresh (f (c.cells c.root))
    fresh := c.fresh + 1
    draft := some c.fresh }

/-- Write to the copy. -/
def edit (c : Cow T) (f : T → T) : Cow T :=
  match c.draft with
  | some d => { c with cells := Function.update c.cells d (f (c.cells d)) }
  | none => c

/-- Move the pointer to the copy. -/
def publish (c : Cow T) : Cow T :=
  match c.draft with
  | some d => { c with root := d, draft := none }
  | none => c

/-- A copy that was not published is garbage. -/
def unlock (c : Cow T) : Cow T := { c with holder := none, draft := none }

def load (c : Cow T) (r : Nat) : Cow T :=
  { c with readers := Function.update c.readers r (some c.root) }

/-- What the pointer shows. -/
def table (c : Cow T) : T := c.cells c.root

/-- The copy, if there is one. -/
def copied (c : Cow T) : Option T := c.draft.map c.cells

/-- What reader `r` looks at. -/
def view (c : Cow T) (r : Nat) : Option T := (c.readers r).map c.cells

@[simp] theorem holder_start (t : T) : (start t).holder = none := rfl

@[simp] theorem holder_lock (c : Cow T) (w : Nat) : (c.lock w).holder = some w := rfl

@[simp] theorem holder_copy (c : Cow T) (f : T → T) : (c.copy f).holder = c.holder := rfl

@[simp] theorem holder_edit (c : Cow T) (f : T → T) : (c.edit f).holder = c.holder := by
  unfold edit
  split <;> rfl

@[simp] theorem holder_publish (c : Cow T) : c.publish.holder = c.holder := by
  unfold publish
  split <;> rfl

@[simp] theorem holder_unlock (c : Cow T) : c.unlock.holder = none := rfl

@[simp] theorem holder_load (c : Cow T) (r : Nat) : (c.load r).holder = c.holder := rfl

end Cow

/-! ## Nobody looks at the copy -/

/-- Cells in use were handed out, and the copy is only the holder's. -/
structure Sound (c : Cow T) : Prop where
  root : c.root < c.fresh
  readers : ∀ r p, c.readers r = some p → p < c.fresh
  draft : ∀ d, c.draft = some d → d < c.fresh ∧ d ≠ c.root ∧ ∀ r, c.readers r ≠ some d

theorem sound_start (t : T) : Sound (Cow.start t) where
  root := Nat.zero_lt_one
  readers := fun _ _ h => nomatch h
  draft := fun _ h => nomatch h

namespace Sound

variable {c : Cow T}

theorem lock (h : Sound c) (w : Nat) : Sound (c.lock w) := ⟨h.root, h.readers, h.draft⟩

theorem unlock (h : Sound c) : Sound c.unlock := ⟨h.root, h.readers, fun _ h => nomatch h⟩

theorem copy (h : Sound c) (f : T → T) : Sound (c.copy f) where
  root := Nat.lt_succ_of_lt h.root
  readers := fun r p hp => Nat.lt_succ_of_lt (h.readers r p hp)
  draft := by
    intro d hd
    cases hd
    refine ⟨Nat.lt_succ_self _, Nat.ne_of_gt h.root, ?_⟩
    intro r hr
    exact Nat.lt_irrefl _ (h.readers r _ hr)

theorem edit (h : Sound c) (f : T → T) : Sound (c.edit f) := by
  unfold Cow.edit
  split
  · exact ⟨h.root, h.readers, h.draft⟩
  · exact h

theorem publish (h : Sound c) : Sound c.publish := by
  unfold Cow.publish
  split
  · rename_i d hd
    exact ⟨(h.draft d hd).1, h.readers, fun _ h => nomatch h⟩
  · exact h

theorem load (h : Sound c) (r : Nat) : Sound (c.load r) where
  root := h.root
  readers := by
    intro r' p hp
    simp only [Cow.load, Function.update_apply] at hp
    split_ifs at hp
    · cases hp
      exact h.root
    · exact h.readers r' p hp
  draft := by
    intro d hd
    obtain ⟨hlt, hroot, hreaders⟩ := h.draft d hd
    refine ⟨hlt, hroot, ?_⟩
    intro r'
    simp only [Cow.load, Function.update_apply]
    split_ifs
    · intro heq
      cases heq
      exact hroot rfl
    · exact hreaders r'

/-! ## What a step does to the table and the copy -/

theorem table_copy (h : Sound c) (f : T → T) : (c.copy f).table = c.table :=
  Function.update_of_ne (Nat.ne_of_lt h.root) ..

/-- The copy is the table, through `f`. -/
theorem copied_copy (f : T → T) : (c.copy f).copied = some (f c.table) := by
  simp [Cow.copied, Cow.copy, Cow.table]

theorem table_edit (h : Sound c) (f : T → T) : (c.edit f).table = c.table := by
  unfold Cow.edit
  split
  · rename_i d hd
    exact Function.update_of_ne (h.draft d hd).2.1.symm ..
  · rfl

theorem copied_edit (f : T → T) : (c.edit f).copied = c.copied.map f := by
  unfold Cow.edit Cow.copied
  cases hd : c.draft with
  | none => simp [hd]
  | some d => simp

/-- What is published is the copy. -/
theorem table_publish {t : T} (ht : c.copied = some t) : c.publish.table = t := by
  obtain ⟨d, hd, rfl⟩ := Option.map_eq_some_iff.mp ht
  simp [Cow.publish, hd, Cow.table]

/-! ## What a step does to what a reader sees -/

theorem view_copy (h : Sound c) (f : T → T) (r : Nat) : (c.copy f).view r = c.view r := by
  unfold Cow.view
  apply Option.map_congr
  intro p hp
  exact Function.update_of_ne (Nat.ne_of_lt (h.readers r p hp)) ..

/-- **Nobody sees an edit.** -/
theorem view_edit (h : Sound c) (f : T → T) (r : Nat) : (c.edit f).view r = c.view r := by
  unfold Cow.edit
  split
  · rename_i d hd
    apply Option.map_congr
    intro p hp
    refine Function.update_of_ne ?_ ..
    rintro rfl
    exact (h.draft p hd).2.2 r hp
  · rfl

theorem view_publish (r : Nat) : c.publish.view r = c.view r := by
  unfold Cow.publish
  split <;> rfl

theorem view_load (r r' : Nat) :
    (c.load r).view r' = if r' = r then some c.table else c.view r' := by
  unfold Cow.view Cow.load
  simp only [Function.update_apply]
  split_ifs <;> rfl

end Sound

end CopyOnWrite

end PilotBeacon.Lib
