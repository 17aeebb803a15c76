import Mathlib.Data.Bool.Basic

/-!
# Timers with a Channel

A Go `time.Timer` made by `NewTimer`: armed, it sends one value on its channel when its time has
come. A value that was sent and not received is pending. Whether `Stop` and `Reset` also take a
pending value out of the channel depends on the Go version (they do since Go 1.23); the idiom
`if !t.Stop() { select { case <-t.C: default: } }` leaves nothing behind in both.
-/

namespace PilotBeacon.Lib

structure Timer where
  armed : Bool
  pending : Bool
deriving DecidableEq

namespace Timer

/-- Stopped, and nothing to receive. -/
def idle : Timer := ⟨false, false⟩

/-- `NewTimer`. -/
def new : Timer := ⟨true, false⟩

/-- The time of an armed timer has come. -/
def expire (t : Timer) : Timer := if t.armed then ⟨false, true⟩ else t

/-- `Stop`, and whether it reports that it stopped the timer. -/
def stop (clears : Bool) (t : Timer) : Timer × Bool :=
  (⟨false, t.pending && !clears⟩, t.armed || clears && t.pending)

/-- A receive that does not wait. -/
def tryRecv (t : Timer) : Timer := { t with pending := false }

/-- `if !t.Stop() { select { case <-t.C: default: } }` -/
def stopAndDrain (clears : Bool) (t : Timer) : Timer :=
  if (t.stop clears).2 then (t.stop clears).1 else (t.stop clears).1.tryRecv

/-- `Reset`. -/
def reset (clears : Bool) (t : Timer) : Timer := ⟨true, t.pending && !clears⟩

/-- The timer will send or has sent. -/
def live (t : Timer) : Bool := t.armed || t.pending

/-- It does not do both: there is one value at most. -/
def Single (t : Timer) : Prop := ¬ (t.armed = true ∧ t.pending = true)

theorem single_idle : idle.Single := fun h => Bool.false_ne_true h.1

theorem eq_idle_of_not_live {t : Timer} (h : t.live = false) : t = idle := by
  obtain ⟨armed, pending⟩ := t
  rw [live, Bool.or_eq_false_iff] at h
  rw [idle, mk.injEq]
  exact h

theorem live_expire (t : Timer) : t.expire.live = t.live := by
  obtain ⟨armed, pending⟩ := t
  cases armed <;> rfl

theorem Single.expire {t : Timer} (h : t.Single) : t.expire.Single := by
  obtain ⟨armed, pending⟩ := t
  cases armed with
  | false => exact h
  | true => exact fun h => Bool.false_ne_true h.1

theorem Single.not_armed {t : Timer} (h : t.Single) (hpending : t.pending = true) :
    t.armed = false := by
  cases harmed : t.armed with
  | false => rfl
  | true => exact absurd ⟨harmed, hpending⟩ h

/-- The idiom leaves the timer idle, in every version of Go. -/
theorem Single.stopAndDrain {t : Timer} (h : t.Single) (clears : Bool) :
    t.stopAndDrain clears = idle := by
  obtain ⟨armed, pending⟩ := t
  cases armed with
  | false => cases clears <;> cases pending <;> rfl
  | true =>
    cases pending with
    | false => cases clears <;> rfl
    | true => exact absurd ⟨rfl, rfl⟩ h

theorem reset_idle (clears : Bool) : idle.reset clears = new := by
  cases clears <;> rfl

/-- A timer that has sent is idle once its value is received. -/
theorem Single.tryRecv {t : Timer} (h : t.Single) (hpending : t.pending = true) :
    t.tryRecv = idle := by
  rw [Timer.tryRecv, h.not_armed hpending]
  rfl

end Timer

end PilotBeacon.Lib
