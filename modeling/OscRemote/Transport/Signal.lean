/-!
# Signals

A signal is a semaphore with one permit, on which one worker waits.  A notification wakes the
worker if it is parked on the signal, and otherwise is kept as the permit; two notifications that
find nobody parked are kept as one.
-/

namespace OscRemote

/-- What a worker does at a signal. -/
inductive Waiter where
  | absent
  | parked
  | woken
deriving DecidableEq, Repr

/-- A signal. -/
structure Signal where
  permit : Bool := false
  waiter : Waiter := .absent
deriving DecidableEq, Repr

namespace Signal

variable (s : Signal)

/-- Notifies the worker. -/
def notify : Signal :=
  match s.waiter with
  | .parked => { s with waiter := .woken }
  | _ => { s with permit := true }

/-- Whether the worker can go on. -/
def isReady : Bool := s.permit || s.waiter == .woken

/-- Parks the worker, unless it can go on. -/
def park? : Option Signal :=
  if s.waiter = .absent ∧ s.permit = false then some { s with waiter := .parked } else none

/-- The worker goes on: by the notification that woke it, or else by the permit. -/
def receive? : Option Signal :=
  match s.waiter, s.permit with
  | .woken, _ => some { s with waiter := .absent }
  | .absent, true => some { s with permit := false }
  | _, _ => none

/-- The worker waits no longer, for another reason; a notification that has woken it is kept. -/
def leave : Signal :=
  { permit := s.permit || s.waiter == .woken, waiter := .absent }

@[simp] theorem isReady_notify : s.notify.isReady = true := by
  rcases s with ⟨permit, waiter⟩
  cases waiter <;> simp [notify, isReady]

@[simp] theorem isReady_leave : s.leave.isReady = s.isReady := by
  simp [leave, isReady]

end Signal

end OscRemote
