import Mathlib.Logic.Basic

/-!
# A notification that one task waits for

Notifying one task wakes the one that waits, or leaves a permit for the next that will. Notifying
the waiters wakes the task if it waits and leaves nothing. A wait begins when it is enabled,
before the task sleeps.
-/

/-- Where a wait stands. It may have taken a permit at once, or have been notified since. -/
inductive Waiter
  | absent
  | permitted
  | waiting
  | notified (one : Bool)
deriving DecidableEq

structure Notify where
  permit : Bool
  waiter : Waiter
deriving DecidableEq

namespace Notify

def new : Notify := ⟨false, .absent⟩

def enable (ready : Notify) : Notify :=
  if ready.permit then ⟨false, .permitted⟩ else ⟨false, .waiting⟩

def notifyOne (ready : Notify) : Notify :=
  match ready.waiter with
  | .waiting => { ready with waiter := .notified true }
  | _ => { ready with permit := true }

def notifyWaiters (ready : Notify) : Notify :=
  match ready.waiter with
  | .waiting => { ready with waiter := .notified false }
  | _ => ready

/-- The wait is over. -/
def isReady (ready : Notify) : Bool :=
  match ready.waiter with
  | .absent => false
  | .permitted => true
  | .waiting => false
  | .notified _ => true

/-- The task has seen that the wait is over. -/
def finish (ready : Notify) : Notify :=
  { ready with waiter := .absent }

/-- The wait is given up. A notification for one task that was not seen is passed on. -/
def cancel (ready : Notify) : Notify :=
  match ready.waiter with
  | .notified true => ⟨true, .absent⟩
  | _ => { ready with waiter := .absent }

theorem enable_present (ready : Notify) : ready.enable.waiter ≠ .absent := by
  rw [enable]
  split
  · exact nofun
  · exact nofun

theorem notifyOne_present {ready : Notify} (present : ready.waiter ≠ .absent) :
    ready.notifyOne.waiter ≠ .absent ∧ ready.notifyOne.isReady = true := by
  obtain ⟨permit, waiter⟩ := ready
  cases waiter with
  | absent => exact absurd rfl present
  | permitted => exact ⟨nofun, rfl⟩
  | waiting => exact ⟨nofun, rfl⟩
  | notified one => exact ⟨nofun, rfl⟩

theorem notifyWaiters_present {ready : Notify} (present : ready.waiter ≠ .absent) :
    ready.notifyWaiters.waiter ≠ .absent ∧ ready.notifyWaiters.isReady = true := by
  obtain ⟨permit, waiter⟩ := ready
  cases waiter with
  | absent => exact absurd rfl present
  | permitted => exact ⟨nofun, rfl⟩
  | waiting => exact ⟨nofun, rfl⟩
  | notified one => exact ⟨nofun, rfl⟩

end Notify
