import HostCalls.Text.Inspect

/-!
# The lock

A value behind a flag. Whoever swaps the flag from false to true holds the guard and alone
may touch the value; letting go of the guard stores false again.
-/
namespace HostCalls

/-- A value that one context at a time may use. -/
structure Lock (α : Type) where
  isLocked : Bool
  value : α
deriving DecidableEq, Repr

/-- The guard is held by someone else. -/
inductive LockError where
  | wouldBlock
deriving DecidableEq, Repr

def LockError.message : LockError → String
  | wouldBlock => "the lock is currently held by another context"

namespace Lock

variable {α : Type}

/-- A free lock. -/
def new (value : α) : Lock α := ⟨false, value⟩

/-- Swaps the flag for true and tells what it was. -/
def swap (lock : Lock α) : Bool × Lock α :=
  (lock.isLocked, { lock with isLocked := true })

/-- One attempt to take the guard. -/
def tryLock (lock : Lock α) : Except LockError (Lock α) :=
  let (wasLocked, swapped) := lock.swap
  if wasLocked then .error .wouldBlock else .ok swapped

/-- Lets go of the guard. -/
def release (lock : Lock α) : Lock α := { lock with isLocked := false }

/-- Changes the value, the lock staying as it is. -/
def update (lock : Lock α) (f : α → α) : Lock α := { lock with value := f lock.value }

/-- Takes the guard, uses the value and lets go again. While someone else holds the guard this
would wait, so there is no result. -/
def use? (lock : Lock α) (f : α → β × α) : Option (β × Lock α) :=
  match lock.tryLock with
  | .error _ => none
  | .ok held =>
    let (result, value) := f held.value
    some (result, { held with value }.release)

/-- The inspection text, which does not show the value. -/
def inspect (lock : Lock α) : String :=
  Inspect.openRecord "SpinLock" [("is_locked", if lock.isLocked then "true" else "false")]

end Lock

end HostCalls
