import HostCalls.Call.Code

/-!
# Tick outcomes

What one tick of the gate came to, unless guest memory faulted.
-/
namespace HostCalls

/-- The end of a tick. -/
inductive Outcome where
  /-- No request was pending. -/
  | idle
  /-- The request has to wait; the next tick looks at it again. -/
  | retry
  /-- The request was answered and the gate is idle again. -/
  | completed
  /-- The request failed and `control` is still set. Unless the guest clears it, the next tick takes
  up the request in the registers, which may then succeed. -/
  | failed (code : ErrorCode)
deriving DecidableEq

def Outcome.inspect : Outcome → String
  | idle => "Idle"
  | retry => "Retry"
  | completed => "Completed"
  | failed code => Inspect.tuple "Failed" code.inspect

end HostCalls
