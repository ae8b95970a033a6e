import HostCalls.Call.Code
import HostCalls.Message.Queue

/-!
# Services

A service answers requests and keeps a state of its own between them. While it works on a
request it may send messages and look at whether they were accepted; it has no other way to
reach the queue.
-/
namespace HostCalls

/-- Work that may send messages before it comes to a result. -/
inductive Activity (α : Type) where
  | done (result : α)
  | send (sender : Sender) (payload : Bytes) (next : Except SendError Unit → Activity α)

/-- The end of an activity: its result, the queue it leaves and what it caused. -/
structure Performed (α : Type) where
  result : α
  queue : MessageQueue
  events : List Event

namespace Activity

variable {α β : Type}

/-- Carries on with another activity. -/
def bind (first : Activity α) (next : α → Activity β) : Activity β :=
  match first with
  | done result => next result
  | send sender payload rest => .send sender payload fun sent => (rest sent).bind next

instance : Monad Activity where
  pure := done
  bind := bind

/-- Performs the sends of an activity on a queue. -/
def perform : Activity α → MessageQueue → Performed α
  | done result, queue => ⟨result, queue, []⟩
  | send sender payload next, queue =>
    let sent := queue.send sender payload
    let rest := (next sent.result).perform sent.queue
    ⟨rest.result, rest.queue, sent.events ++ rest.events⟩

end Activity

/-- States of services, with what they do on a request: the answer and the state after it. -/
class Service (σ : Type) where
  handle : σ → Bytes → Activity (CallResult × σ)

end HostCalls
