import HostCalls.Event
import HostCalls.Lock.Basic

/-!
# The message queue

Messages wait for the guest in the order in which they were accepted. A payload that is too
long is turned away first, then anything that comes while the queue is full. A message that
was taken but not delivered goes back to the front, even when the queue is full.
-/
namespace HostCalls

/-- Waiting messages, oldest first, and the limits for new ones. -/
structure MessageQueue where
  messages : List Message
  capacity : UInt64
  maxPayloadLen : UInt64
deriving DecidableEq

/-- The end of an attempt to send. -/
structure Sent where
  result : Except SendError Unit
  queue : MessageQueue
  events : List Event

namespace MessageQueue

/-- An empty queue, which needs room for at least one message. -/
def withLimits (capacity maxPayloadLen : UInt64) : Except Abort MessageQueue :=
  if capacity.toNat = 0 then .error .queueCapacity else .ok ⟨[], capacity, maxPayloadLen⟩

/-- An empty queue for payloads of the usual length. -/
def ofCapacity (capacity : UInt64) : Except Abort MessageQueue :=
  withLimits capacity Layout.maxPayloadLen

/-- Number of waiting messages. -/
def length (queue : MessageQueue) : Nat := queue.messages.length

/-- Why a payload would not be accepted now. -/
def refusal? (queue : MessageQueue) (payload : Bytes) : Option SendError :=
  if queue.maxPayloadLen.toNat < payload.length then
    some (.tooLarge payload.length queue.maxPayloadLen)
  else if queue.capacity.toNat ≤ queue.length then some (.queueFull queue.capacity)
  else none

/-- Sends a payload through a sender. -/
def send (queue : MessageQueue) (sender : Sender) (payload : Bytes) : Sent :=
  match queue.refusal? payload with
  | some error => ⟨.error error, queue, [.rejected sender.service error]⟩
  | none =>
    ⟨.ok (), { queue with messages := queue.messages ++ [⟨sender.service, payload⟩] }, []⟩

/-- Takes the oldest message. -/
def popFront? (queue : MessageQueue) : Option (Message × MessageQueue) :=
  match queue.messages with
  | [] => none
  | message :: rest => some (message, { queue with messages := rest })

/-- Puts a message back to the front, whatever the limits. -/
def pushFront (queue : MessageQueue) (message : Message) : MessageQueue :=
  { queue with messages := message :: queue.messages }

/-- The inspection text shows the lock around the queue, which is free between operations. -/
def inspect (queue : MessageQueue) : String :=
  Inspect.record "MessageQueue" [("state", (Lock.new queue).inspect)]

end MessageQueue

/-- The inspection text of a sender of a queue. -/
def Sender.inspect (sender : Sender) (queue : MessageQueue) : String :=
  Inspect.record "Sender"
    [("service", sender.service.inspect), ("state", (Lock.new queue).inspect)]

end HostCalls
