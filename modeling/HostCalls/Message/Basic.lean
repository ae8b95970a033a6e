import HostCalls.Bytes.Basic
import HostCalls.Call.ServiceId

/-!
# Messages

Services reach the guest on their own by sending messages. A message carries the id of the
sender it went through, so the guest can tell where it came from.
-/
namespace HostCalls

/-- A message on its way to the guest. -/
structure Message where
  origin : ServiceId
  payload : Bytes
deriving DecidableEq

/-- The right to send messages on behalf of one service, registered or not. A sender has no queue of
its own: all senders of a gate share the one queue of its registry, on which their sends are
performed one after the other. -/
structure Sender where
  service : ServiceId
deriving DecidableEq

/-- Why a message was not accepted. -/
inductive SendError where
  /-- The queue holds as many messages as it may. -/
  | queueFull (capacity : UInt64)
  /-- The payload is longer than any response may be. -/
  | tooLarge (len : Nat) (max : UInt64)
deriving DecidableEq, Repr

def Message.inspect (message : Message) : String :=
  Inspect.record "Message"
    [("origin", message.origin.inspect), ("payload", Inspect.byteList message.payload)]

namespace SendError

/-- What the error tells the sender. -/
def message : SendError → String
  | queueFull capacity =>
    s!"the message queue already holds its maximum of {capacity.toNat} messages"
  | tooLarge len max =>
    s!"a payload of {len} bytes exceeds the maximum payload length of {max.toNat}"

def inspect : SendError → String
  | queueFull capacity => Inspect.record "QueueFull" [("capacity", toString capacity.toNat)]
  | tooLarge len max =>
    Inspect.record "TooLarge" [("len", toString len), ("max", toString max.toNat)]

end SendError

end HostCalls
