import HostCalls.Call.Target
import HostCalls.Gate.Config
import HostCalls.Gate.Outcome
import HostCalls.Log.Record
import HostCalls.Memory.Fault
import HostCalls.Message.Basic

/-!
# Events

Everything that the host finds worth a log line, with the line it becomes. Operations
return the events they caused, in order, next to their result.
-/
namespace HostCalls

/-- Something that happened in the host. -/
inductive Event where
  /-- A machine is being made. -/
  | creating (npages : UInt64) (config : Config)
  /-- A cycle ended in a fault. -/
  | cycleFaulted (cycle : UInt64) (fault : Fault)
  /-- A service is being registered. -/
  | registering (id : ServiceId)
  /-- The registration took the place of an earlier one. -/
  | replaced (id : ServiceId)
  /-- A message was not accepted. -/
  | rejected (service : ServiceId) (error : SendError)
  /-- A request was copied in and is being dispatched. -/
  | dispatching (target : Target) (len : Nat)
  /-- The control channel does not know the operation. -/
  | unknownControl (code : UInt8)
  /-- The control channel has no use for the operation yet. -/
  | reserved (operation : ControlOperation) (len : Nat)
  /-- A service answered with too many bytes. -/
  | responseTooLong (len : Nat) (max : UInt64)
  /-- A message can never be delivered. -/
  | dropped (message : Message) (code : ErrorCode)
  /-- A dispatched request came to an end for this tick. -/
  | finished (target : Target) (result : Except Fault Outcome)

namespace Event

/-- The log record of an event. -/
def record : Event → Log.Record
  | creating npages config =>
    ⟨.debug, "vm::machine",
      s!"creating machine with {npages.toNat} pages of guest memory and {config.inspect}"⟩
  | cycleFaulted cycle fault =>
    ⟨.debug, "vm::machine", s!"cycle {cycle.toNat} faulted: {fault.message}"⟩
  | registering id => ⟨.info, "vm::calls::registry", s!"registering service {id.text}"⟩
  | replaced id =>
    ⟨.debug, "vm::calls::registry", s!"service {id.text} replaced an earlier registration"⟩
  | rejected service error =>
    ⟨.warn, "vm::calls::queue", s!"rejected message from service {service.text}: {error.message}"⟩
  | dispatching target len =>
    ⟨.trace, "vm::calls", s!"dispatching call to {target.inspect} with {len} request bytes"⟩
  | unknownControl code => ⟨.warn, "vm::calls", s!"unknown control operation {code.toNat}"⟩
  | reserved operation len =>
    ⟨.warn, "vm::calls::control",
      s!"control operation {operation.name} ({len} request bytes) is reserved but not implemented"⟩
  | responseTooLong len max =>
    ⟨.warn, "vm::calls",
      s!"response of {len} bytes exceeds the maximum payload length of {max.toNat}"⟩
  | dropped message code =>
    ⟨.warn, "vm::calls",
      s!"dropping undeliverable message of {message.payload.length} bytes from service " ++
        s!"{message.origin.text}: {code.text}"⟩
  | finished target result =>
    ⟨.debug, "vm::calls",
      s!"call to {target.inspect} finished with " ++
        Inspect.except Fault.inspect Outcome.inspect result⟩

end Event

/-- A value and the events that led to it. -/
structure Logged (α : Type) where
  value : α
  events : List Event

/-- What a logger writes about events. -/
def Log.Logger.report (logger : Log.Logger) (events : List Event) : String :=
  logger.writeAll (events.map Event.record)

end HostCalls
