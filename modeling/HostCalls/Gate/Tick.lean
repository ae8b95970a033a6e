import HostCalls.Gate.Basic
import HostCalls.Memory.Guest

/-!
# One tick of the gate

A tick looks at `control`. If a request is pending, its bytes are copied in and it is
dispatched: to a service, to the control channel, or to nothing that is known. Then the
answer is reported in the registers and copied out. Only a complete success makes the gate
idle again. After an error `control` is as it was: unless the guest clears it, the next tick
takes up whatever request the registers then hold, and may complete it.

A polled message leaves the queue when the request is dispatched. It goes back to the front
if the guest's buffer was too small or the copy faulted. In between the queue is free for
other contexts, so a tick is made of two halves, `dispatch` and `finish`, with room for sends
by others between them.
-/
namespace HostCalls

/-- The end of a tick. -/
structure Ticked (σ μ : Type) where
  gate : Gate σ
  memory : μ
  result : Except Fault Outcome
  events : List Event

/-- What a dispatched request is answered with. -/
inductive Answer where
  /-- A response or an error. -/
  | reply (result : CallResult)
  /-- A message taken from the queue. -/
  | delivery (message : Message)

/-- A request between its dispatch and the report of its answer. -/
structure InFlight (σ μ : Type) where
  gate : Gate σ
  memory : μ
  request : Request
  target : Target
  answer : Answer
  events : List Event

/-- The first half of a tick: it is over already, or an answer awaits its report. -/
inductive Dispatched (σ μ : Type) where
  | ended (ticked : Ticked σ μ)
  | inFlight (call : InFlight σ μ)

namespace Gate

variable {σ μ : Type}

/-- Reports an error and leaves `control` alone. -/
def fail (gate : Gate σ) (memory : μ) (code : ErrorCode) : Except Abort (Ticked σ μ) := do
  let gate ← gate.writeRegisters (Layout.responseCode.write code.raw)
  return ⟨gate, memory, .ok (.failed code), []⟩

/-- Reports a response. Its length is reported even if the guest's buffer is too small, so that
the guest can provide a larger one. -/
def respond [GuestMemory μ] (gate : Gate σ) (memory : μ) (request : Request) (response : Bytes) :
    Except Abort (Ticked σ μ) :=
  if gate.config.maxPayloadLen.toNat < response.length then do
    let ticked ← gate.fail memory GateCode.internalError.error
    return { ticked with events := [.responseTooLong response.length gate.config.maxPayloadLen] }
  else do
    let len : UInt32 := .ofNat response.length
    let gate ← gate.writeRegisters (Layout.responseLen.write len)
    if request.responseSize < len then gate.fail memory GateCode.bufferTooSmall.error
    else
      match GuestMemory.copyOut request.responseAddr response memory with
      | .error fault memory => return ⟨gate, memory, .error fault, []⟩
      | .ok () memory =>
        let gate ← gate.writeRegisters fun window => do
          Layout.responseCode.write 0 window
          Layout.control.write 0 window
        return ⟨gate, memory, .ok .completed, []⟩

/-- Finds the answer to a request. A poll of an empty queue ends the tick. -/
def answer [Service σ] (gate : Gate σ) (memory : μ) (request : Request) (target : Target)
    (payload : Bytes) : Except Abort (Dispatched σ μ) :=
  let started := Event.dispatching target payload.length
  match target with
  | .service id =>
    let called := gate.registry.call id payload
    .ok <| .inFlight ⟨{ gate with registry := called.registry }, memory, request, target,
      .reply called.result, started :: called.events⟩
  | .control .pollMessage =>
    match gate.queue.popFront? with
    | none => .ok (.ended ⟨gate, memory, .ok .retry, [started]⟩)
    | some (message, queue) => do
      let gate ← (gate.withQueue queue).writeRegisters (Layout.service.write message.origin.raw)
      return .inFlight ⟨gate, memory, request, target, .delivery message, [started]⟩
  | .control operation =>
    .ok <| .inFlight ⟨gate, memory, request, target, .reply (.error GateCode.invalidArg.error),
      [started, .reserved operation payload.length]⟩
  | .unknownControl code =>
    .ok <| .inFlight ⟨gate, memory, request, target, .reply (.error GateCode.invalidArg.error),
      [started, .unknownControl code]⟩

/-- The first half of a tick: copies the request in and finds its answer. -/
def dispatch [Service σ] [GuestMemory μ] (gate : Gate σ) (memory : μ) :
    Except Abort (Dispatched σ μ) := do
  let control ← gate.readRegisters Layout.control.read
  if control = 0 then return .ended ⟨gate, memory, .ok .idle, []⟩
  let request ← gate.readRegisters Request.read
  match GuestMemory.copyIn request.requestAddr request.requestLen memory with
  | .error fault memory => return .ended ⟨gate, memory, .error fault, []⟩
  | .ok payload memory =>
    gate.answer memory request (Target.decode control request.service) payload

end Gate

namespace Ticked

variable {σ μ : Type}

/-- Puts a polled message back to the front of the queue. -/
def putBack (ticked : Ticked σ μ) (message : Message) : Ticked σ μ :=
  { ticked with gate := ticked.gate.withQueue (ticked.gate.queue.pushFront message) }

/-- Decides about a polled message after the attempt to deliver it: it is gone once delivered, it
goes back if another attempt may succeed, and it is dropped otherwise. -/
def settle (ticked : Ticked σ μ) (message : Message) : Ticked σ μ :=
  match ticked.result with
  | .ok .completed => ticked
  | .ok (.failed code) =>
    if code.gateCode? = some .bufferTooSmall then ticked.putBack message
    else { ticked with events := ticked.events ++ [.dropped message code] }
  | .ok .idle => ticked.putBack message
  | .ok .retry => ticked.putBack message
  | .error _ => ticked.putBack message

end Ticked

namespace InFlight

variable {σ μ : Type}

/-- Reports the answer to the guest. -/
def report [GuestMemory μ] (call : InFlight σ μ) : Except Abort (Ticked σ μ) :=
  match call.answer with
  | .reply (.ok response) => call.gate.respond call.memory call.request response
  | .reply (.error code) => call.gate.fail call.memory code
  | .delivery message => do
    let ticked ← call.gate.respond call.memory call.request message.payload
    return ticked.settle message

/-- The second half of a tick: reports the answer and notes how the call ended. -/
def finish [GuestMemory μ] (call : InFlight σ μ) : Except Abort (Ticked σ μ) := do
  let ticked ← call.report
  return { ticked with
    events := call.events ++ ticked.events ++ [.finished call.target ticked.result] }

/-- Sends by other contexts while the call is in flight. -/
def amid (call : InFlight σ μ) (others : Activity Unit) : InFlight σ μ :=
  let performed := call.gate.perform others
  { call with gate := performed.value.2, events := call.events ++ performed.events }

end InFlight

namespace Gate

variable {σ μ : Type} [Service σ] [GuestMemory μ]

/-- One tick during which other contexts send. Their sends fall between the two halves, or after a
tick that was over with the first. -/
def tickAmid (gate : Gate σ) (memory : μ) (others : Activity Unit) :
    Except Abort (Ticked σ μ) := do
  match ← gate.dispatch memory with
  | .ended ticked =>
    let performed := ticked.gate.perform others
    return { ticked with gate := performed.value.2, events := ticked.events ++ performed.events }
  | .inFlight call => (call.amid others).finish

/-- One tick that nobody interferes with. -/
def tick (gate : Gate σ) (memory : μ) : Except Abort (Ticked σ μ) :=
  gate.tickAmid memory (.done ())

end Gate

end HostCalls
