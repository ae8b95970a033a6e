import HostCalls.Proofs.PagedContent
import HostCalls.Proofs.Sending
import HostCalls.Proofs.TickCases

/-!
# Sessions

A session is a gate and its guest memory under everything that can happen to them: stores of the
guest into the register page, changes of its memory, registrations, sends, and ticks. A tick
has two actions, its beginning and its end. In between gate and memory are taken, but sends
still go through. The session keeps two records that the gate does not have: the messages that
were accepted and what the guest found after each completed poll.
-/
namespace HostCalls

/-- A change of guest memory from outside of the gate. -/
inductive MemoryOperation where
  | map (index : UInt64) (permissions : Permissions)
  | unmap (index : UInt64)
  | writeByte (addr : UInt32) (value : UInt8)
  | writeWord (addr value : UInt32)
  | writeBytes (addr : UInt32) (data : Bytes)

/-- The memory after an operation; a write that faults keeps what it wrote before. -/
def MemoryOperation.apply : MemoryOperation → PagedMemory → Except Abort PagedMemory
  | map index permissions, memory => memory.map index permissions
  | unmap index, memory => memory.unmap index
  | writeByte addr value, memory => .ok (PagedMemory.left (PagedMemory.writeByte addr value memory))
  | writeWord addr value, memory => .ok (PagedMemory.left (PagedMemory.writeWord addr value memory))
  | writeBytes addr data, memory => .ok (PagedMemory.left (PagedMemory.writeBytes addr data memory))

/-- What can happen in a session. -/
inductive Action (σ : Type) where
  /-- The guest stores into the register page, anything anywhere. -/
  | store (act : Window → PageM Unit)
  | memory (operation : MemoryOperation)
  | register (id : ServiceId) (service : σ)
  | send (sender : Sender) (payload : Bytes)
  | beginTick
  | endTick

/-- Between ticks, or inside of one. -/
inductive Phase (σ : Type) where
  | resting (gate : Gate σ) (memory : PagedMemory)
  | ticking (call : InFlight σ PagedMemory)

/-- A gate at some point of a run, with the messages accepted so far and what the guest found
after the polls completed so far. -/
structure Session (σ : Type) where
  phase : Phase σ
  accepted : List Message
  delivered : List (UInt32 × List (Option UInt8))

/-- A message as the guest finds it: the id in the register and the bytes in its memory. -/
def Message.parcel (message : Message) : UInt32 × List (Option UInt8) :=
  (message.origin.raw, message.payload.map some)

/-- The message that an answer holds. -/
def Answer.messages : Answer → List Message
  | .reply _ => []
  | .delivery message => [message]

variable {σ : Type}

/-- What the guest finds after a tick: the service register, and as many bytes of the response
buffer as the length register says. -/
def Ticked.found (ticked : Ticked σ PagedMemory) : UInt32 × List (Option UInt8) :=
  (ticked.gate.value Layout.service,
    ticked.memory.peekRange (ticked.gate.value Layout.responseAddr).toNat
      (ticked.gate.value Layout.responseLen).toNat)

/-- What the end of a tick delivers: something only if it was a poll and is completed. -/
def InFlight.delivers (call : InFlight σ PagedMemory) (ticked : Ticked σ PagedMemory) :
    List (UInt32 × List (Option UInt8)) :=
  match call.target, ticked.result with
  | .control .pollMessage, .ok .completed => [ticked.found]
  | _, _ => []

/-- The service that a tick asks, with its id and the request. -/
def Gate.invocation? {μ : Type} [GuestMemory μ] (gate : Gate σ) (memory : μ) :
    Option (ServiceId × σ × Bytes) :=
  if gate.value Layout.control = 0 then none
  else
    match GuestMemory.copyIn gate.request.requestAddr gate.request.requestLen memory with
    | .error _ _ => none
    | .ok payload _ => do
      let id ← ServiceId.ofRaw? (gate.value Layout.service)
      let service ← gate.registry.services.find? id
      return (id, service, payload)

variable [Service σ]

/-- The messages that are accepted while a service works on the request. -/
def Gate.acceptedInside {μ : Type} [GuestMemory μ] (gate : Gate σ) (memory : μ) : List Message :=
  match gate.invocation? memory with
  | none => []
  | some (_, service, payload) => (Service.handle service payload).accepted gate.queue

namespace Phase

/-- The gate, also while a tick has it. -/
def gate : Phase σ → Gate σ
  | resting gate _ => gate
  | ticking call => call.gate

/-- The message that is out of the queue for the time of a tick. -/
def inFlight : Phase σ → List Message
  | resting _ _ => []
  | ticking call => call.answer.messages

end Phase

namespace Session

/-- A session before anything has happened. -/
def start (gate : Gate σ) (memory : PagedMemory) : Session σ := ⟨.resting gate memory, [], []⟩

/-- One action. While a tick is on, nothing but sends and its end can happen; and a tick that is not
on does not end. -/
def step (session : Session σ) (action : Action σ) : Except Abort (Session σ) :=
  match session.phase, action with
  | .resting gate memory, .store act => do
    return { session with phase := .resting (← gate.writeRegisters act) memory }
  | .resting gate memory, .memory operation => do
    return { session with phase := .resting gate (← operation.apply memory) }
  | .resting gate memory, .register id service =>
    .ok { session with phase := .resting (gate.register id service).value memory }
  | .resting gate memory, .send sender payload =>
    .ok { session with
      phase := .resting (gate.perform (.single sender payload)).value.2 memory
      accepted := session.accepted ++ gate.queue.accepted sender payload }
  | .ticking call, .send sender payload =>
    .ok { session with
      phase := .ticking (call.amid (.single sender payload))
      accepted := session.accepted ++ call.gate.queue.accepted sender payload }
  | .resting gate memory, .beginTick => do
    match ← gate.dispatch memory with
    | .ended ticked =>
      return { session with
        phase := .resting ticked.gate ticked.memory
        accepted := session.accepted ++ gate.acceptedInside memory }
    | .inFlight call =>
      return { session with
        phase := .ticking call
        accepted := session.accepted ++ gate.acceptedInside memory }
  | .ticking call, .endTick => do
    let ticked ← call.finish
    return { session with
      phase := .resting ticked.gate ticked.memory
      delivered := session.delivered ++ call.delivers ticked }
  | _, _ => .ok session

/-- Any number of actions, one after another. -/
def run (session : Session σ) : List (Action σ) → Except Abort (Session σ)
  | [] => .ok session
  | action :: rest => do (← session.step action).run rest

end Session

end HostCalls
