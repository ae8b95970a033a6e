import HostCalls.Call.Request
import HostCalls.Service.Registry

/-!
# The gate

A gate owns a page with its register block, and a registry. Its configuration was checked
when it was made and never changes. The guest sees the block only through register
accesses, each of which opens the window anew.
-/
namespace HostCalls

/-- A call gate whose services have states in `σ`. -/
structure Gate (σ : Type) where
  page : Page
  config : Config
  registry : Registry σ
  usable : config.Usable

namespace Gate

variable {σ α : Type}

/-- An idle gate without services. -/
def new (config : Config) : Except Abort (Gate σ) :=
  match hcheck : config.check with
  | .error abort => .error abort
  | .ok () =>
    match MessageQueue.withLimits config.queueCapacity config.maxPayloadLen with
    | .error abort => .error abort
    | .ok queue => .ok ⟨.zero, config, .new queue, Config.usable_of_check hcheck⟩

/-- The window at the register block. -/
def window (gate : Gate σ) : Except Abort Window := Window.ofBase gate.config.registerOffset

/-- Reads from the register block. -/
def readRegisters (gate : Gate σ) (act : Window → PageM α) : Except Abort α :=
  match gate.window with
  | .error abort => .error abort
  | .ok window =>
    match act window gate.page with
    | .ok value _ => .ok value
    | .error abort _ => .error abort

/-- Stores into the register block. -/
def writeRegisters (gate : Gate σ) (act : Window → PageM Unit) : Except Abort (Gate σ) :=
  match gate.window with
  | .error abort => .error abort
  | .ok window =>
    match act window gate.page with
    | .ok () page => .ok { gate with page }
    | .error abort _ => .error abort

/-- The messages that wait for the guest. -/
def queue (gate : Gate σ) : MessageQueue := gate.registry.queue

/-- The gate with another queue. -/
def withQueue (gate : Gate σ) (queue : MessageQueue) : Gate σ :=
  { gate with registry := { gate.registry with queue } }

/-- Number of messages that wait for the guest. -/
def pending (gate : Gate σ) : Nat := gate.queue.length

/-- Registers a service under an id. -/
def register (gate : Gate σ) (id : ServiceId) (service : σ) : Logged (Gate σ) :=
  let registered := gate.registry.register id service
  ⟨{ gate with registry := registered.value }, registered.events⟩

/-- Registers a service under a raw id, which has to name a service. -/
def registerRaw (gate : Gate σ) (raw : UInt32) (service : σ) : Except Abort (Logged (Gate σ)) :=
  match gate.registry.registerRaw raw service with
  | .error abort => .error abort
  | .ok registered => .ok ⟨{ gate with registry := registered.value }, registered.events⟩

/-- Performs sends on the gate's queue. -/
def perform (gate : Gate σ) (activity : Activity α) : Logged (α × Gate σ) :=
  let performed := activity.perform gate.queue
  ⟨(performed.result, gate.withQueue performed.queue), performed.events⟩

end Gate

end HostCalls
