import HostCalls.Service.Basic
import HostCalls.Service.Table

/-!
# The registry

The services of a gate and the queue through which they reach the guest. The last
registration under an id counts. Sending does not need a registration.
-/
namespace HostCalls

/-- Services and their message queue. -/
structure Registry (σ : Type) where
  services : Table σ
  queue : MessageQueue

/-- The end of a call: the answer, the registry it leaves and what it caused. -/
structure Called (σ : Type) where
  result : CallResult
  registry : Registry σ
  events : List Event

namespace Registry

variable {σ : Type}

/-- A registry without services. -/
def new (queue : MessageQueue) : Registry σ := ⟨.empty, queue⟩

/-- Registers a service under an id. -/
def register (registry : Registry σ) (id : ServiceId) (service : σ) : Logged (Registry σ) :=
  ⟨{ registry with services := registry.services.insert id service },
    .registering id :: if registry.services.contains id then [.replaced id] else []⟩

/-- Registers a service under a raw id, which has to name a service. -/
def registerRaw (registry : Registry σ) (raw : UInt32) (service : σ) :
    Except Abort (Logged (Registry σ)) :=
  match ServiceId.ofRaw? raw with
  | some id => .ok (registry.register id service)
  | none => .error .reservedService

/-- Sends a payload through a sender. -/
def send (registry : Registry σ) (sender : Sender) (payload : Bytes) :
    Logged (Except SendError Unit × Registry σ) :=
  let sent := registry.queue.send sender payload
  ⟨(sent.result, { registry with queue := sent.queue }), sent.events⟩

/-- Calls the service under an id, if there is one. -/
def call? [Service σ] (registry : Registry σ) (id : ServiceId) (request : Bytes) :
    Option (Called σ) :=
  (registry.services.find? id).map fun service =>
    let performed := (Service.handle service request).perform registry.queue
    ⟨performed.result.1, ⟨registry.services.insert id performed.result.2, performed.queue⟩,
      performed.events⟩

/-- Calls the service under an id; an unknown id is answered with an error. -/
def call [Service σ] (registry : Registry σ) (id : ServiceId) (request : Bytes) : Called σ :=
  (registry.call? id request).getD ⟨.error GateCode.notFound.error, registry, []⟩

end Registry

end HostCalls
