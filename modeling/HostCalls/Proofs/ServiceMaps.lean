import HostCalls.Proofs.Placement
import HostCalls.Proofs.Sending
import HostCalls.Proofs.ServiceTable

/-!
# Services seen through a map

The gate hands requests to services and takes answers from them; it never looks at their states.
So a map between states that respects what the services do is not noticed: every function of the
tick commutes with it, and a whole run does too. This is how services can be given additional
state, such as a record of what they were asked, without any effect on the gate.
-/
namespace HostCalls

variable {σ τ μ α β : Type}

namespace Activity

/-- The activity with its result changed. -/
def map (g : α → β) (activity : Activity α) : Activity β := activity.bind fun a => .done (g a)

lemma perform_map (g : α → β) (activity : Activity α) (queue : MessageQueue) :
    (activity.map g).perform queue =
      ⟨g (activity.perform queue).result, (activity.perform queue).queue,
        (activity.perform queue).events⟩ := by
  induction activity generalizing queue with
  | done result => rfl
  | send sender payload next ih =>
    have hnext := ih (queue.send sender payload).result (queue.send sender payload).queue
    simp only [map, bind, perform] at hnext ⊢
    rw [hnext]

end Activity

/-- A map between states of services after which they do the same. -/
def Service.Respects [Service σ] [Service τ] (f : σ → τ) : Prop :=
  ∀ state request, Service.handle (f state) request =
    (Service.handle state request).map fun answered => (answered.1, f answered.2)

/-! ## Maps of registries and gates -/

/-- The registry with every service changed. -/
def Registry.map (f : σ → τ) (registry : Registry σ) : Registry τ :=
  ⟨registry.services.map f, registry.queue⟩

/-- The end of a call with every service changed. -/
def Called.map (f : σ → τ) (called : Called σ) : Called τ :=
  ⟨called.result, called.registry.map f, called.events⟩

lemma Registry.call_map [Service σ] [Service τ] {f : σ → τ} (hf : Service.Respects f)
    (registry : Registry σ) (id : ServiceId) (request : Bytes) :
    (registry.map f).call id request = (registry.call id request).map f := by
  cases hfind : registry.services.find? id with
  | none =>
    have hmapped : (registry.map f).services.find? id = none := by
      simp [Registry.map, hfind]
    rw [registry.call_of_not_find hfind, call_of_not_find _ hmapped]
    rfl
  | some service =>
    have hmapped : (registry.map f).services.find? id = some (f service) := by
      simp [Registry.map, hfind]
    rw [registry.call_of_find hfind, call_of_find _ hmapped]
    simp only [hf service request, Activity.perform_map, Registry.map, Called.map,
      Table.insert_map]

/-- The gate with every service changed. -/
def Gate.map (f : σ → τ) (gate : Gate σ) : Gate τ :=
  ⟨gate.page, gate.config, gate.registry.map f, gate.usable⟩

/-- The end of a tick with every service changed. -/
def Ticked.map (f : σ → τ) (ticked : Ticked σ μ) : Ticked τ μ :=
  ⟨ticked.gate.map f, ticked.memory, ticked.result, ticked.events⟩

/-- A request in flight with every service changed. -/
def InFlight.map (f : σ → τ) (call : InFlight σ μ) : InFlight τ μ :=
  ⟨call.gate.map f, call.memory, call.request, call.target, call.answer, call.events⟩

/-- A dispatched request with every service changed. -/
def Dispatched.map (f : σ → τ) : Dispatched σ μ → Dispatched τ μ
  | .ended ticked => .ended (ticked.map f)
  | .inFlight call => .inFlight (call.map f)

/-! ## The tick does not see the states -/

section

variable (f : σ → τ)

lemma Gate.writeRegisters_map (gate : Gate σ) (act : Window → PageM Unit) :
    (gate.map f).writeRegisters act = (gate.writeRegisters act).map (·.map f) := by
  have hview : (gate.map f).view = gate.view := rfl
  have hpage : (gate.map f).page = gate.page := rfl
  simp only [writeRegisters, window_eq, hview, hpage]
  cases act gate.view gate.page <;> rfl

lemma Gate.fail_map (gate : Gate σ) (memory : μ) (code : ErrorCode) :
    (gate.map f).fail memory code = (gate.fail memory code).map (·.map f) := by
  rw [fail_eq, fail_eq]
  rfl

lemma Gate.respond_map [GuestMemory μ] (gate : Gate σ) (memory : μ) (request : Request)
    (response : Bytes) :
    (gate.map f).respond memory request response =
      (gate.respond memory request response).map (·.map f) := by
  have hconfig : (gate.map f).config = gate.config := rfl
  unfold respond
  rw [hconfig]
  split_ifs with hlong
  · rw [fail_eq, fail_eq]
    rfl
  · simp only [writeRegisters_write _ (by decide : Layout.responseLen.Within), ok_bind]
    split_ifs with hsmall
    · rw [fail_eq, fail_eq]
      rfl
    · cases GuestMemory.copyOut request.responseAddr response memory with
      | error fault written => rfl
      | ok _ written =>
        simp only [writeRegisters_write_write _ (by decide : Layout.responseCode.Within)
          (by decide : Layout.control.Within), ok_bind]
        rfl

lemma Ticked.settle_map (ticked : Ticked σ μ) (message : Message) :
    (ticked.map f).settle message = (ticked.settle message).map f := by
  obtain ⟨gate, memory, result, events⟩ := ticked
  cases result with
  | error fault => rfl
  | ok outcome =>
    cases outcome with
    | failed code =>
      simp only [settle, map]
      split_ifs <;> rfl
    | _ => rfl

lemma InFlight.finish_map [GuestMemory μ] (call : InFlight σ μ) :
    (call.map f).finish = call.finish.map (·.map f) := by
  obtain ⟨gate, memory, request, target, answer, events⟩ := call
  cases answer with
  | reply result =>
    cases result with
    | ok response =>
      obtain ⟨ticked, hrespond, _⟩ := gate.respond_spec memory request response
      simp only [finish, report, map, gate.respond_map, hrespond, Except.map, ok_bind]
      rfl
    | error code =>
      simp only [finish, report, map, gate.fail_map, gate.fail_eq, Except.map, ok_bind]
      rfl
  | delivery message =>
    obtain ⟨ticked, hrespond, _⟩ := gate.respond_spec memory request message.payload
    simp only [finish, report, map, gate.respond_map, hrespond, Except.map, ok_bind,
      ticked.settle_map]
    rfl

end

section

variable [Service σ] [Service τ] {f : σ → τ} (hf : Service.Respects f)

include hf

lemma Gate.answer_map (gate : Gate σ) (memory : μ) (request : Request) (target : Target)
    (payload : Bytes) :
    (gate.map f).answer memory request target payload =
      (gate.answer memory request target payload).map (·.map f) := by
  cases target with
  | service id =>
    have hcall := gate.registry.call_map hf id payload
    simp only [answer, Gate.map, hcall]
    rfl
  | unknownControl code => rfl
  | control operation =>
    cases operation with
    | pollMessage =>
      have hqueue : (gate.map f).queue = gate.queue := rfl
      simp only [answer, hqueue]
      cases gate.queue.popFront? with
      | none => rfl
      | some popped =>
        simp only [writeRegisters_write _ (by decide : Layout.service.Within), ok_bind]
        rfl
    | _ => rfl

variable [GuestMemory μ]

lemma Gate.dispatch_map (gate : Gate σ) (memory : μ) :
    (gate.map f).dispatch memory = (gate.dispatch memory).map (·.map f) := by
  have hrequest : (gate.map f).request = gate.request := rfl
  have hcontrol : (gate.map f).value Layout.control = gate.value Layout.control := rfl
  simp only [dispatch, readRegisters_read _ (by decide : Layout.control.Within),
    readRegisters_request, ok_bind, hrequest, hcontrol]
  split_ifs with hidle
  · rfl
  · cases GuestMemory.copyIn gate.request.requestAddr gate.request.requestLen memory with
    | error fault read => rfl
    | ok payload read => exact gate.answer_map hf read _ _ payload

lemma Gate.tickAmid_map (gate : Gate σ) (memory : μ) (others : Activity Unit) :
    (gate.map f).tickAmid memory others = (gate.tickAmid memory others).map (·.map f) := by
  obtain ⟨dispatched, hdispatch, _⟩ := gate.dispatch_spec memory
  simp only [tickAmid, gate.dispatch_map hf, hdispatch, Except.map, ok_bind]
  cases dispatched with
  | ended ticked => rfl
  | inFlight call => exact (call.amid others).finish_map f

end

/-! ## Runs -/

/-- The step with the registered service changed. -/
def Move.map (f : ServiceId → σ → τ) : Move σ μ → Move τ μ
  | .storeByte target inside value => .storeByte target inside value
  | .storeWord target inside value => .storeWord target inside value
  | .memory change => .memory change
  | .register id service => .register id (f id service)
  | .send sender payload => .send sender payload
  | .tick others => .tick others

/-- The run with every service changed. -/
def Played.map (f : σ → τ) (played : Played σ μ) : Played τ μ :=
  ⟨played.gate.map f, played.memory, played.replies⟩

/-- A service may be changed before or after it is registered. -/
lemma Gate.register_map (f : σ → τ) (gate : Gate σ) (id : ServiceId) (service : σ) :
    (gate.map f).register id (f service) =
      ⟨(gate.register id service).value.map f, (gate.register id service).events⟩ := by
  simp only [register, Registry.register, Gate.map, Registry.map, Table.insert_map,
    Table.contains_map]

lemma Played.step_map [Service σ] [Service τ] [GuestMemory μ] {f : σ → τ}
    (hf : Service.Respects f) (played : Played σ μ) (move : Move σ μ) :
    (played.map f).step (move.map fun _ => f) = (played.step move).map (·.map f) := by
  cases move with
  | storeByte register inside value =>
    simp only [step, map, Move.map, Gate.writeRegisters_map]
    cases played.gate.writeRegisters (register.write value) <;> rfl
  | storeWord register inside value =>
    simp only [step, map, Move.map, Gate.writeRegisters_map]
    cases played.gate.writeRegisters (register.write value) <;> rfl
  | memory change => rfl
  | register id service =>
    simp only [step, map, Move.map, Gate.register_map]
    rfl
  | send sender payload => rfl
  | tick others =>
    simp only [step, map, Move.map, Gate.tickAmid_map hf]
    cases played.gate.tickAmid played.memory others <;> rfl

end HostCalls
