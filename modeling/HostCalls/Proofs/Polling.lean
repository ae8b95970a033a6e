import HostCalls.Proofs.Access
import HostCalls.Proofs.TickStatus

/-!
# Polls

The guest polls by storing a request into the block, with a buffer for the message, and waiting for
a tick. If the oldest message is within the limit of the gate and fits into the buffer, and the
buffer can be written, the poll is completed: the guest finds the origin of the message in the
service register, its length in the length register, and its payload in the buffer. On an empty
queue a poll leaves everything as it is.
-/
namespace HostCalls

variable {σ : Type}

namespace Gate

/-- The gate with a request stored into its block. -/
def issue (gate : Gate σ) (request : Request) : Gate σ :=
  (((((gate.assign Layout.service request.service).assign Layout.requestAddr
    request.requestAddr).assign Layout.requestLen request.requestLen).assign Layout.responseAddr
      request.responseAddr).assign Layout.responseSize request.responseSize).assign Layout.control
        request.control

lemma writeRegisters_issue (gate : Gate σ) (request : Request) :
    gate.writeRegisters request.write = .ok (gate.issue request) := by
  simp only [writeRegisters, window_eq, Request.write, Request.stores, List.forM, bind,
    EStateM.bind, pure, EStateM.pure,
    gate.write_view (by decide : Layout.control.Within),
    gate.write_view (by decide : Layout.service.Within),
    gate.write_view (by decide : Layout.requestAddr.Within),
    gate.write_view (by decide : Layout.requestLen.Within),
    gate.write_view (by decide : Layout.responseAddr.Within),
    gate.write_view (by decide : Layout.responseSize.Within)]
  rfl

@[simp] theorem queue_issue (gate : Gate σ) (request : Request) :
    (gate.issue request).queue = gate.queue := rfl

/-- What was stored is the request in the block. -/
lemma request_issue (gate : Gate σ) (request : Request) :
    (gate.issue request).request = request := by
  simp (disch := decide) only [Gate.request, issue, value_assign, value_assign_apart]

end Gate

/-! ## What a poll comes to -/

section

variable {μ : Type}

/-- The gate while a message is out of its queue. -/
def Gate.without (gate : Gate σ) (message : Message) (queue : MessageQueue) : Gate σ :=
  (gate.withQueue queue).assign Layout.service message.origin.raw

@[simp] theorem Gate.queue_without (gate : Gate σ) (message : Message) (queue : MessageQueue) :
    (gate.without message queue).queue = queue := rfl

lemma Gate.service_without (gate : Gate σ) (message : Message) (queue : MessageQueue) :
    (gate.without message queue).value Layout.service = message.origin.raw :=
  value_assign _ (by decide) _

/-- A message that is put back comes before those that have arrived meanwhile. -/
lemma Gate.Responded.registry_putBack [GuestMemory μ] {gate : Gate σ} {message : Message}
    {queue : MessageQueue} {memory : μ} {request : Request} {response : Bytes}
    {reported : Ticked σ μ}
    (h : (gate.without message queue).Responded memory request response reported) :
    (reported.putBack message).gate.registry =
      { gate.registry with queue := queue.pushFront message } := by
  show { reported.gate.registry with queue := reported.gate.registry.queue.pushFront message } = _
  rw [h.config_registry.2]
  rfl

/-- Without arrivals meanwhile the queue is as it was. -/
lemma Gate.registry_pushFront (gate : Gate σ) {message : Message} {rest : List Message}
    (hqueue : gate.queue.messages = message :: rest) :
    { gate.registry with
      queue := ({ gate.queue with messages := rest } : MessageQueue).pushFront message } =
        gate.registry := by
  show ⟨gate.registry.services, { gate.queue with messages := message :: rest }⟩ = gate.registry
  rw [← hqueue]
  rfl

/-- A message in flight is reported and settled. -/
lemma InFlight.Finishes.of_delivery [GuestMemory μ] {call : InFlight σ μ} {ticked : Ticked σ μ}
    (h : call.Finishes ticked) {message : Message} (hdelivery : call.answer = .delivery message) :
    ∃ reported, call.gate.Responded call.memory call.request message.payload reported ∧
      ticked.gate = (reported.settle message).gate ∧ ticked.memory = reported.memory ∧
      ticked.result = reported.result := by
  cases h with
  | failed code hanswer => cases hdelivery.symm.trans hanswer
  | responded response hanswer => cases hdelivery.symm.trans hanswer
  | delivered message' hanswer reported hreported =>
    cases hdelivery.symm.trans hanswer
    exact ⟨reported, hreported, rfl, reported.settle_memory message, reported.settle_result message⟩

/-- A poll waits on an empty queue and otherwise reports the oldest message, with what others have
sent meanwhile in the queue. -/
lemma Gate.Ticks.poll [Service σ] [GuestMemory μ] {gate : Gate σ} {memory read : μ}
    {others : Activity Unit} {ticked : Ticked σ μ} {payload : Bytes}
    (h : gate.Ticks memory others ticked) (hcontrol : gate.value Layout.control = 1)
    (hservice : gate.value Layout.service = 0)
    (hcopy : GuestMemory.copyIn gate.request.requestAddr gate.request.requestLen memory =
      .ok payload read) :
    (gate.queue.messages = [] ∧ ticked.result = .ok .retry ∧ ticked.memory = read ∧
      ticked.gate = (gate.perform others).value.2) ∨
    ∃ message rest reported, gate.queue.messages = message :: rest ∧
      (gate.without message (others.perform { gate.queue with messages := rest }).queue).Responded
        read gate.request message.payload reported ∧
      ticked.gate = (reported.settle message).gate ∧ ticked.memory = reported.memory ∧
      ticked.result = reported.result := by
  cases h with
  | ended ended _ hdispatch =>
    cases hdispatch with
    | idle hidle => rw [hcontrol] at hidle; cases hidle
    | faulted _ fault _ hfault => cases hcopy.symm.trans hfault
    | waiting _ _ _ _ hcopy' hempty =>
      cases hcopy.symm.trans hcopy'
      exact .inl ⟨hempty, rfl, rfl, rfl⟩
  | finished call _ hdispatch _ hfinish =>
    cases hdispatch with
    | called _ _ _ _ id hid => exact absurd (hid.symm.trans hservice) id.nonzero
    | refused _ hother => exact absurd hcontrol hother
    | polled _ _ _ _ hcopy' message rest hqueue =>
      cases hcopy.symm.trans hcopy'
      obtain ⟨reported, hreported, hgate, hmemory, hresult⟩ := hfinish.of_delivery rfl
      exact .inr ⟨message, rest, reported, hqueue, hreported, hgate, hmemory, hresult⟩

end

/-! ## Polls with a buffer -/

/-- A place in guest memory for a message. -/
structure Buffer where
  addr : UInt32
  size : UInt32

/-- A message fits into the buffer, and the part that it takes can be written. -/
structure Buffer.Fits (buffer : Buffer) (memory : PagedMemory) (message : Message) : Prop where
  size : message.payload.length ≤ buffer.size.toNat
  writable : memory.Permits .writeOnly buffer.addr.toNat message.payload.length

/-- The guest has got a message: the tick is completed, the gate is idle, origin and length of the
message are in the registers, and its payload is in the buffer. -/
structure Ticked.Delivers (ticked : Ticked σ PagedMemory) (buffer : Buffer) (message : Message) :
    Prop where
  result : ticked.result = .ok .completed
  status : ∃ status, ticked.gate.readRegisters Status.read = .ok status ∧
    status.isIdle = true ∧ status.responseCode = 0 ∧ status.service = message.origin.raw ∧
    status.responseLen.toNat = message.payload.length
  memory : ticked.memory.peekRange buffer.addr.toNat message.payload.length =
    message.payload.map some

namespace Gate

variable [Service σ]

/-- The guest polls with a buffer, and other contexts send while the gate ticks. -/
def poll (gate : Gate σ) (memory : PagedMemory) (buffer : Buffer) (others : Activity Unit) :
    Except Abort (Ticked σ PagedMemory) := do
  let issued ← gate.writeRegisters (Request.toControl .pollMessage buffer.addr buffer.size).write
  issued.tickAmid memory others

lemma poll_spec (gate : Gate σ) (memory : PagedMemory) (buffer : Buffer) (others : Activity Unit) :
    ∃ issued ticked, issued = gate.issue (.toControl .pollMessage buffer.addr buffer.size) ∧
      gate.poll memory buffer others = .ok ticked ∧
      ((gate.queue.messages = [] ∧ ticked.result = .ok .retry ∧ ticked.memory = memory ∧
        ticked.gate = (issued.perform others).value.2) ∨
      ∃ message rest reported, gate.queue.messages = message :: rest ∧
        (issued.without message
            (others.perform { gate.queue with messages := rest }).queue).Responded
          memory (.toControl .pollMessage buffer.addr buffer.size) message.payload reported ∧
        ticked.gate = (reported.settle message).gate ∧ ticked.memory = reported.memory ∧
        ticked.result = reported.result) := by
  obtain ⟨ticked, htick, hspec⟩ :=
    (gate.issue (.toControl .pollMessage buffer.addr buffer.size)).tickAmid_spec memory others
  refine ⟨_, ticked, rfl, ?_, ?_⟩
  · simp only [poll, writeRegisters_issue, ok_bind, htick]
  · have hrequest := gate.request_issue (.toControl .pollMessage buffer.addr buffer.size)
    -- a poll has no request bytes to be read
    have hcopy : GuestMemory.copyIn (0 : UInt32) 0 memory = .ok [] memory := rfl
    have hpoll := hspec.poll (congrArg Request.control hrequest) (congrArg Request.service hrequest)
      (by rw [hrequest]; exact hcopy)
    rw [hrequest] at hpoll
    exact hpoll

/-- A poll of the oldest message that has a buffer for it. -/
lemma poll_delivers (gate : Gate σ) (memory : PagedMemory) (buffer : Buffer)
    (others : Activity Unit) {message : Message} {rest : List Message}
    (hqueue : gate.queue.messages = message :: rest)
    (hshort : message.payload.length ≤ gate.config.maxPayloadLen.toNat)
    (hfits : buffer.Fits memory message) :
    ∃ ticked, gate.poll memory buffer others = .ok ticked ∧ ticked.Delivers buffer message ∧
      memory.Patched buffer.addr.toNat message.payload ticked.memory ∧
      ticked.gate.config = gate.config ∧
      ticked.gate.registry =
        ⟨gate.registry.services, (others.perform { gate.queue with messages := rest }).queue⟩ := by
  obtain ⟨written, hwrite⟩ := (PagedMemory.copyOut_ok_iff _ _ memory).mpr hfits.writable
  obtain ⟨issued, ticked, rfl, hpoll, hend⟩ := gate.poll_spec memory buffer others
  refine ⟨ticked, hpoll, ?_⟩
  obtain ⟨hempty, _⟩ | ⟨_, _, reported, hqueue', hreported, hgate, hmemory, hresult⟩ := hend
  · cases hempty.symm.trans hqueue
  · cases hqueue.symm.trans hqueue'
    obtain rfl := hreported.eq_of_copyOut_ok hshort hfits.size hwrite
    have hpatched := PagedMemory.copyOut_ok hwrite
    rw [hgate, hmemory]
    refine ⟨⟨hresult, ?_, ?_⟩, hpatched, rfl, rfl⟩
    · refine ⟨_, readRegisters_status _, ?_⟩
      simp (disch := decide) [status, Status.isIdle, hgate, Ticked.settle, without,
        value_assign, value_assign_apart, gate.toNat_length hshort]
    · rw [hmemory]
      exact hpatched.peekRange

/-- A poll of an empty queue stores the request and does nothing else. -/
lemma poll_waits (gate : Gate σ) (memory : PagedMemory) (buffer : Buffer)
    (hempty : gate.queue.messages = []) :
    ∃ ticked, gate.poll memory buffer (.done ()) = .ok ticked ∧ ticked.result = .ok .retry ∧
      ticked.memory = memory ∧
      ticked.gate = gate.issue (.toControl .pollMessage buffer.addr buffer.size) := by
  obtain ⟨issued, ticked, rfl, hpoll, hend⟩ := gate.poll_spec memory buffer (.done ())
  obtain ⟨_, hresult, hmemory, hgate⟩ | ⟨message, rest, _, hqueue, _⟩ := hend
  · exact ⟨ticked, hpoll, hresult, hmemory, hgate⟩
  · cases hempty.symm.trans hqueue

end Gate

end HostCalls
