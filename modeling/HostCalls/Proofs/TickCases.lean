import HostCalls.Gate.Tick
import HostCalls.Proofs.Registers

/-!
# What a tick can do

The halves of a tick never abort, since the register block lies inside its page. `Dispatches`
lists what the first half can come to and `Responded` how the report of a response can end,
each with its conditions and with the complete state it leaves. What a tick does to the gate and to
the guest is read off these two lists, without the definitions of the tick.
-/
namespace HostCalls

variable {σ μ : Type}

namespace Gate

/-- The ways in which the report of a response ends. -/
inductive Responded [GuestMemory μ] (gate : Gate σ) (memory : μ) (request : Request)
    (response : Bytes) : Ticked σ μ → Prop
  | tooLong (hlong : gate.config.maxPayloadLen.toNat < response.length) :
    Responded gate memory request response
      ⟨gate.assign Layout.responseCode GateCode.internalError.error.raw, memory,
        .ok (.failed GateCode.internalError.error),
        [.responseTooLong response.length gate.config.maxPayloadLen]⟩
  | tooSmall (hlen : response.length ≤ gate.config.maxPayloadLen.toNat)
      (hsmall : request.responseSize.toNat < response.length) :
    Responded gate memory request response
      ⟨(gate.assign Layout.responseLen (.ofNat response.length)).assign Layout.responseCode
          GateCode.bufferTooSmall.error.raw, memory,
        .ok (.failed GateCode.bufferTooSmall.error), []⟩
  | faulted (hlen : response.length ≤ gate.config.maxPayloadLen.toNat)
      (hsize : response.length ≤ request.responseSize.toNat) (fault : Fault) (written : μ)
      (hcopy : GuestMemory.copyOut request.responseAddr response memory = .error fault written) :
    Responded gate memory request response
      ⟨gate.assign Layout.responseLen (.ofNat response.length), written, .error fault, []⟩
  | completed (hlen : response.length ≤ gate.config.maxPayloadLen.toNat)
      (hsize : response.length ≤ request.responseSize.toNat) (written : μ)
      (hcopy : GuestMemory.copyOut request.responseAddr response memory = .ok () written) :
    Responded gate memory request response
      ⟨((gate.assign Layout.responseLen (.ofNat response.length)).assign Layout.responseCode
          0).assign Layout.control 0, written, .ok .completed, []⟩

lemma fail_eq (gate : Gate σ) (memory : μ) (code : ErrorCode) :
    gate.fail memory code =
      .ok ⟨gate.assign Layout.responseCode code.raw, memory, .ok (.failed code), []⟩ := by
  simp only [fail, gate.writeRegisters_write (by decide : Layout.responseCode.Within)]
  rfl

/-- Lengths of payloads fit into a register, so the comparison of words compares the lengths. -/
lemma toNat_length (gate : Gate σ) {response : Bytes}
    (hlen : response.length ≤ gate.config.maxPayloadLen.toNat) :
    (UInt32.ofNat response.length).toNat = response.length := by
  have hmax := gate.usable.payload_fits
  rw [UInt32.toNat_ofNat', Nat.mod_eq_of_lt (by omega)]

lemma respond_spec [GuestMemory μ] (gate : Gate σ) (memory : μ) (request : Request)
    (response : Bytes) :
    ∃ ticked, gate.respond memory request response = .ok ticked ∧
      gate.Responded memory request response ticked := by
  unfold respond
  by_cases hlong : gate.config.maxPayloadLen.toNat < response.length
  · rw [if_pos hlong, fail_eq]
    exact ⟨_, rfl, .tooLong hlong⟩
  · have hlen := Nat.not_lt.mp hlong
    have hnat := gate.toNat_length hlen
    rw [if_neg hlong]
    simp only [gate.writeRegisters_write (by decide : Layout.responseLen.Within), ok_bind]
    by_cases hsmall : request.responseSize < UInt32.ofNat response.length
    · rw [if_pos hsmall, fail_eq]
      rw [UInt32.lt_iff_toNat_lt, hnat] at hsmall
      exact ⟨_, rfl, .tooSmall hlen hsmall⟩
    · rw [if_neg hsmall]
      rw [UInt32.lt_iff_toNat_lt, hnat, Nat.not_lt] at hsmall
      cases hcopy : GuestMemory.copyOut request.responseAddr response memory with
      | error fault written => exact ⟨_, rfl, .faulted hlen hsmall fault written hcopy⟩
      | ok _ written =>
        simp only [writeRegisters_write_write _ (by decide : Layout.responseCode.Within)
          (by decide : Layout.control.Within), ok_bind]
        exact ⟨_, rfl, .completed hlen hsmall written hcopy⟩

/-- Reporting a response keeps the configuration, the services and the messages. -/
lemma Responded.config_registry [GuestMemory μ] {gate : Gate σ} {memory : μ} {request : Request}
    {response : Bytes} {ticked : Ticked σ μ}
    (h : gate.Responded memory request response ticked) :
    ticked.gate.config = gate.config ∧ ticked.gate.registry = gate.registry := by
  cases h <;> exact ⟨rfl, rfl⟩

/-- A response that is short enough and can be copied out completes the request. -/
lemma Responded.eq_of_copyOut_ok [GuestMemory μ] {gate : Gate σ} {memory written : μ}
    {request : Request} {response : Bytes} {ticked : Ticked σ μ}
    (h : gate.Responded memory request response ticked)
    (hlen : response.length ≤ gate.config.maxPayloadLen.toNat)
    (hsize : response.length ≤ request.responseSize.toNat)
    (hcopy : GuestMemory.copyOut request.responseAddr response memory = .ok () written) :
    ticked =
      ⟨((gate.assign Layout.responseLen (.ofNat response.length)).assign Layout.responseCode
          0).assign Layout.control 0, written, .ok .completed, []⟩ := by
  cases h with
  | tooLong hlong => exact absurd hlong (Nat.not_lt.mpr hlen)
  | tooSmall _ hsmall => exact absurd hsmall (Nat.not_lt.mpr hsize)
  | faulted _ _ fault written' hcopy' => cases hcopy.symm.trans hcopy'
  | completed _ _ written' hcopy' =>
    cases hcopy.symm.trans hcopy'
    rfl

/-- What the first half of a tick comes to. -/
inductive Dispatches [Service σ] [GuestMemory μ] (gate : Gate σ) (memory : μ) :
    Dispatched σ μ → Prop
  | idle (hidle : gate.value Layout.control = 0) :
    Dispatches gate memory (.ended ⟨gate, memory, .ok .idle, []⟩)
  | faulted (hpending : gate.value Layout.control ≠ 0) (fault : Fault) (read : μ)
      (hcopy : GuestMemory.copyIn gate.request.requestAddr gate.request.requestLen memory =
        .error fault read) :
    Dispatches gate memory (.ended ⟨gate, read, .error fault, []⟩)
  | called (hpending : gate.value Layout.control ≠ 0) (payload : Bytes) (read : μ)
      (hcopy : GuestMemory.copyIn gate.request.requestAddr gate.request.requestLen memory =
        .ok payload read)
      (id : ServiceId) (hservice : gate.value Layout.service = id.raw) :
    Dispatches gate memory
      (.inFlight ⟨{ gate with registry := (gate.registry.call id payload).registry }, read,
        gate.request, .service id, .reply (gate.registry.call id payload).result,
        .dispatching (.service id) payload.length :: (gate.registry.call id payload).events⟩)
  | waiting (hcontrol : gate.value Layout.control = 1) (hservice : gate.value Layout.service = 0)
      (payload : Bytes) (read : μ)
      (hcopy : GuestMemory.copyIn gate.request.requestAddr gate.request.requestLen memory =
        .ok payload read)
      (hqueue : gate.queue.messages = []) :
    Dispatches gate memory
      (.ended ⟨gate, read, .ok .retry, [.dispatching (.control .pollMessage) payload.length]⟩)
  | polled (hcontrol : gate.value Layout.control = 1) (hservice : gate.value Layout.service = 0)
      (payload : Bytes) (read : μ)
      (hcopy : GuestMemory.copyIn gate.request.requestAddr gate.request.requestLen memory =
        .ok payload read)
      (message : Message) (rest : List Message) (hqueue : gate.queue.messages = message :: rest) :
    Dispatches gate memory
      (.inFlight ⟨(gate.withQueue { gate.queue with messages := rest }).assign Layout.service
          message.origin.raw, read, gate.request, .control .pollMessage, .delivery message,
        [.dispatching (.control .pollMessage) payload.length]⟩)
  | refused (hpending : gate.value Layout.control ≠ 0) (hcontrol : gate.value Layout.control ≠ 1)
      (hservice : gate.value Layout.service = 0) (payload : Bytes) (read : μ)
      (hcopy : GuestMemory.copyIn gate.request.requestAddr gate.request.requestLen memory =
        .ok payload read)
      (target : Target) (htarget : target ≠ .control .pollMessage) (event : Event) :
    Dispatches gate memory
      (.inFlight ⟨gate, read, gate.request, target, .reply (.error GateCode.invalidArg.error),
        [.dispatching target payload.length, event]⟩)

/-- The answer to a request on the control channel. -/
lemma answer_control [Service σ] [GuestMemory μ] (gate : Gate σ) (memory read : μ)
    (payload : Bytes) (hpending : gate.value Layout.control ≠ 0)
    (hservice : gate.value Layout.service = 0)
    (hcopy : GuestMemory.copyIn gate.request.requestAddr gate.request.requestLen memory =
      .ok payload read) (operation : ControlOperation)
    (hop : ControlOperation.ofRaw? (gate.value Layout.control) = some operation) :
    ∃ dispatched, gate.answer read gate.request (.control operation) payload = .ok dispatched ∧
      gate.Dispatches memory dispatched := by
  have hraw : gate.value Layout.control = operation.raw := by
    unfold ControlOperation.ofRaw? at hop
    split_ifs at hop with h₁ h₂ h₃ <;> cases hop <;> assumption
  cases operation with
  | pollMessage =>
    simp only [answer, MessageQueue.popFront?]
    cases hqueue : gate.queue.messages with
    | nil => exact ⟨_, rfl, .waiting hraw hservice payload read hcopy hqueue⟩
    | cons message rest =>
      simp only [writeRegisters_write _ (by decide : Layout.service.Within), ok_bind]
      exact ⟨_, rfl, .polled hraw hservice payload read hcopy message rest hqueue⟩
  | listServices =>
    have hcontrol : gate.value Layout.control ≠ 1 := by rw [hraw]; decide
    exact ⟨_, rfl, .refused hpending hcontrol hservice payload read hcopy _ (by decide) _⟩
  | setNotifications =>
    have hcontrol : gate.value Layout.control ≠ 1 := by rw [hraw]; decide
    exact ⟨_, rfl, .refused hpending hcontrol hservice payload read hcopy _ (by decide) _⟩

lemma dispatch_spec [Service σ] [GuestMemory μ] (gate : Gate σ) (memory : μ) :
    ∃ dispatched, gate.dispatch memory = .ok dispatched ∧ gate.Dispatches memory dispatched := by
  simp only [dispatch, gate.readRegisters_read (by decide : Layout.control.Within), ok_bind]
  by_cases hidle : gate.value Layout.control = 0
  · rw [if_pos hidle]
    exact ⟨_, rfl, .idle hidle⟩
  rw [if_neg hidle, readRegisters_request]
  simp only [ok_bind]
  cases hcopy : GuestMemory.copyIn gate.request.requestAddr gate.request.requestLen memory with
  | error fault read => exact ⟨_, rfl, .faulted hidle fault read hcopy⟩
  | ok payload read =>
    have hrequest : gate.request.service = gate.value Layout.service := rfl
    simp only [Target.decode, hrequest]
    cases hid : ServiceId.ofRaw? (gate.value Layout.service) with
    | some id =>
      exact ⟨_, rfl, .called hidle payload read hcopy id (ServiceId.ofRaw?_eq_some.mp hid)⟩
    | none =>
      have hservice := ServiceId.ofRaw?_eq_none.mp hid
      cases hop : ControlOperation.ofRaw? (gate.value Layout.control) with
      | some operation =>
        exact answer_control gate memory read payload hidle hservice hcopy operation hop
      | none =>
        have hcontrol : gate.value Layout.control ≠ 1 := by
          intro h
          rw [h] at hop
          cases hop
        exact ⟨_, rfl, .refused hidle hcontrol hservice payload read hcopy _ (by simp) _⟩

@[simp] theorem withQueue_queue (gate : Gate σ) (queue : MessageQueue) :
    (gate.withQueue queue).queue = queue := rfl

@[simp] theorem value_withQueue {α : Type} [Stored α] [LawfulStored α] (gate : Gate σ)
    (queue : MessageQueue) (register : Register α) :
    (gate.withQueue queue).value register = gate.value register := rfl

end Gate

namespace Ticked

@[simp] theorem settle_memory (ticked : Ticked σ μ) (message : Message) :
    (ticked.settle message).memory = ticked.memory := by
  unfold settle putBack
  split <;> try rfl
  split <;> rfl

@[simp] theorem settle_result (ticked : Ticked σ μ) (message : Message) :
    (ticked.settle message).result = ticked.result := by
  unfold settle putBack
  split <;> try rfl
  split <;> rfl

/-- Settling a message decides about the queue only. -/
lemma settle_gate (ticked : Ticked σ μ) (message : Message) :
    ∃ queue, (ticked.settle message).gate = ticked.gate.withQueue queue := by
  unfold settle putBack
  split
  · exact ⟨ticked.gate.queue, rfl⟩
  · split
    · exact ⟨_, rfl⟩
    · exact ⟨ticked.gate.queue, rfl⟩
  · exact ⟨_, rfl⟩
  · exact ⟨_, rfl⟩
  · exact ⟨_, rfl⟩

@[simp] theorem settle_value {α : Type} [Stored α] [LawfulStored α] (ticked : Ticked σ μ)
    (message : Message) (register : Register α) :
    (ticked.settle message).gate.value register = ticked.gate.value register := by
  obtain ⟨queue, hqueue⟩ := ticked.settle_gate message
  rw [hqueue, Gate.value_withQueue]

end Ticked

namespace InFlight

@[simp] theorem amid_memory (call : InFlight σ μ) (others : Activity Unit) :
    (call.amid others).memory = call.memory := rfl

@[simp] theorem amid_request (call : InFlight σ μ) (others : Activity Unit) :
    (call.amid others).request = call.request := rfl

@[simp] theorem amid_answer (call : InFlight σ μ) (others : Activity Unit) :
    (call.amid others).answer = call.answer := rfl

@[simp] theorem value_amid {α : Type} [Stored α] [LawfulStored α] (call : InFlight σ μ)
    (others : Activity Unit) (register : Register α) :
    (call.amid others).gate.value register = call.gate.value register := rfl

/-- How the second half of a tick ends, by the answer that is reported. -/
inductive Finishes [GuestMemory μ] (call : InFlight σ μ) : Ticked σ μ → Prop
  | failed (code : ErrorCode) (hanswer : call.answer = .reply (.error code)) :
    Finishes call
      ⟨call.gate.assign Layout.responseCode code.raw, call.memory, .ok (.failed code),
        call.events ++ [] ++ [.finished call.target (.ok (.failed code))]⟩
  | responded (response : Bytes) (hanswer : call.answer = .reply (.ok response))
      (reported : Ticked σ μ)
      (hreported : call.gate.Responded call.memory call.request response reported) :
    Finishes call
      { reported with
        events := call.events ++ reported.events ++ [.finished call.target reported.result] }
  | delivered (message : Message) (hanswer : call.answer = .delivery message)
      (reported : Ticked σ μ)
      (hreported : call.gate.Responded call.memory call.request message.payload reported) :
    Finishes call
      { reported.settle message with
        events := call.events ++ (reported.settle message).events ++
          [.finished call.target (reported.settle message).result] }

lemma Finishes.config [GuestMemory μ] {call : InFlight σ μ} {ticked : Ticked σ μ}
    (h : call.Finishes ticked) : ticked.gate.config = call.gate.config := by
  cases h with
  | failed code hanswer => rfl
  | responded response hanswer reported hreported => exact hreported.config_registry.1
  | delivered message hanswer reported hreported =>
    obtain ⟨queue, hqueue⟩ := reported.settle_gate message
    show (reported.settle message).gate.config = call.gate.config
    rw [hqueue, ← hreported.config_registry.1]
    rfl

/-- Reporting an answer keeps the services. -/
lemma Finishes.services [GuestMemory μ] {call : InFlight σ μ} {ticked : Ticked σ μ}
    (h : call.Finishes ticked) : ticked.gate.registry.services = call.gate.registry.services := by
  cases h with
  | failed code hanswer => rfl
  | responded response hanswer reported hreported =>
    exact congrArg Registry.services hreported.config_registry.2
  | delivered message hanswer reported hreported =>
    obtain ⟨queue, hqueue⟩ := reported.settle_gate message
    show (reported.settle message).gate.registry.services = _
    rw [hqueue, ← hreported.config_registry.2]
    rfl

/-- Only the report of a message concerns the queue. -/
lemma Finishes.registry_of_reply [GuestMemory μ] {call : InFlight σ μ} {ticked : Ticked σ μ}
    (h : call.Finishes ticked) {result : CallResult} (hreply : call.answer = .reply result) :
    ticked.gate.registry = call.gate.registry := by
  cases h with
  | failed code hanswer => rfl
  | responded response hanswer reported hreported => exact hreported.config_registry.2
  | delivered message hanswer reported hreported => cases hreply.symm.trans hanswer

/-- A reply with a response is reported as it is. -/
lemma Finishes.of_response [GuestMemory μ] {call : InFlight σ μ} {ticked : Ticked σ μ}
    (h : call.Finishes ticked) {response : Bytes} (hreply : call.answer = .reply (.ok response)) :
    ∃ reported, call.gate.Responded call.memory call.request response reported ∧
      ticked.gate = reported.gate ∧ ticked.memory = reported.memory ∧
      ticked.result = reported.result := by
  cases h with
  | failed code hanswer => cases hreply.symm.trans hanswer
  | delivered message hanswer => cases hreply.symm.trans hanswer
  | responded response' hanswer reported hreported =>
    cases hreply.symm.trans hanswer
    exact ⟨reported, hreported, rfl, rfl, rfl⟩

lemma finish_spec [GuestMemory μ] (call : InFlight σ μ) :
    ∃ ticked, call.finish = .ok ticked ∧ call.Finishes ticked := by
  unfold finish report
  split
  · next response hanswer =>
    obtain ⟨reported, hrespond, hreported⟩ :=
      call.gate.respond_spec call.memory call.request response
    rw [hrespond]
    exact ⟨_, rfl, .responded response hanswer reported hreported⟩
  · next code hanswer =>
    rw [Gate.fail_eq]
    exact ⟨_, rfl, .failed code hanswer⟩
  · next message hanswer =>
    obtain ⟨reported, hrespond, hreported⟩ :=
      call.gate.respond_spec call.memory call.request message.payload
    rw [hrespond]
    exact ⟨_, rfl, .delivered message hanswer reported hreported⟩

end InFlight

namespace Gate

variable [Service σ] [GuestMemory μ]

lemma Dispatches.config {gate : Gate σ} {memory : μ} {call : InFlight σ μ}
    (h : gate.Dispatches memory (.inFlight call)) : call.gate.config = gate.config := by
  cases h <;> rfl

/-- What a tick amid sends by others comes to. -/
inductive Ticks (gate : Gate σ) (memory : μ) (others : Activity Unit) : Ticked σ μ → Prop
  | ended (ticked : Ticked σ μ) (heq : gate.dispatch memory = .ok (.ended ticked))
      (hdispatch : gate.Dispatches memory (.ended ticked)) :
    Ticks gate memory others
      { ticked with
        gate := (ticked.gate.perform others).value.2
        events := ticked.events ++ (ticked.gate.perform others).events }
  | finished (call : InFlight σ μ) (heq : gate.dispatch memory = .ok (.inFlight call))
      (hdispatch : gate.Dispatches memory (.inFlight call)) (ticked : Ticked σ μ)
      (hfinish : (call.amid others).Finishes ticked) :
    Ticks gate memory others ticked

lemma Ticks.config {gate : Gate σ} {memory : μ} {others : Activity Unit} {ticked : Ticked σ μ}
    (h : gate.Ticks memory others ticked) : ticked.gate.config = gate.config := by
  cases h with
  | ended ended _ hdispatch => cases hdispatch <;> rfl
  | finished call _ hdispatch _ hfinish => exact hfinish.config.trans hdispatch.config

lemma tickAmid_spec (gate : Gate σ) (memory : μ) (others : Activity Unit) :
    ∃ ticked, gate.tickAmid memory others = .ok ticked ∧ gate.Ticks memory others ticked := by
  obtain ⟨dispatched, heq, hdispatch⟩ := gate.dispatch_spec memory
  unfold tickAmid
  rw [heq, ok_bind]
  cases dispatched with
  | ended ticked => exact ⟨_, rfl, .ended ticked heq hdispatch⟩
  | inFlight call =>
    obtain ⟨ticked, hfinish, hspec⟩ := (call.amid others).finish_spec
    exact ⟨ticked, hfinish, .finished call heq hdispatch ticked hspec⟩

/-- The call of a service whose request has been read. -/
def calling (gate : Gate σ) (read : μ) (id : ServiceId) (payload : Bytes) : InFlight σ μ :=
  ⟨{ gate with registry := (gate.registry.call id payload).registry }, read, gate.request,
    .service id, .reply (gate.registry.call id payload).result,
    .dispatching (.service id) payload.length :: (gate.registry.call id payload).events⟩

/-- A pending request that names a service and can be read is a call of it. -/
lemma Ticks.finishes_calling {gate : Gate σ} {memory read : μ} {others : Activity Unit}
    {ticked : Ticked σ μ} (h : gate.Ticks memory others ticked) {id : ServiceId} {payload : Bytes}
    (hpending : gate.value Layout.control ≠ 0) (hservice : gate.value Layout.service = id.raw)
    (hcopy : GuestMemory.copyIn gate.request.requestAddr gate.request.requestLen memory =
      .ok payload read) : ((gate.calling read id payload).amid others).Finishes ticked := by
  have hnonzero : gate.value Layout.service ≠ 0 := by
    rw [hservice]
    exact id.nonzero
  cases h with
  | ended ended _ hdispatch =>
    cases hdispatch with
    | idle hidle => exact absurd hidle hpending
    | faulted _ fault read' hcopy' => cases hcopy.symm.trans hcopy'
    | waiting _ hzero => exact absurd hzero hnonzero
  | finished call _ hdispatch _ hfinish =>
    cases hdispatch with
    | polled _ hzero => exact absurd hzero hnonzero
    | refused _ _ hzero => exact absurd hzero hnonzero
    | called _ payload' read' hcopy' id' hid' =>
      cases hcopy.symm.trans hcopy'
      cases ServiceId.ext_raw (hservice.symm.trans hid')
      exact hfinish

end Gate

end HostCalls
