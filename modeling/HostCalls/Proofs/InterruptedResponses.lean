import HostCalls.Proofs.FailedTicks
import HostCalls.Proofs.PartialWrites

/-!
# Responses that are interrupted

A response that is short enough is announced before it is copied: its length is in the register, and
for a poll the origin of the message is in the service register. If the copy then faults, the
announcement stays, and so do the bytes before the fault. The message goes back to where it was,
and the request is pending as before.
-/
namespace HostCalls

variable {σ : Type}

namespace Gate

section

variable {gate : Gate σ}

/-- The gate with a response announced. -/
def announcing (gate : Gate σ) (response : Bytes) : Gate σ :=
  (gate.assign? Layout.service (gate.polled?.map fun message => message.origin.raw)).assign
    Layout.responseLen (.ofNat response.length)

@[simp] theorem config_announcing (gate : Gate σ) (response : Bytes) :
    (gate.announcing response).config = gate.config := by
  show (gate.assign? _ _).config = gate.config
  rw [config_assign?]

/-- The registers after an announcement. Of those that a guest looks at, `control` and the response
code keep their values. -/
lemma status_announcing (gate : Gate σ) (response : Bytes) :
    (gate.announcing response).status =
      { gate.status with
        service := (gate.polled?.map fun message => message.origin.raw).getD
          (gate.value Layout.service)
        responseLen := .ofNat response.length } := by
  simp (disch := decide) only [status, announcing, value_assign, value_assign_apart, value_assign?,
    value_assign?_apart]

/-- An announcement changes no byte of the page but those of the two registers. -/
lemma mem_of_byteAt_announcing_ne {response : Bytes} {i : Nat}
    (h : (gate.announcing response).page.byteAt i ≠ gate.page.byteAt i) :
    (gate.place Layout.responseLen ≤ i ∧ i < gate.place Layout.responseLen + 4) ∨
    (gate.polled?.isSome = true ∧
      gate.place Layout.service ≤ i ∧ i < gate.place Layout.service + 4) := by
  unfold announcing at h
  generalize hnamed : gate.assign? Layout.service
    (gate.polled?.map fun message => message.origin.raw) = named at h
  by_cases hlen : (named.assign Layout.responseLen (.ofNat response.length)).page.byteAt i =
    named.page.byteAt i
  · rw [hlen, ← hnamed] at h
    have hin := gate.mem_of_byteAt_assign?_ne _ _ h
    rw [Option.isSome_map] at hin
    exact .inr hin
  · have hin := named.mem_of_byteAt_assign_ne _ _ hlen
    have hconfig : named.config = gate.config := by rw [← hnamed, config_assign?]
    simp only [place, hconfig] at hin
    exact .inl hin

end

variable [Service σ] {gate : Gate σ} {memory : PagedMemory} {others : Activity Unit}
  {ticked : Ticked σ PagedMemory} {response : Bytes} {i : Nat} {fault : Fault}

/-- A response that fits but cannot be written as a whole is announced and written in part. -/
lemma Ticks.interrupted (h : gate.Ticks memory others ticked)
    (hresponse : gate.response? memory = some response)
    (hlen : response.length ≤ gate.config.maxPayloadLen.toNat)
    (hsize : response.length ≤ gate.request.responseSize.toNat)
    (hfirst : memory.FirstFault .writeOnly gate.request.responseAddr response.length i fault) :
    ticked.result = .error fault ∧ ticked.gate.page = (gate.announcing response).page ∧
      memory.Patched gate.request.responseAddr.toNat (response.take i) ticked.memory := by
  obtain ⟨answering, reported, hconfig, hpage, hreported, hend, hmemory, hresult⟩ :=
    h.exists_responded hresponse
  obtain ⟨written, hcopy, hpatched⟩ := hfirst.copyOut
  rw [← hconfig] at hlen
  rw [hresult, hend, hmemory]
  cases hreported with
  | tooLong hlong => exact absurd hlong (Nat.not_lt.mpr hlen)
  | tooSmall _ hsmall => exact absurd hsmall (Nat.not_lt.mpr hsize)
  | completed _ _ written' hcopy' => cases hcopy.symm.trans hcopy'
  | faulted _ _ fault' written' hcopy' =>
    cases hcopy.symm.trans hcopy'
    refine ⟨rfl, ?_, hpatched⟩
    exact page_assign_congr hpage (by rw [hconfig, config_assign?]) _ _

/-- The response to a poll is the oldest message, for a request that can be read. -/
lemma exists_message_of_response? (hcontrol : gate.value Layout.control = 1)
    (hservice : gate.value Layout.service = 0) (hresponse : gate.response? memory = some response) :
    ∃ message rest payload read, gate.queue.messages = message :: rest ∧
      message.payload = response ∧
      GuestMemory.copyIn gate.request.requestAddr gate.request.requestLen memory =
        .ok payload read := by
  rw [response?, hcontrol, hservice, if_neg (by decide)] at hresponse
  cases hcopy : GuestMemory.copyIn gate.request.requestAddr gate.request.requestLen memory with
  | error fault read =>
    rw [hcopy] at hresponse
    cases hresponse
  | ok payload read =>
    rw [hcopy] at hresponse
    cases hqueue : gate.queue.messages with
    | nil =>
      rw [hqueue] at hresponse
      cases hresponse
    | cons message rest =>
      rw [hqueue] at hresponse
      exact ⟨message, rest, payload, read, rfl, Option.some.inj hresponse, rfl⟩

/-- The message of a poll that faulted is back at the front, before what others have sent. -/
lemma Ticks.registry_of_faulted_poll (h : gate.Ticks memory others ticked)
    (hcontrol : gate.value Layout.control = 1) (hservice : gate.value Layout.service = 0)
    {payload : Bytes} {read : PagedMemory}
    (hcopy : GuestMemory.copyIn gate.request.requestAddr gate.request.requestLen memory =
      .ok payload read)
    {message : Message} {rest : List Message} (hqueue : gate.queue.messages = message :: rest)
    (hfault : ticked.result = .error fault) :
    ticked.gate.registry =
      { gate.registry with
        queue :=
          (others.perform { gate.queue with messages := rest }).queue.pushFront message } := by
  obtain ⟨hempty, _⟩ | ⟨_, _, reported, hqueue', hreported, hgate, _, hresult⟩ :=
    h.poll hcontrol hservice hcopy
  · cases hempty.symm.trans hqueue
  · cases hqueue.symm.trans hqueue'
    have hback : reported.settle message = reported.putBack message := by
      unfold Ticked.settle
      rw [← hresult, hfault]
    rw [hgate, hback]
    exact hreported.registry_putBack

end Gate

/-- A response within the limit that has room in the buffer, but a byte that may not be written,
comes to the fault of the first such byte. Guest memory holds the bytes before it and is otherwise
as it was. The request stays pending and the response code what it was; the length of the response
is reported. A poll has the origin of its message in the service register and the message back at
the front of the queue, other requests keep the service register, and nothing else in the page
changes. -/
theorem interrupted_response_leaves_prefix [Service σ] (gate : Gate σ) (memory : PagedMemory)
    (others : Activity Unit) {request : Request} {before : Status}
    (hread : gate.readRegisters Request.read = .ok request)
    (hbefore : gate.readRegisters Status.read = .ok before) {response : Bytes}
    (hresponse : gate.response? memory = some response)
    (hlen : response.length ≤ gate.config.maxPayloadLen.toNat)
    (hsize : response.length ≤ request.responseSize.toNat) {i : Nat} {fault : Fault}
    (hfirst : memory.FirstFault .writeOnly request.responseAddr response.length i fault) :
    ∃ ticked after, gate.tickAmid memory others = .ok ticked ∧ ticked.result = .error fault ∧
      request.responseAddr.toNat + i ≤ 0x100000000 ∧
      (request.responseAddr.toNat + i < 0x100000000 →
        fault.addr.toNat = request.responseAddr.toNat + i) ∧
      (request.responseAddr.toNat + i = 0x100000000 →
        fault = ⟨.outOfRange, request.responseAddr⟩) ∧
      memory.Patched request.responseAddr.toNat (response.take i) ticked.memory ∧
      ticked.gate.readRegisters Status.read = .ok after ∧ after.control = before.control ∧
      after.responseCode = before.responseCode ∧ after.responseLen.toNat = response.length ∧
      (¬ (request.control = 1 ∧ request.service = 0) → after.service = before.service) ∧
      (request.control = 1 → request.service = 0 →
        ∃ message rest, gate.queue.messages = message :: rest ∧ message.payload = response ∧
          after.service = message.origin.raw ∧
          ticked.gate.registry.services = gate.registry.services ∧
          ticked.gate.queue =
            (others.perform { gate.queue with messages := rest }).queue.pushFront message ∧
          (others = .done () → ticked.gate.queue = gate.queue)) ∧
      ∀ k : Fin pageSize, ticked.gate.page.get k ≠ gate.page.get k →
        (gate.config.registerOffset.toNat + 0x1c ≤ k.val ∧
          k.val < gate.config.registerOffset.toNat + 0x20) ∨
        (request.control = 1 ∧ request.service = 0 ∧
          gate.config.registerOffset.toNat + 0x04 ≤ k.val ∧
          k.val < gate.config.registerOffset.toNat + 0x08) := by
  cases gate.readRegisters_request.symm.trans hread
  cases gate.readRegisters_status.symm.trans hbefore
  obtain ⟨ticked, htick, hspec⟩ := gate.tickAmid_spec memory others
  obtain ⟨hresult, hpage, hpatched⟩ := hspec.interrupted hresponse hlen hsize hfirst
  have hstatus : ticked.gate.status = (gate.announcing response).status := by
    simp only [Gate.status, Gate.value_congr hpage (hspec.config.trans (by simp))]
  rw [gate.status_announcing] at hstatus
  refine ⟨ticked, _, htick, hresult, hfirst.le_end, fun hlt => (hfirst.fault_of_lt hlt).1,
    hfirst.fault_of_end, hpatched, ticked.gate.readRegisters_status, ?_⟩
  rw [hstatus]
  refine ⟨rfl, rfl, gate.toNat_length hlen, ?_, ?_, ?_⟩
  · intro hother
    have hnone : gate.polled? = none := if_neg hother
    rw [hnone]
    rfl
  · intro hcontrol hservice
    obtain ⟨message, rest, payload, read, hqueue, hpayload, hcopy⟩ :=
      Gate.exists_message_of_response? hcontrol hservice hresponse
    have hpolled : gate.polled? = some message := by
      rw [Gate.polled?, if_pos ⟨hcontrol, hservice⟩, hqueue, List.head?_cons]
    have hregistry := hspec.registry_of_faulted_poll hcontrol hservice hcopy hqueue hresult
    refine ⟨message, rest, hqueue, hpayload, ?_, ?_, ?_, ?_⟩
    · rw [hpolled]
      rfl
    · rw [hregistry]
    · rw [Gate.queue, hregistry]
    · rintro rfl
      rw [Gate.queue, hregistry]
      exact congrArg Registry.queue (gate.registry_pushFront hqueue)
  · intro k hne
    rw [← Page.byteAt_of_lt _ k.isLt, ← Page.byteAt_of_lt _ k.isLt, hpage] at hne
    obtain hin | ⟨hpolled, hin⟩ := Gate.mem_of_byteAt_announcing_ne hne
    · exact .inl hin
    · obtain ⟨hcontrol, hservice⟩ := Gate.polling_of_polled? hpolled
      exact .inr ⟨hcontrol, hservice, hin⟩

/-- A message of three bytes, and a poll for it with a buffer across the end of the first page. -/
def Gate.straddlingPoll (gate : Gate Stock) : Except Abort (Gate Stock) :=
  (gate.perform (.send ⟨⟨45, by decide⟩⟩ [1, 2, 3] fun _ => .done ())).value.2.writeRegisters
    (Request.toControl .pollMessage 0x0ffe 8).write

/-- The second page can only be read, so that two bytes are written. The guest learns that there are
three and where they come from, and the message is still in the queue. -/
theorem straddlingPoll_leaves_prefix :
    ∃ gate memory ticked after, (Gate.new {} >>= Gate.straddlingPoll) = .ok gate ∧
      PagedMemory.readOnlyBehind = .ok memory ∧ gate.tickAmid memory (.done ()) = .ok ticked ∧
      ticked.result = .error ⟨.protection, 0x1000⟩ ∧
      memory.Patched 0x0ffe [1, 2] ticked.memory ∧
      ticked.gate.readRegisters Status.read = .ok after ∧ after = ⟨1, 45, 0, 3⟩ ∧
      gate.pending = 1 ∧ ticked.gate.queue = gate.queue := by
  have hseen : (do
      let gate ← Gate.new {} >>= Gate.straddlingPoll
      let memory ← PagedMemory.readOnlyBehind
      return ((← gate.readRegisters Request.read, gate.config.maxPayloadLen.toNat),
        (gate.response? memory, decide (memory.Permits .writeOnly 0x0ffe 2),
          memory.faultAt? .writeOnly 0x0ffe 2))) =
      .ok ((Request.toControl .pollMessage 0x0ffe 8, 4096),
        (some [1, 2, 3], true, some ⟨.protection, 0x1000⟩)) := by
    decide +kernel
  have hbefore : (do
      let gate ← Gate.new {} >>= Gate.straddlingPoll
      return (← gate.readRegisters Status.read,
        gate.queue.messages.map fun message : Message => message.origin.raw)) =
      .ok (⟨1, 0, 0, 0⟩, [45]) := by
    decide +kernel
  obtain ⟨gate, hgate, hseen⟩ := exists_of_bind_ok hseen
  rw [hgate, ok_bind] at hbefore
  obtain ⟨before, hbefore, horigins⟩ := exists_of_bind_ok hbefore
  obtain ⟨memory, hmemory, hseen⟩ := exists_of_bind_ok hseen
  obtain ⟨request, hrequest, hseen⟩ := exists_of_bind_ok hseen
  simp only [pure, Except.pure, Except.ok.injEq, Prod.mk.injEq, decide_eq_true_eq] at hseen horigins
  obtain ⟨⟨rfl, hmax⟩, hresponse, hpermits, hcause⟩ := hseen
  obtain ⟨rfl, horigins⟩ := horigins
  obtain ⟨ticked, after, htick, hresult, _, _, _, hpatched, hafter, hcontrol, hcode, hlen, _, hpoll,
    _⟩ := interrupted_response_leaves_prefix gate memory (.done ()) hrequest hbefore hresponse
      (by rw [hmax]; decide) (by decide) ⟨by decide, hpermits, hcause⟩
  obtain ⟨message, rest, hmessages, _, hservice, _, _, hkept⟩ := hpoll rfl rfl
  rw [hmessages, List.map_cons, List.cons.injEq, List.map_eq_nil_iff] at horigins
  obtain ⟨horigin, rfl⟩ := horigins
  rw [horigin] at hservice
  have hstatus : after = ⟨1, 45, 0, 3⟩ := by
    obtain ⟨control, service, code, len⟩ := after
    obtain rfl : len = 3 := UInt32.toNat_inj.mp hlen
    cases hcontrol
    cases hcode
    cases hservice
    rfl
  exact ⟨gate, memory, ticked, after, hgate, hmemory, htick, hresult, hpatched, hafter, hstatus,
    by rw [Gate.pending, MessageQueue.length, hmessages]; rfl, hkept rfl⟩

end HostCalls
