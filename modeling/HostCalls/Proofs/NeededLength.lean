import HostCalls.Proofs.FailedTicks

/-!
# The length that a buffer needs

A guest that is told its buffer is too small looks into the length register for the size that it
needs. The gate gives this code for one reason only, and the register then holds the length of the
response. But a service may refuse a request with any code, this one included, and its refusal is
passed on as it is: there is no response then, and the register is left alone. `Fails` lists why
a tick fails, each reason with its code; what the register holds afterwards is read off it.
-/
namespace HostCalls

variable {σ : Type}

namespace Gate

variable [Service σ]

/-- The service that the request calls refuses it with a code of its own. -/
def RefusedWith (gate : Gate σ) (memory : PagedMemory) (code : ErrorCode) : Prop :=
  ∃ id service, gate.request.Calls gate.registry.services memory id ∧
    gate.registry.services.find? id = some service ∧
    ((Service.handle service (gate.request.payload memory)).perform gate.queue).result.1 =
      .error code

/-- Why a tick fails, and with which code. -/
inductive Fails (gate : Gate σ) (memory : PagedMemory) : ErrorCode → Prop
  /-- The response is beyond the limit of the gate. -/
  | tooLong (response : Bytes) (hresponse : gate.response? memory = some response)
      (hlong : gate.config.maxPayloadLen.toNat < response.length) :
    Fails gate memory GateCode.internalError.error
  /-- The response is within the limit, and larger than the buffer. -/
  | tooSmall (response : Bytes) (hresponse : gate.response? memory = some response)
      (hlen : response.length ≤ gate.config.maxPayloadLen.toNat)
      (hsmall : gate.request.responseSize.toNat < response.length) :
    Fails gate memory GateCode.bufferTooSmall.error
  /-- The control channel has no such operation. -/
  | noOperation (hnone : gate.response? memory = none) : Fails gate memory GateCode.invalidArg.error
  /-- There is no such service. -/
  | noService (hnone : gate.response? memory = none) : Fails gate memory GateCode.notFound.error
  /-- The service refuses the request. -/
  | refused (code : ErrorCode) (hnone : gate.response? memory = none)
      (hrefused : gate.RefusedWith memory code) : Fails gate memory code

variable {gate : Gate σ} {memory : PagedMemory} {others : Activity Unit}
  {ticked : Ticked σ PagedMemory} {code : ErrorCode}

/-- A call that is answered with an error was refused by its service, or there is none. -/
lemma fails_of_call_error {id : ServiceId} {payload : Bytes} {read : PagedMemory}
    (hpending : gate.value Layout.control ≠ 0) (hid : gate.value Layout.service = id.raw)
    (hcopy : GuestMemory.copyIn gate.request.requestAddr gate.request.requestLen memory =
      .ok payload read)
    (hnone : gate.response? memory = none)
    (herror : (gate.registry.call id payload).result = .error code) : gate.Fails memory code := by
  cases hfind : gate.registry.services.find? id with
  | none =>
    rw [gate.registry.call_of_not_find hfind] at herror
    cases herror
    exact .noService hnone
  | some service =>
    have hreadable := PagedMemory.permits_of_copyIn hcopy
    have hregistered : gate.registry.services.contains id = true := by
      rw [Table.contains, hfind, Option.isSome_some]
    cases hcopy.symm.trans (PagedMemory.copyIn_of_permits hreadable)
    rw [gate.registry.call_of_find hfind] at herror
    exact .refused code hnone
      ⟨id, service, ⟨hpending, hid, hregistered, hreadable⟩, hfind, herror⟩

/-- A tick fails for one of the reasons. -/
lemma Ticks.fails (h : gate.Ticks memory others ticked)
    (hfailed : ticked.result = .ok (.failed code)) : gate.Fails memory code := by
  cases hresponse : gate.response? memory with
  | some response =>
    obtain ⟨answering, reported, hconfig, _, hreported, _, _, hresult⟩ :=
      h.exists_responded hresponse
    rw [hresult] at hfailed
    cases hreported with
    | tooLong hlong =>
      cases hfailed
      rw [hconfig] at hlong
      exact .tooLong response hresponse hlong
    | tooSmall hlen hsmall =>
      cases hfailed
      rw [hconfig] at hlen
      exact .tooSmall response hresponse hlen hsmall
    | faulted => cases hfailed
    | completed => cases hfailed
  | none =>
    cases h with
    | ended ended _ hdispatch => cases hdispatch <;> cases hfailed
    | finished call _ hdispatch _ hfinish =>
      have hanswer : call.answer.response? = none :=
        hdispatch.response?_inFlight.symm.trans hresponse
      cases hfinish with
      | responded response hreply =>
        have hreply : call.answer = .reply (.ok response) := hreply
        rw [hreply] at hanswer
        cases hanswer
      | delivered message hdelivery =>
        have hdelivery : call.answer = .delivery message := hdelivery
        rw [hdelivery] at hanswer
        cases hanswer
      | failed code' hreply =>
        cases hfailed
        cases hdispatch with
        | called hpending payload read hcopy id hid =>
          exact fails_of_call_error hpending hid hcopy hresponse (Answer.reply.inj hreply)
        | polled => cases hreply
        | refused =>
          cases hreply
          exact .noOperation hresponse

/-- A refusal leaves no response. -/
lemma RefusedWith.response? (h : gate.RefusedWith memory code) : gate.response? memory = none := by
  obtain ⟨id, service, ⟨hpending, hnamed, _, hreadable⟩, hfind, herror⟩ := h
  have hcall : (gate.registry.call id (gate.request.payload memory)).result = .error code := by
    rw [gate.registry.call_of_find hfind]
    exact herror
  have hcontrol : gate.value Layout.control ≠ 0 := hpending
  have hservice : gate.value Layout.service = id.raw := hnamed
  rw [Gate.response?, if_neg hcontrol, PagedMemory.copyIn_of_permits hreadable, hservice,
    ServiceId.ofRaw?_raw]
  exact congrArg Except.toOption hcall

/-- Without a response nothing missed the buffer. -/
lemma missed?_of_none (h : gate.response? memory = none) : gate.missed? memory = none := by
  rw [missed?, h, Option.bind_none]

/-- A tick that fails on account of the buffer had a response for it, unless it passes on the code
of a service. -/
lemma Fails.exists_response (h : gate.Fails memory code)
    (hcode : code.gateCode? = some .bufferTooSmall) (hown : ¬ gate.RefusedWith memory code) :
    ∃ response, gate.response? memory = some response ∧
      response.length ≤ gate.config.maxPayloadLen.toNat ∧
      gate.request.responseSize.toNat < response.length := by
  cases h with
  | tooSmall response hresponse hlen hsmall => exact ⟨response, hresponse, hlen, hsmall⟩
  | refused _ _ hrefused => exact absurd hrefused hown
  | tooLong | noOperation | noService =>
    rw [GateCode.gateCode?_error] at hcode
    cases hcode

/-- No length is to be reported by a tick that fails with another code. -/
lemma Fails.missed?_of_ne (h : gate.Fails memory code)
    (hcode : code.gateCode? ≠ some .bufferTooSmall) : gate.missed? memory = none := by
  cases h with
  | tooLong response hresponse hlong =>
    rw [missed?, hresponse, Option.bind_some, missedLength?, if_neg (by omega)]
  | tooSmall => exact absurd (GateCode.gateCode?_error _) hcode
  | noOperation hnone => exact missed?_of_none hnone
  | noService hnone => exact missed?_of_none hnone
  | refused _ hnone => exact missed?_of_none hnone

lemma Ticks.responseSize_of_failed (h : gate.Ticks memory others ticked)
    (hfailed : ticked.result = .ok (.failed code)) :
    ticked.gate.value Layout.responseSize = gate.value Layout.responseSize := by
  rw [h.value_of_failed hfailed, reporting, value_assign_apart _ (by decide),
    value_assign?_apart _ (by decide), value_assign?_apart _ (by decide)]

end Gate

/-- A tick that fails because the buffer is too small, and not because the service that it called
refused the request with this very code, leaves the length of a response in the register, and the
length is larger than the size of the buffer. A refusal, with whatever code, leaves the register
as it was, and so does every tick that fails with another code. -/
theorem too_small_buffer_told_needed_length [Service σ] (gate : Gate σ) (memory : PagedMemory)
    (others : Activity Unit) :
    ∃ ticked before, gate.tickAmid memory others = .ok ticked ∧
      gate.readRegisters Layout.responseLen.read = .ok before ∧
      ∀ code, ticked.result = .ok (.failed code) →
        ∃ len size, ticked.gate.readRegisters Layout.responseLen.read = .ok len ∧
          ticked.gate.readRegisters Layout.responseSize.read = .ok size ∧
          (code.gateCode? = some .bufferTooSmall → ¬ gate.RefusedWith memory code →
            ∃ response, gate.response? memory = some response ∧ len.toNat = response.length ∧
              size < len) ∧
          (gate.RefusedWith memory code → len = before) ∧
          (code.gateCode? ≠ some .bufferTooSmall → len = before) := by
  obtain ⟨ticked, htick, hspec⟩ := gate.tickAmid_spec memory others
  refine ⟨ticked, _, htick, gate.readRegisters_read (by decide), ?_⟩
  intro code hfailed
  have hfails := hspec.fails hfailed
  have hlength := hspec.responseLen_of_failed hfailed
  have hsize := hspec.responseSize_of_failed hfailed
  refine ⟨_, _, ticked.gate.readRegisters_read (by decide),
    ticked.gate.readRegisters_read (by decide), ?_, ?_, ?_⟩
  · intro hcode hown
    obtain ⟨response, hresponse, hlen, hsmall⟩ := hfails.exists_response hcode hown
    have hmissed : gate.missed? memory = some (.ofNat response.length) := by
      rw [Gate.missed?, hresponse, Option.bind_some, missedLength?, if_pos ⟨hsmall, hlen⟩]
    rw [hmissed, Option.getD_some] at hlength
    have hnat := gate.toNat_length hlen
    refine ⟨response, hresponse, by rw [hlength, hnat], ?_⟩
    rw [UInt32.lt_iff_toNat_lt, hlength, hnat, hsize]
    exact hsmall
  · intro hrefused
    rw [hlength, Gate.missed?_of_none hrefused.response?, Option.getD_none]
  · intro hcode
    rw [hlength, hfails.missed?_of_ne hcode, Option.getD_none]

/-- A service, and a call of it with a buffer of two bytes. -/
def Gate.crampedCall (id : ServiceId) (service : Stock) (gate : Gate Stock) :
    Except Abort (Gate Stock) :=
  (gate.register id service).value.writeRegisters (Request.toService id 0 0 0 2).write

/-- An answer of three bytes does not fit, and three is the length that the guest is told. -/
theorem crampedCall_told_needed_length :
    ∃ gate ticked len size,
      (Gate.new {} >>= Gate.crampedCall ⟨46, by decide⟩ (.const [1, 2, 3])) = .ok gate ∧
      gate.tickAmid PagedMemory.onePage (.done ()) = .ok ticked ∧
      ticked.result = .ok (.failed GateCode.bufferTooSmall.error) ∧
      ticked.gate.readRegisters Layout.responseLen.read = .ok len ∧ len = 3 ∧
      ticked.gate.readRegisters Layout.responseSize.read = .ok size ∧ size < len := by
  have hseen : (do
      let gate ← Gate.new {} >>= Gate.crampedCall ⟨46, by decide⟩ (.const [1, 2, 3])
      let ticked ← gate.tickAmid PagedMemory.onePage (.done ())
      return (gate.response? PagedMemory.onePage, ticked.result)) =
      .ok (some [1, 2, 3], .ok (.failed GateCode.bufferTooSmall.error)) := by decide +kernel
  obtain ⟨gate, hgate, hseen⟩ := exists_of_bind_ok hseen
  obtain ⟨ticked, htick, hseen⟩ := exists_of_bind_ok hseen
  simp only [pure, Except.pure, Except.ok.injEq, Prod.mk.injEq] at hseen
  obtain ⟨hresponse, hresult⟩ := hseen
  obtain ⟨ticked', _, htick', _, hfailed⟩ :=
    too_small_buffer_told_needed_length gate .onePage (.done ())
  cases htick.symm.trans htick'
  obtain ⟨len, size, hlen, hsize, hneeded, _⟩ := hfailed _ hresult
  have hown : ¬ gate.RefusedWith .onePage GateCode.bufferTooSmall.error := by
    intro hrefused
    cases hrefused.response?.symm.trans hresponse
  obtain ⟨response, hresponse', hlength, hlt⟩ := hneeded (GateCode.gateCode?_error _) hown
  cases hresponse.symm.trans hresponse'
  obtain rfl : len = 3 := UInt32.toNat_inj.mp hlength
  exact ⟨gate, ticked, 3, size, hgate, htick, hresult, hlen, rfl, hsize, hlt⟩

/-- A service that says itself that the buffer is too small leaves the guest without a length: there
is no response, and the register still has its initial 0, which is less than the buffer holds. -/
theorem refusal_tells_no_length :
    (do
      let gate ← Gate.new {} >>= Gate.crampedCall ⟨47, by decide⟩
        (.error GateCode.bufferTooSmall.error)
      let ticked ← gate.tick PagedMemory.onePage
      return ((ticked.result, gate.response? PagedMemory.onePage),
        (← ticked.gate.readRegisters Layout.responseLen.read,
          ← ticked.gate.readRegisters Layout.responseSize.read))) =
      .ok ((.ok (.failed GateCode.bufferTooSmall.error), none), (0, 2)) ∧
    GateCode.bufferTooSmall.error.gateCode? = some .bufferTooSmall ∧ ¬ (2 : UInt32) < 0 := by
  decide +kernel

end HostCalls
