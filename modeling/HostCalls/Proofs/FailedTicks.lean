import HostCalls.Proofs.Confinement
import HostCalls.Proofs.HeldMessages
import HostCalls.Proofs.Invocations

/-!
# What a failed tick leaves behind

A tick fails for many reasons: nobody has the id, the service refuses, the operation is reserved
or unknown, the response is too long for the gate or too large for the buffer. All of them come
down to the same three stores: the origin of the message if it was a poll, the length if a response
only missed the buffer, and the code in any case. The page after the tick is the page with
these stores made, and the rest is read off them. Guest memory stays as it was, and a request on the
control channel leaves services and messages as they were.
-/
namespace HostCalls

variable {σ μ : Type}

/-! ## Stores of values that there may be -/

namespace Gate

section

variable {α β : Type} [Stored α] [LawfulStored α] [Stored β] [LawfulStored β]

/-- The gate with another value in a register, if there is one. -/
def assign? (gate : Gate σ) (register : Register α) : Option α → Gate σ
  | none => gate
  | some a => gate.assign register a

@[simp] theorem config_assign? (gate : Gate σ) (register : Register α) (a? : Option α) :
    (gate.assign? register a?).config = gate.config := by
  cases a? <;> rfl

lemma value_assign? (gate : Gate σ) {register : Register α} (h : register.Within) (a? : Option α) :
    (gate.assign? register a?).value register = a?.getD (gate.value register) := by
  cases a? with
  | none => rfl
  | some a => exact gate.value_assign h a

lemma value_assign?_apart (gate : Gate σ) {register : Register α} {other : Register β}
    (h : register.Apart other) (b? : Option β) :
    (gate.assign? other b?).value register = gate.value register := by
  cases b? with
  | none => rfl
  | some b => exact gate.value_assign_apart h b

lemma mem_of_byteAt_assign?_ne (gate : Gate σ) (register : Register α) (a? : Option α) {i : Nat}
    (h : (gate.assign? register a?).page.byteAt i ≠ gate.page.byteAt i) :
    a?.isSome = true ∧ gate.place register ≤ i ∧ i < gate.place register + Stored.width α := by
  cases a? with
  | none => exact absurd rfl h
  | some a => exact ⟨rfl, gate.mem_of_byteAt_assign_ne register a h⟩

/-- What a store makes of a page does not depend on the rest of the gate. -/
lemma page_assign_congr {gate other : Gate σ} (hpage : other.page = gate.page)
    (hconfig : other.config = gate.config) (register : Register α) (a : α) :
    (other.assign register a).page = (gate.assign register a).page := by
  simp only [assign, place, hpage, hconfig]

lemma page_assign?_congr {gate other : Gate σ} (hpage : other.page = gate.page)
    (hconfig : other.config = gate.config) (register : Register α) (a? : Option α) :
    (other.assign? register a?).page = (gate.assign? register a?).page := by
  cases a? with
  | none => exact hpage
  | some a => exact page_assign_congr hpage hconfig register a

end

end Gate

/-! ## The page after a failed tick -/

/-- The length to be reported for a response that is within the limit but too large for the
buffer. -/
def missedLength? (size : UInt32) (limit : UInt64) (response : Bytes) : Option UInt32 :=
  if size.toNat < response.length ∧ response.length ≤ limit.toNat then some (.ofNat response.length)
  else none

lemma Gate.Responded.page_of_failed [GuestMemory μ] {gate : Gate σ} {memory : μ} {request : Request}
    {response : Bytes} {ticked : Ticked σ μ} (h : gate.Responded memory request response ticked)
    {code : ErrorCode} (hfailed : ticked.result = .ok (.failed code)) :
    ticked.gate.page =
      ((gate.assign? Layout.responseLen
        (missedLength? request.responseSize gate.config.maxPayloadLen response)).assign
          Layout.responseCode code.raw).page := by
  cases h with
  | tooLong hlong =>
    cases hfailed
    rw [missedLength?, if_neg (by omega)]
    rfl
  | tooSmall hlen hsmall =>
    cases hfailed
    rw [missedLength?, if_pos ⟨hsmall, hlen⟩]
    rfl
  | faulted => cases hfailed
  | completed => cases hfailed

lemma InFlight.Finishes.page_of_failed [GuestMemory μ] {call : InFlight σ μ} {ticked : Ticked σ μ}
    (h : call.Finishes ticked) {code : ErrorCode} (hfailed : ticked.result = .ok (.failed code)) :
    ticked.gate.page =
      ((call.gate.assign? Layout.responseLen (call.answer.response?.bind
        (missedLength? call.request.responseSize call.gate.config.maxPayloadLen))).assign
          Layout.responseCode code.raw).page := by
  cases h with
  | failed code' hanswer =>
    cases hfailed
    rw [hanswer]
    rfl
  | responded response hanswer reported hreported =>
    rw [hanswer]
    exact hreported.page_of_failed hfailed
  | delivered message hanswer reported hreported =>
    obtain ⟨queue, hqueue⟩ := reported.settle_gate message
    have hpage : (reported.settle message).gate.page = reported.gate.page := by rw [hqueue]; rfl
    have hreported := hreported.page_of_failed ((reported.settle_result message).symm.trans hfailed)
    rw [hanswer]
    exact hpage.trans hreported

/-- The message that a poll is about, which is the oldest one. -/
def Gate.polled? (gate : Gate σ) : Option Message :=
  if gate.value Layout.control = 1 ∧ gate.value Layout.service = 0 then gate.queue.messages.head?
  else none

lemma Gate.polling_of_polled? {gate : Gate σ} (h : gate.polled?.isSome = true) :
    gate.value Layout.control = 1 ∧ gate.value Layout.service = 0 := by
  unfold polled? at h
  split_ifs at h with hpoll
  · exact hpoll
  · cases h

namespace Gate

variable [Service σ] {gate : Gate σ} {memory : PagedMemory} {others : Activity Unit}
  {ticked : Ticked σ PagedMemory}

/-- The first half of a tick stores the origin of the message that it takes, and nothing else. -/
lemma Dispatches.page_inFlight {call : InFlight σ PagedMemory}
    (h : gate.Dispatches memory (.inFlight call)) :
    call.gate.page =
      (gate.assign? Layout.service (gate.polled?.map fun message => message.origin.raw)).page := by
  unfold polled?
  cases h with
  | called hpending payload read hcopy id hid =>
    have hservice : gate.value Layout.service ≠ 0 := by
      rw [hid]
      exact id.nonzero
    rw [if_neg (fun hpoll => hservice hpoll.2)]
    rfl
  | polled hcontrol hservice payload read hcopy message rest hqueue =>
    rw [if_pos ⟨hcontrol, hservice⟩, hqueue]
    rfl
  | refused hpending hcontrol hservice payload read hcopy target htarget event =>
    rw [if_neg (fun hpoll => hcontrol hpoll.1)]
    rfl

/-- The length that a tick reports to a buffer that is too small. -/
def missed? (gate : Gate σ) (memory : PagedMemory) : Option UInt32 :=
  (gate.response? memory).bind
    (missedLength? gate.request.responseSize gate.config.maxPayloadLen)

lemma exists_of_missed? (h : (gate.missed? memory).isSome = true) :
    ∃ response, gate.response? memory = some response ∧
      gate.request.responseSize.toNat < response.length ∧
      response.length ≤ gate.config.maxPayloadLen.toNat := by
  unfold missed? at h
  cases hresponse : gate.response? memory with
  | none =>
    rw [hresponse] at h
    cases h
  | some response =>
    rw [hresponse, Option.bind_some, missedLength?] at h
    split_ifs at h with hmissed
    · exact ⟨response, rfl, hmissed⟩
    · cases h

/-- The gate with the three stores of a failed tick. -/
def reporting (gate : Gate σ) (memory : PagedMemory) (code : ErrorCode) : Gate σ :=
  ((gate.assign? Layout.service (gate.polled?.map fun message => message.origin.raw)).assign?
    Layout.responseLen (gate.missed? memory)).assign Layout.responseCode code.raw

lemma Ticks.page_of_failed (h : gate.Ticks memory others ticked) {code : ErrorCode}
    (hfailed : ticked.result = .ok (.failed code)) :
    ticked.gate.page = (gate.reporting memory code).page := by
  cases h with
  | ended ended _ hdispatch => cases hdispatch <;> cases hfailed
  | finished call _ hdispatch _ hfinish =>
    have hconfig : (call.amid others).gate.config = gate.config := hdispatch.config
    have hpage : (call.amid others).gate.page = _ := hdispatch.page_inFlight
    have hend := hfinish.page_of_failed hfailed
    rw [InFlight.amid_answer, InFlight.amid_request, ← hdispatch.response?_inFlight,
      hdispatch.request_memory.1, hconfig] at hend
    rw [hend]
    apply page_assign_congr
    · exact page_assign?_congr hpage (by rw [hconfig, config_assign?]) _ _
    · simp only [config_assign?, hconfig]

/-- A failed tick changes no byte of the page but those of its stores. -/
lemma Ticks.mem_of_byteAt_ne (h : gate.Ticks memory others ticked) {code : ErrorCode}
    (hfailed : ticked.result = .ok (.failed code)) {i : Nat}
    (hne : ticked.gate.page.byteAt i ≠ gate.page.byteAt i) :
    (gate.place Layout.responseCode ≤ i ∧ i < gate.place Layout.responseCode + 4) ∨
    ((gate.missed? memory).isSome = true ∧
      gate.place Layout.responseLen ≤ i ∧ i < gate.place Layout.responseLen + 4) ∨
    (gate.polled?.isSome = true ∧
      gate.place Layout.service ≤ i ∧ i < gate.place Layout.service + 4) := by
  rw [h.page_of_failed hfailed, reporting] at hne
  -- the first of the stores, from the last one back, at which the byte changes
  generalize hnamed : gate.assign? Layout.service
    (gate.polled?.map fun message => message.origin.raw) = named at hne
  generalize hmeasured : named.assign? Layout.responseLen (gate.missed? memory) = measured at hne
  have hnamedConfig : named.config = gate.config := by rw [← hnamed, config_assign?]
  have hmeasuredConfig : measured.config = gate.config := by
    rw [← hmeasured, config_assign?, hnamedConfig]
  by_cases hcode : (measured.assign Layout.responseCode code.raw).page.byteAt i =
    measured.page.byteAt i
  · rw [hcode] at hne
    by_cases hlen : measured.page.byteAt i = named.page.byteAt i
    · rw [hlen, ← hnamed] at hne
      have hin := gate.mem_of_byteAt_assign?_ne _ _ hne
      rw [Option.isSome_map] at hin
      exact .inr (.inr hin)
    · rw [← hmeasured] at hlen
      have hin := named.mem_of_byteAt_assign?_ne _ _ hlen
      simp only [place, hnamedConfig] at hin
      exact .inr (.inl hin)
  · have hin := measured.mem_of_byteAt_assign_ne _ _ hcode
    simp only [place, hmeasuredConfig] at hin
    exact .inl hin

/-! ## The registers after a failed tick -/

lemma Ticks.value_of_failed {α : Type} [Stored α] [LawfulStored α]
    (h : gate.Ticks memory others ticked) {code : ErrorCode}
    (hfailed : ticked.result = .ok (.failed code)) (register : Register α) :
    ticked.gate.value register = (gate.reporting memory code).value register := by
  have hconfig : (gate.reporting memory code).config = gate.config := by simp [reporting, assign]
  exact value_congr (h.page_of_failed hfailed) (h.config.trans hconfig.symm) register

lemma Ticks.responseCode_of_failed (h : gate.Ticks memory others ticked) {code : ErrorCode}
    (hfailed : ticked.result = .ok (.failed code)) :
    ticked.gate.value Layout.responseCode = code.raw := by
  rw [h.value_of_failed hfailed, reporting, value_assign _ (by decide)]

/-- The length register is left alone unless a response missed the buffer. -/
lemma Ticks.responseLen_of_failed (h : gate.Ticks memory others ticked) {code : ErrorCode}
    (hfailed : ticked.result = .ok (.failed code)) :
    ticked.gate.value Layout.responseLen =
      (gate.missed? memory).getD (gate.value Layout.responseLen) := by
  rw [h.value_of_failed hfailed, reporting, value_assign_apart _ (by decide),
    value_assign? _ (by decide), value_assign?_apart _ (by decide)]

lemma Ticks.service_of_failed (h : gate.Ticks memory others ticked) {code : ErrorCode}
    (hfailed : ticked.result = .ok (.failed code)) :
    ticked.gate.value Layout.service =
      (gate.polled?.map fun message => message.origin.raw).getD (gate.value Layout.service) := by
  rw [h.value_of_failed hfailed, reporting, value_assign_apart _ (by decide),
    value_assign?_apart _ (by decide), value_assign? _ (by decide)]

/-! ## The end of the tick -/

/-- Whatever the response comes from, it is reported in the same way, by a gate that has named the
origin of the message if it was a poll. What happens to the message afterwards concerns the queue
only. -/
lemma Ticks.exists_responded (h : gate.Ticks memory others ticked) {response : Bytes}
    (hresponse : gate.response? memory = some response) :
    ∃ (answering : Gate σ) (reported : Ticked σ PagedMemory), answering.config = gate.config ∧
      answering.page =
        (gate.assign? Layout.service (gate.polled?.map fun message => message.origin.raw)).page ∧
      answering.Responded memory gate.request response reported ∧
      ticked.gate.page = reported.gate.page ∧ ticked.memory = reported.memory ∧
      ticked.result = reported.result := by
  cases h with
  | ended ended _ hdispatch => cases hdispatch.response?_ended.symm.trans hresponse
  | finished call _ hdispatch _ hfinish =>
    obtain ⟨hrequest, hmemory⟩ := hdispatch.request_memory
    have hanswer : (call.amid others).answer.response? = some response :=
      hdispatch.response?_inFlight.symm.trans hresponse
    refine ⟨(call.amid others).gate, ?_⟩
    rw [← hrequest, ← hmemory]
    cases hfinish with
    | failed code hreply =>
      rw [hreply] at hanswer
      cases hanswer
    | responded response' hreply reported hreported =>
      rw [hreply] at hanswer
      cases hanswer
      exact ⟨reported, hdispatch.config, hdispatch.page_inFlight, hreported, rfl, rfl, rfl⟩
    | delivered message hdelivery reported hreported =>
      rw [hdelivery] at hanswer
      cases hanswer
      obtain ⟨queue, hqueue⟩ := reported.settle_gate message
      have hpage : (reported.settle message).gate.page = reported.gate.page := by rw [hqueue]; rfl
      exact ⟨reported, hdispatch.config, hdispatch.page_inFlight, hreported, hpage,
        reported.settle_memory message, reported.settle_result message⟩

/-- The limit of the gate is checked first. -/
lemma Ticks.result_of_tooLong (h : gate.Ticks memory others ticked) {response : Bytes}
    (hresponse : gate.response? memory = some response)
    (hlong : gate.config.maxPayloadLen.toNat < response.length) :
    ticked.result = .ok (.failed GateCode.internalError.error) := by
  obtain ⟨answering, reported, hconfig, _, hreported, _, _, hresult⟩ :=
    h.exists_responded hresponse
  rw [← hconfig] at hlong
  rw [hresult]
  cases hreported with
  | tooLong => rfl
  | tooSmall hlen => exact absurd hlong (Nat.not_lt.mpr hlen)
  | faulted hlen => exact absurd hlong (Nat.not_lt.mpr hlen)
  | completed hlen => exact absurd hlong (Nat.not_lt.mpr hlen)

/-- The size of the buffer is checked next, before anything is copied. -/
lemma Ticks.result_of_tooSmall (h : gate.Ticks memory others ticked) {response : Bytes}
    (hresponse : gate.response? memory = some response)
    (hlen : response.length ≤ gate.config.maxPayloadLen.toNat)
    (hsmall : gate.request.responseSize.toNat < response.length) :
    ticked.result = .ok (.failed GateCode.bufferTooSmall.error) := by
  obtain ⟨answering, reported, hconfig, _, hreported, _, _, hresult⟩ :=
    h.exists_responded hresponse
  rw [← hconfig] at hlen
  rw [hresult]
  cases hreported with
  | tooLong hlong => exact absurd hlong (Nat.not_lt.mpr hlen)
  | tooSmall => rfl
  | faulted _ hsize => exact absurd hsmall (Nat.not_lt.mpr hsize)
  | completed _ hsize => exact absurd hsmall (Nat.not_lt.mpr hsize)

/-! ## The control channel -/

/-- A failed poll was about a message. -/
lemma Ticks.exists_polled (h : gate.Ticks memory others ticked) {code : ErrorCode}
    (hfailed : ticked.result = .ok (.failed code)) (hcontrol : gate.value Layout.control = 1)
    (hservice : gate.value Layout.service = 0) :
    ∃ message rest, gate.queue.messages = message :: rest ∧ gate.polled? = some message := by
  have hpending : gate.value Layout.control ≠ 0 := by
    rw [hcontrol]
    decide
  obtain ⟨payload, read, hcopy⟩ := h.exists_copyIn hpending (by rw [hfailed]; simp)
  obtain ⟨_, hretry, _⟩ | ⟨message, rest, _, hqueue, _⟩ := h.poll hcontrol hservice hcopy
  · cases hretry.symm.trans hfailed
  · refine ⟨message, rest, hqueue, ?_⟩
    rw [polled?, if_pos ⟨hcontrol, hservice⟩, hqueue]
    rfl

/-- A request on the control channel that fails leaves services and messages as they were, if the
messages are within the limit. -/
lemma Ticks.registry_of_failed_control (h : gate.Ticks memory (.done ()) ticked) {code : ErrorCode}
    (hfailed : ticked.result = .ok (.failed code)) (hservice : gate.value Layout.service = 0)
    (hshort : ∀ message ∈ gate.queue.messages,
      message.payload.length ≤ gate.config.maxPayloadLen.toNat) :
    ticked.gate.registry = gate.registry := by
  cases h with
  | ended ended _ hdispatch => cases hdispatch <;> cases hfailed
  | finished call _ hdispatch _ hfinish =>
    cases hdispatch with
    | called _ _ _ _ id hid => exact absurd (hid.symm.trans hservice) id.nonzero
    | refused => exact hfinish.registry_of_reply rfl
    | polled _ _ payload read hcopy message rest hqueue =>
      obtain ⟨reported, hreported, hgate, _, hresult⟩ := hfinish.of_delivery rfl
      have hmem : message ∈ gate.queue.messages := by
        rw [hqueue]
        exact List.mem_cons_self
      obtain ⟨hdone, _⟩ | ⟨_, hback⟩ := hreported.settle_of_short (hshort message hmem)
      · cases hdone.symm.trans (hresult.symm.trans hfailed)
      · rw [hgate, hback]
        exact (Responded.registry_putBack hreported).trans (gate.registry_pushFront hqueue)

/-- A tick may as well be taken under watch. -/
lemma exists_watched_tick (htick : gate.tick memory = .ok ticked) :
    ∃ watched, (gate.map Watched.fresh).tick memory = .ok watched ∧
      watched.map Watched.service = ticked := by
  obtain ⟨watched, hwatched, _⟩ := (gate.map Watched.fresh).tickAmid_spec memory (.done ())
  have hmap := Gate.tickAmid_map Watched.respects (gate.map Watched.fresh) memory (.done ())
  rw [map_fresh_service, hwatched] at hmap
  exact ⟨watched, hwatched, (Except.ok.inj (htick.symm.trans hmap)).symm⟩

/-- The control channel asks no service. -/
lemma asked_of_control {watched : Ticked (Watched σ) PagedMemory}
    (htick : (gate.map Watched.fresh).tick memory = .ok watched)
    (hservice : gate.value Layout.service = 0) (id : ServiceId) : watched.gate.asked id = [] := by
  have hnot : ¬ (gate.map Watched.fresh).request.Calls
      (gate.map Watched.fresh).registry.services memory id := by
    intro hcalls
    exact id.nonzero (hcalls.named.symm.trans hservice)
  rw [(ticks_of_tickAmid htick).asked id, if_neg hnot, asked_fresh]
  rfl

/-- The gate is one that can come about: it was made, and a session has led to it. -/
def Reached (gate : Gate σ) : Prop :=
  ∃ config built memory actions session found, Gate.new config = .ok built ∧
    (Session.start built memory).run actions = .ok session ∧ session.phase = .resting gate found

lemma Reached.messages_short (h : gate.Reached) :
    ∀ message ∈ gate.queue.messages,
      message.payload.length ≤ gate.config.maxPayloadLen.toNat := by
  obtain ⟨config, built, memory, actions, session, found, hnew, hrun, hphase⟩ := h
  obtain ⟨hlimit, hshort⟩ := Session.messages_short hnew memory actions hrun
  rw [hphase] at hlimit hshort
  rw [← hlimit] at hshort
  exact hshort

end Gate

/-- A failed tick leaves guest memory as it was. In the page it changes the response code, which is
that of the failure; the response length, if a response within the limit was too large for the
buffer; and the service register, if it was a poll. The limit is checked first: a response beyond
it is an internal error, and its length is not reported. On the control channel no service is asked,
and services and messages are as before in every gate that can come about, since no message in its
queue is beyond the limit. -/
theorem failed_tick_changes_reports_only [Service σ] (gate : Gate σ) (memory : PagedMemory)
    {request : Request} (hread : gate.readRegisters Request.read = .ok request) :
    ∃ ticked, gate.tick memory = .ok ticked ∧
      (∀ response, gate.response? memory = some response →
        gate.config.maxPayloadLen.toNat < response.length →
        ticked.result = .ok (.failed GateCode.internalError.error) ∧
        ticked.gate.readRegisters Layout.responseLen.read =
          gate.readRegisters Layout.responseLen.read) ∧
      (∀ response, gate.response? memory = some response →
        response.length ≤ gate.config.maxPayloadLen.toNat →
        request.responseSize.toNat < response.length →
        ticked.result = .ok (.failed GateCode.bufferTooSmall.error) ∧
        ∃ len, ticked.gate.readRegisters Layout.responseLen.read = .ok len ∧
          len.toNat = response.length) ∧
      ∀ code, ticked.result = .ok (.failed code) →
        ticked.memory = memory ∧
        ticked.gate.readRegisters Layout.responseCode.read = .ok code.raw ∧
        (request.control = 1 → request.service = 0 →
          ∃ message rest, gate.queue.messages = message :: rest ∧
            ticked.gate.readRegisters Layout.service.read = .ok message.origin.raw) ∧
        (∀ i : Fin pageSize, ticked.gate.page.get i ≠ gate.page.get i →
          ∃ k, i.val = gate.config.registerOffset.toNat + k ∧
            ((0x18 ≤ k ∧ k < 0x1c) ∨
            (0x1c ≤ k ∧ k < 0x20 ∧ ∃ response, gate.response? memory = some response ∧
              request.responseSize.toNat < response.length ∧
              response.length ≤ gate.config.maxPayloadLen.toNat) ∨
            (0x04 ≤ k ∧ k < 0x08 ∧ request.control = 1 ∧ request.service = 0))) ∧
        (request.service = 0 →
          (gate.Reached → ticked.gate.registry = gate.registry) ∧
          ∃ watched, (gate.map Watched.fresh).tick memory = .ok watched ∧
            watched.map Watched.service = ticked ∧ ∀ id, watched.gate.asked id = []) := by
  rw [gate.readRegisters_request] at hread
  cases hread
  obtain ⟨ticked, htick, hspec⟩ := gate.tickAmid_spec memory (.done ())
  refine ⟨ticked, htick, ?_, ?_, ?_⟩
  · intro response hresponse hlong
    have hfailed := hspec.result_of_tooLong hresponse hlong
    have hmissed : gate.missed? memory = none := by
      rw [Gate.missed?, hresponse, Option.bind_some, missedLength?, if_neg (by omega)]
    have hlen := hspec.responseLen_of_failed hfailed
    rw [hmissed, Option.getD_none] at hlen
    refine ⟨hfailed, ?_⟩
    rw [Gate.readRegisters_read _ (by decide), Gate.readRegisters_read _ (by decide), hlen]
  · intro response hresponse hlimit hsmall
    have hfailed := hspec.result_of_tooSmall hresponse hlimit hsmall
    have hmissed : gate.missed? memory = some (.ofNat response.length) := by
      rw [Gate.missed?, hresponse, Option.bind_some, missedLength?, if_pos ⟨hsmall, hlimit⟩]
    have hlen := hspec.responseLen_of_failed hfailed
    rw [hmissed, Option.getD_some] at hlen
    refine ⟨hfailed, _, ticked.gate.readRegisters_read (by decide), ?_⟩
    rw [hlen, gate.toNat_length hlimit]
  · intro code hfailed
    refine ⟨hspec.confined.unwritten _ hfailed (by simp), ?_, ?_, ?_, ?_⟩
    · rw [Gate.readRegisters_read _ (by decide), hspec.responseCode_of_failed hfailed]
    · intro hcontrol hservice
      obtain ⟨message, rest, hqueue, hpolled⟩ := hspec.exists_polled hfailed hcontrol hservice
      refine ⟨message, rest, hqueue, ?_⟩
      rw [Gate.readRegisters_read _ (by decide), hspec.service_of_failed hfailed, hpolled]
      rfl
    · intro i hne
      rw [← Page.byteAt_of_lt _ i.isLt, ← Page.byteAt_of_lt _ i.isLt] at hne
      have hcode : gate.place Layout.responseCode =
        gate.config.registerOffset.toNat + 0x18 := rfl
      have hlen : gate.place Layout.responseLen = gate.config.registerOffset.toNat + 0x1c := rfl
      have hservice : gate.place Layout.service = gate.config.registerOffset.toNat + 0x04 := rfl
      refine ⟨i.val - gate.config.registerOffset.toNat, ?_⟩
      obtain hin | ⟨hmissed, hin⟩ | ⟨hpolled, hin⟩ := hspec.mem_of_byteAt_ne hfailed hne
      · exact ⟨by omega, .inl (by omega)⟩
      · have hresponse := Gate.exists_of_missed? hmissed
        exact ⟨by omega, .inr (.inl ⟨by omega, by omega, hresponse⟩)⟩
      · have hpoll := Gate.polling_of_polled? hpolled
        exact ⟨by omega, .inr (.inr ⟨by omega, by omega, hpoll⟩)⟩
    · intro hservice
      obtain ⟨watched, hwatched, hplain⟩ := Gate.exists_watched_tick htick
      refine ⟨?_, watched, hwatched, hplain, Gate.asked_of_control hwatched hservice⟩
      intro hreached
      exact hspec.registry_of_failed_control hfailed hservice hreached.messages_short

/-- A message of three bytes, and a poll with a buffer for two. -/
def smallBuffer : List (Action Stock) :=
  [.register ⟨43, by decide⟩ .echo, .send ⟨⟨44, by decide⟩⟩ [1, 2, 3],
    .store (Request.toControl .pollMessage 0 2).write]

/-- The guest learns the origin and the length of the message, which is back in the queue, and the
service was not asked. -/
theorem smallBuffer_changes_reports_only :
    ∃ built session gate memory ticked len, Gate.new {} = .ok built ∧
      (Session.start built .onePage).run smallBuffer = .ok session ∧
      session.phase = .resting gate memory ∧ gate.tick memory = .ok ticked ∧
      ticked.result = .ok (.failed GateCode.bufferTooSmall.error) ∧ ticked.memory = memory ∧
      ticked.gate.readRegisters Layout.responseLen.read = .ok len ∧ len.toNat = 3 ∧
      ticked.gate.readRegisters Layout.service.read = .ok 44 ∧
      ticked.gate.registry = gate.registry ∧
      ∃ watched, (gate.map Watched.fresh).tick memory = .ok watched ∧
        watched.map Watched.service = ticked ∧ watched.gate.asked ⟨43, by decide⟩ = [] := by
  have hseen : (do
      let built ← Gate.new {}
      let session ← (Session.start built .onePage).run smallBuffer
      match session.phase with
      | .ticking _ => .error .bounds
      | .resting gate memory =>
        return ((← gate.readRegisters Request.read, gate.response? memory),
          (gate.config.maxPayloadLen.toNat,
            gate.queue.messages.map fun message : Message => message.origin.raw))) =
      .ok ((Request.toControl .pollMessage 0 2, some [1, 2, 3]), (4096, [44])) := by
    decide +kernel
  obtain ⟨built, hbuilt, hseen⟩ := exists_of_bind_ok hseen
  obtain ⟨session, hsession, hseen⟩ := exists_of_bind_ok hseen
  split at hseen
  · cases hseen
  · next gate memory hphase =>
    obtain ⟨request, hrequest, hseen⟩ := exists_of_bind_ok hseen
    simp only [pure, Except.pure, Except.ok.injEq, Prod.mk.injEq] at hseen
    obtain ⟨⟨rfl, hresponse⟩, hmax, horigins⟩ := hseen
    obtain ⟨ticked, htick, _, hsmall, hfailed⟩ :=
      failed_tick_changes_reports_only gate memory hrequest
    obtain ⟨hresult, len, hlen, hthree⟩ := hsmall _ hresponse (by rw [hmax]; decide) (by decide)
    obtain ⟨hmemory, _, hpoll, _, hcontrol⟩ := hfailed _ hresult
    obtain ⟨message, rest, hqueue, horigin⟩ := hpoll rfl rfl
    obtain ⟨hregistry, watched, hwatched, hplain, hasked⟩ := hcontrol rfl
    rw [hqueue, List.map_cons, List.cons.injEq] at horigins
    rw [horigins.1] at horigin
    exact ⟨built, session, gate, memory, ticked, len, hbuilt, hsession, hphase, htick, hresult,
      hmemory, hlen, hthree, horigin,
      hregistry ⟨_, built, _, _, session, memory, hbuilt, hsession, hphase⟩, watched, hwatched,
      hplain, hasked _⟩

end HostCalls
