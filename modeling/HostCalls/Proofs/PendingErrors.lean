import HostCalls.Memory.Paged
import HostCalls.Proofs.Sending
import HostCalls.Proofs.TickStatus
import HostCalls.Service.Stock

/-!
# Requests that failed

A failed request stays in the registers and every later tick works on it again, with the
services, messages and memory as they are by then. The guest need not do anything for the
request to be answered after all: the gate goes back to idle with the first tick that gets
an answer through, and only then. A failed poll has become a call of the message's origin, so
no later tick takes a message either.
-/
namespace HostCalls

variable {σ μ : Type}

/-- The request is a call that gets through: its service is registered and can be given the request,
and the answer is a response that the guest has room for. -/
def Request.Succeeds [Service σ] [GuestMemory μ] (request : Request) (config : Config)
    (registry : Registry σ) (memory : μ) : Prop :=
  ∃ id service payload read response written,
    request.service = ServiceId.raw id ∧ registry.services.find? id = some service ∧
    GuestMemory.copyIn request.requestAddr request.requestLen memory = .ok payload read ∧
    ((Service.handle service payload).perform registry.queue).result.1 = .ok response ∧
    response.length ≤ config.maxPayloadLen.toNat ∧
    response.length ≤ request.responseSize.toNat ∧
    GuestMemory.copyOut request.responseAddr response read = .ok () written

namespace Gate

/-- The registers do not ask for a message. -/
def NotPolling (gate : Gate σ) : Prop :=
  gate.value Layout.service = 0 → gate.value Layout.control ≠ 1

/-- A store behind the request registers keeps the request. -/
lemma request_assign {α : Type} [Stored α] [LawfulStored α] (gate : Gate σ)
    {register : Register α} (h : 0x18 ≤ register.offset.toNat) (a : α) :
    (gate.assign register a).request = gate.request := by
  have hbefore {β : Type} [Stored β] [LawfulStored β] (other : Register β)
      (hother : other.offset.toNat + Stored.width β ≤ 0x18) :
      (gate.assign register a).value other = gate.value other :=
    gate.value_assign_apart (.inl (Nat.le_trans hother h)) a
  simp only [request, hbefore Layout.control (by decide), hbefore Layout.service (by decide),
    hbefore Layout.requestAddr (by decide), hbefore Layout.requestLen (by decide),
    hbefore Layout.responseAddr (by decide), hbefore Layout.responseSize (by decide)]

lemma request_congr {gate other : Gate σ} (hpage : other.page = gate.page)
    (hconfig : other.config = gate.config) : other.request = gate.request := by
  simp only [request, value_congr hpage hconfig]

lemma Responded.request [GuestMemory μ] {gate : Gate σ} {memory : μ} {request : Request}
    {response : Bytes} {ticked : Ticked σ μ}
    (h : gate.Responded memory request response ticked)
    (hopen : ticked.result ≠ .ok .completed) : ticked.gate.request = gate.request := by
  cases h with
  | tooLong hlong => exact gate.request_assign (by decide) _
  | tooSmall hlen hsmall =>
    exact (request_assign _ (by decide) _).trans (gate.request_assign (by decide) _)
  | faulted hlen hsize fault written hcopy => exact gate.request_assign (by decide) _
  | completed hlen hsize written hcopy => exact absurd rfl hopen

end Gate

/-- A call that is not completed leaves the request as it is. -/
lemma InFlight.Finishes.request [GuestMemory μ] {call : InFlight σ μ} {ticked : Ticked σ μ}
    (h : call.Finishes ticked) (hopen : ticked.result ≠ .ok .completed) :
    ticked.gate.request = call.gate.request := by
  cases h with
  | failed code hanswer => exact call.gate.request_assign (by decide) _
  | responded response hanswer reported hreported => exact hreported.request hopen
  | delivered message hanswer reported hreported =>
    have hrequest := hreported.request (by simpa using hopen)
    rw [← hrequest]
    simp only [Gate.request, Ticked.settle_value]

namespace Gate

variable [Service σ] [GuestMemory μ] {gate : Gate σ} {memory : μ} {others : Activity Unit}
  {ticked : Ticked σ μ}

/-- A failed request is no poll, or no longer one: the origin of the message is in its place. -/
lemma Ticks.notPolling (h : gate.Ticks memory others ticked) {code : ErrorCode}
    (hfailed : ticked.result = .ok (.failed code)) : ticked.gate.NotPolling := by
  cases h with
  | ended ended _ hdispatch => cases hdispatch <;> cases hfailed
  | finished call _ hdispatch _ hfinish =>
    have hrequest := hfinish.request (by rw [hfailed]; simp)
    have hservice : ticked.gate.value Layout.service = call.gate.value Layout.service :=
      congrArg Request.service hrequest
    have hcontrol : ticked.gate.value Layout.control = call.gate.value Layout.control :=
      congrArg Request.control hrequest
    intro hzero
    rw [hservice] at hzero
    rw [hcontrol]
    cases hdispatch with
    | called hpending payload read hcopy id hid => exact absurd (hid.symm.trans hzero) id.nonzero
    | polled hone hservice payload read hcopy message rest hqueue =>
      rw [value_assign _ (by decide)] at hzero
      exact absurd hzero message.origin.nonzero
    | refused hpending hone hservice payload read hcopy target htarget event => exact hone

/-- Working again on a request that is no poll leaves it as it is, unless it is completed. -/
lemma Ticks.request (h : gate.Ticks memory others ticked) (hpoll : gate.NotPolling)
    (hopen : ticked.result ≠ .ok .completed) : ticked.gate.request = gate.request := by
  cases h with
  | ended ended _ hdispatch => cases hdispatch <;> rfl
  | finished call _ hdispatch _ hfinish =>
    rw [hfinish.request hopen]
    cases hdispatch with
    | called hpending payload read hcopy id hid => rfl
    | polled hone hservice payload read hcopy message rest hqueue =>
      exact absurd hone (hpoll hservice)
    | refused hpending hone hservice payload read hcopy target htarget event => rfl

/-- A call in flight that completes was answered by its service with a response that fits. -/
lemma Dispatches.succeeds {call : InFlight σ μ}
    (hdispatch : gate.Dispatches memory (.inFlight call)) (hpoll : gate.NotPolling)
    (hfinish : (call.amid others).Finishes ticked)
    (hdone : ticked.result = .ok .completed) :
    gate.request.Succeeds gate.config gate.registry memory := by
  cases hdispatch with
  | polled hone hservice payload read hcopy message rest hqueue =>
    exact absurd hone (hpoll hservice)
  | refused hpending hone hservice payload read hcopy target htarget event =>
    cases hfinish with
    | failed code hanswer => cases hdone
    | responded response hanswer reported hreported => cases hanswer
    | delivered message hanswer reported hreported => cases hanswer
  | called hpending payload read hcopy id hid =>
    cases hfinish with
    | failed code hanswer => cases hdone
    | delivered message hanswer reported hreported => cases hanswer
    | responded response hanswer reported hreported =>
      have hresult : (gate.registry.call id payload).result = .ok response :=
        Answer.reply.inj hanswer
      cases hfind : gate.registry.services.find? id with
      | none =>
        rw [gate.registry.call_of_not_find hfind] at hresult
        cases hresult
      | some service =>
        rw [gate.registry.call_of_find hfind] at hresult
        cases hreported with
        | tooLong hlong => cases hdone
        | tooSmall hlen hsmall => cases hdone
        | faulted hlen hsize fault written hwrite => cases hdone
        | completed hlen hsize written hwrite =>
          exact ⟨id, service, payload, read, response, written, hid, hfind, hcopy, hresult, hlen,
            hsize, hwrite⟩

/-- A call that gets through is completed. -/
lemma Ticks.completed (h : gate.Ticks memory others ticked)
    (hpending : gate.value Layout.control ≠ 0)
    (hsuccess : gate.request.Succeeds gate.config gate.registry memory) :
    ticked.result = .ok .completed := by
  obtain ⟨id, service, payload, read, response, written, hid, hfind, hcopy, hresult, hlen, hsize,
    hwrite⟩ := hsuccess
  have hcall : (gate.calling read id payload).answer = .reply (.ok response) := by
    simp only [calling, gate.registry.call_of_find hfind]
    exact congrArg Answer.reply hresult
  obtain ⟨reported, hreported, _, _, hend⟩ :=
    (h.finishes_calling hpending hid hcopy).of_response hcall
  rw [hend, hreported.eq_of_copyOut_ok hlen hsize hwrite]

/-- A tick completes a pending request that is no poll exactly when the call gets through. -/
lemma Ticks.completed_iff (h : gate.Ticks memory others ticked) (hpoll : gate.NotPolling)
    (hpending : gate.value Layout.control ≠ 0) :
    ticked.result = .ok .completed ↔ gate.request.Succeeds gate.config gate.registry memory := by
  refine ⟨fun hdone => ?_, h.completed hpending⟩
  cases h with
  | ended ended _ hdispatch => cases hdispatch <;> cases hdone
  | finished call _ hdispatch _ hfinish => exact hdispatch.succeeds hpoll hfinish hdone

/-- Ticks of a gate whose registers the guest leaves alone. Before each tick the host may change
services and messages and the guest may change its memory, in any way; the list keeps what the
ticks found. -/
inductive Unattended : Gate σ → List (Gate σ × μ) → Gate σ → Prop
  | nil (gate : Gate σ) : Unattended gate [] gate
  | cons {gate next final : Gate σ} {memory : μ} {others : Activity Unit} {ticked : Ticked σ μ}
      {visits : List (Gate σ × μ)} (hpage : next.page = gate.page)
      (hconfig : next.config = gate.config) (htick : next.tickAmid memory others = .ok ticked)
      (hrest : Unattended ticked.gate visits final) :
    Unattended gate ((next, memory) :: visits) final

lemma ticks_of_tickAmid (htick : gate.tickAmid memory others = .ok ticked) :
    gate.Ticks memory others ticked := by
  obtain ⟨ticked', htick', hspec⟩ := gate.tickAmid_spec memory others
  cases htick.symm.trans htick'
  exact hspec

/-- An idle gate stays idle. -/
lemma Unattended.idle {final : Gate σ} {visits : List (Gate σ × μ)}
    (hrun : gate.Unattended visits final) (hidle : gate.value Layout.control = 0) :
    final.value Layout.control = 0 := by
  induction hrun with
  | nil gate => exact hidle
  | cons hpage hconfig htick hrest ih =>
    apply ih
    have hspec := ticks_of_tickAmid htick
    rw [← value_congr hpage hconfig] at hidle
    rw [hspec.control_of_not_completed (by rw [hspec.idle_iff.mpr hidle]; simp), hidle]

/-- Either no tick got the call through and the request is as it was, or one did and the gate is
idle. -/
lemma Unattended.request {final : Gate σ} {visits : List (Gate σ × μ)}
    (hrun : gate.Unattended visits final) (hpoll : gate.NotPolling)
    (hpending : gate.value Layout.control ≠ 0) :
    (final.request = gate.request ∧ ∀ visit ∈ visits,
      ¬ gate.request.Succeeds gate.config visit.1.registry visit.2) ∨
    (final.value Layout.control = 0 ∧ ∃ visit ∈ visits,
      gate.request.Succeeds gate.config visit.1.registry visit.2) := by
  induction hrun with
  | nil gate => exact .inl ⟨rfl, by simp⟩
  | @cons gate next final memory others ticked visits hpage hconfig htick hrest ih =>
    have hspec := ticks_of_tickAmid htick
    have hnext : next.request = gate.request := request_congr hpage hconfig
    have hcontrol : next.value Layout.control = gate.value Layout.control :=
      congrArg Request.control hnext
    have hpoll' : next.NotPolling := by
      unfold NotPolling at hpoll ⊢
      rwa [value_congr hpage hconfig, value_congr hpage hconfig]
    have hiff := hspec.completed_iff hpoll' (hcontrol ▸ hpending)
    rw [hnext, hconfig] at hiff
    by_cases hdone : ticked.result = .ok .completed
    · -- the call got through at this tick, and no later one finds anything pending
      have hzero := hrest.idle (hspec.control_of_completed hdone)
      exact .inr ⟨hzero, (next, memory), List.mem_cons_self, hiff.mp hdone⟩
    · have hkept : ticked.gate.request = gate.request := (hspec.request hpoll' hdone).trans hnext
      have hservice : ticked.gate.value Layout.service = gate.value Layout.service :=
        congrArg Request.service hkept
      have hsame : ticked.gate.value Layout.control = gate.value Layout.control :=
        congrArg Request.control hkept
      have hlater := ih (by unfold NotPolling; rwa [hservice, hsame]) (by rwa [hsame])
      rw [hkept, hspec.config, hconfig] at hlater
      have hnot : ¬ gate.request.Succeeds gate.config next.registry memory :=
        fun hsuccess => hdone (hiff.mpr hsuccess)
      obtain ⟨hrequest, hnone⟩ | ⟨hzero, visit, hmem, hsuccess⟩ := hlater
      · exact .inl ⟨hrequest, List.forall_mem_cons.mpr ⟨hnot, hnone⟩⟩
      · exact .inr ⟨hzero, visit, List.mem_cons_of_mem _ hmem, hsuccess⟩

/-- A failed request is pending for as long as no later tick gets the call through, and no longer:
`control` has the value it had at the failed tick exactly when none of the later ticks found the
service registered, the request readable and the answer fit to be written, and it is zero
exactly when one did. -/
theorem failed_request_pending_iff {code : ErrorCode} {final : Gate σ} {visits : List (Gate σ × μ)}
    (htick : gate.tickAmid memory others = .ok ticked)
    (hfailed : ticked.result = .ok (.failed code)) (hrun : ticked.gate.Unattended visits final) :
    ∃ control request now, gate.readRegisters Layout.control.read = .ok control ∧ control ≠ 0 ∧
      ticked.gate.readRegisters Request.read = .ok request ∧ request.control = control ∧
      final.readRegisters Layout.control.read = .ok now ∧
      (now = control ↔ ∀ visit ∈ visits,
        ¬ request.Succeeds gate.config visit.1.registry visit.2) ∧
      (now = 0 ↔ ∃ visit ∈ visits, request.Succeeds gate.config visit.1.registry visit.2) := by
  have hspec := ticks_of_tickAmid htick
  have hcontrol := hspec.control_of_not_completed (by rw [hfailed]; simp)
  have hpending : gate.value Layout.control ≠ 0 := by
    intro hzero
    rw [hspec.idle_iff.mpr hzero] at hfailed
    cases hfailed
  refine ⟨gate.value Layout.control, ticked.gate.request, final.value Layout.control,
    gate.readRegisters_read (by decide), hpending, ticked.gate.readRegisters_request, hcontrol,
    final.readRegisters_read (by decide), ?_⟩
  have hlater := hrun.request (hspec.notPolling hfailed) (by rwa [hcontrol])
  rw [hspec.config] at hlater
  obtain ⟨hrequest, hnone⟩ | ⟨hzero, visit, hmem, hsuccess⟩ := hlater
  · have hkept : final.value Layout.control = gate.value Layout.control :=
      (congrArg Request.control hrequest).trans hcontrol
    refine ⟨⟨fun _ => hnone, fun _ => hkept⟩, ⟨fun hzero => ?_, fun hsome => ?_⟩⟩
    · exact absurd (hkept.symm.trans hzero) hpending
    · obtain ⟨visit, hmem, hsuccess⟩ := hsome
      exact absurd hsuccess (hnone visit hmem)
  · refine ⟨⟨fun hkept => ?_, fun hnone => ?_⟩, ⟨fun _ => ⟨visit, hmem, hsuccess⟩, fun _ => hzero⟩⟩
    · exact absurd (hkept.symm.trans hzero) hpending
    · exact absurd hsuccess (hnone visit hmem)

end Gate

/-- A service that fails the first time it is asked and answers with nothing from then on. -/
def hesitant : Stock := .script [.error ⟨-42, by decide⟩, .ok [], .ok []] 0

/-- A gate with the hesitant service and a call of it in the registers. -/
def hesitantCall : Except Abort (Gate Stock) := do
  let gate ← Gate.new {}
  let gate := (gate.register ⟨9, by decide⟩ hesitant).value
  gate.writeRegisters (Request.toService ⟨9, by decide⟩ 0 0 0 0).write

/-- Two ticks in a row without a store in between: outcome and `control` after each. -/
def tickTwice (gate : Gate Stock) (memory : PagedMemory) :
    Except Abort (List (Except Fault Outcome × UInt8)) := do
  let first ← gate.tick memory
  let second ← first.gate.tick first.memory
  return [(first.result, ← first.gate.readRegisters Layout.control.read),
    (second.result, ← second.gate.readRegisters Layout.control.read)]

/-- The failed call of a hesitant service is completed by the next tick, though the guest did
nothing about it. -/
theorem failed_request_completed_unattended :
    (do tickTwice (← hesitantCall) (← PagedMemory.new 1)) =
      .ok [(.ok (.failed ⟨-42, by decide⟩), 1), (.ok .completed, 0)] := by
  decide +kernel

/-- At the call of the hesitant service, one more tick is enough for the gate to be idle. -/
theorem hesitantCall_pending_iff :
    ∃ gate memory first second, hesitantCall = .ok gate ∧ PagedMemory.new 1 = .ok memory ∧
      gate.tick memory = .ok first ∧ first.result = .ok (.failed ⟨-42, by decide⟩) ∧
      first.gate.tick first.memory = .ok second ∧
      ∃ control request now, gate.readRegisters Layout.control.read = .ok control ∧
        control ≠ 0 ∧ first.gate.readRegisters Request.read = .ok request ∧
        request.control = control ∧ second.gate.readRegisters Layout.control.read = .ok now ∧
        (now = control ↔ ∀ visit ∈ [(first.gate, first.memory)],
          ¬ request.Succeeds gate.config visit.1.registry visit.2) ∧
        (now = 0 ↔ ∃ visit ∈ [(first.gate, first.memory)],
          request.Succeeds gate.config visit.1.registry visit.2) := by
  have hfails : (do
      let first ← (← hesitantCall).tick (← PagedMemory.new 1)
      return first.result) = .ok (.ok (.failed ⟨-42, by decide⟩)) := by decide +kernel
  cases hgate : hesitantCall with
  | error abort => rw [hgate] at hfails; cases hfails
  | ok gate =>
    cases hmemory : PagedMemory.new 1 with
    | error abort => rw [hgate, hmemory] at hfails; cases hfails
    | ok memory =>
      obtain ⟨first, hfirst, _⟩ := gate.tickAmid_spec memory (.done ())
      obtain ⟨second, hsecond, _⟩ := first.gate.tickAmid_spec first.memory (.done ())
      have hresult : first.result = .ok (.failed ⟨-42, by decide⟩) := by
        rw [hgate, hmemory] at hfails
        simp only [ok_bind, Gate.tick, hfirst] at hfails
        exact Except.ok.inj hfails
      exact ⟨gate, memory, first, second, rfl, rfl, hfirst, hresult, hsecond,
        Gate.failed_request_pending_iff hfirst hresult (.cons rfl rfl hsecond (.nil _))⟩

end HostCalls
