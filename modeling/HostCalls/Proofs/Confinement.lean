import HostCalls.Proofs.PagedContent
import HostCalls.Proofs.TickCases

/-!
# What a tick may write

A tick writes guest memory in one place only: the part of the response buffer that the response
takes. It never maps or unmaps a page nor changes its permissions, and a tick that copies no
response leaves the memory as it is. Addresses are plain numbers here, so a buffer at the end of
the address space has no second part at its start.
-/
namespace HostCalls

variable {σ : Type}

/-- The bytes with which a call is answered; an error has none. -/
def Answer.response : Answer → Bytes
  | .reply (.ok response) => response
  | .reply (.error _) => []
  | .delivery message => message.payload

/-- The response that a tick has for the guest; nothing if it comes to none. -/
def Gate.response {μ : Type} [Service σ] [GuestMemory μ] (gate : Gate σ) (memory : μ) : Bytes :=
  match gate.dispatch memory with
  | .ok (.inFlight call) => call.answer.response
  | _ => []

/-- The memory after a tick differs from `memory` in the `limit` bytes from `start` on at most, and
not at all unless a copy was begun. -/
structure Ticked.Confined (ticked : Ticked σ PagedMemory) (memory : PagedMemory)
    (start limit : Nat) : Prop where
  npages : ticked.memory.npages = memory.npages
  permissions : ∀ index, ticked.memory.permissions? index = memory.permissions? index
  outside : ∀ addr, addr < start ∨ start + limit ≤ addr →
    ticked.memory.peek? addr = memory.peek? addr
  unwritten : ∀ outcome, ticked.result = .ok outcome → outcome ≠ .completed →
    ticked.memory = memory

namespace Ticked.Confined

variable {ticked other : Ticked σ PagedMemory} {memory : PagedMemory} {start limit : Nat}

lemma congr (h : ticked.Confined memory start limit) (hmemory : other.memory = ticked.memory)
    (hresult : other.result = ticked.result) : other.Confined memory start limit := by
  obtain ⟨hnpages, hpermissions, houtside, hunwritten⟩ := h
  rw [← hmemory] at hnpages hpermissions houtside hunwritten
  rw [← hresult] at hunwritten
  exact ⟨hnpages, hpermissions, houtside, hunwritten⟩

lemma of_eq (h : ticked.memory = memory) : ticked.Confined memory start limit :=
  ⟨by rw [h], fun index => by rw [h], fun addr _ => by rw [h], fun _ _ _ => h⟩

lemma of_patched {data : Bytes} (h : memory.Patched start data ticked.memory)
    (hlen : data.length ≤ limit)
    (hend : ∀ outcome, ticked.result = .ok outcome → outcome = .completed) :
    ticked.Confined memory start limit where
  npages := h.npages
  permissions := h.permissions
  outside addr hout := h.outside addr (by omega)
  unwritten outcome hresult hopen := absurd (hend outcome hresult) hopen

end Ticked.Confined

lemma Gate.Responded.confined {gate : Gate σ} {memory : PagedMemory} {request : Request}
    {response : Bytes} {ticked : Ticked σ PagedMemory}
    (h : gate.Responded memory request response ticked) :
    ticked.Confined memory request.responseAddr.toNat
      (min response.length request.responseSize.toNat) := by
  cases h with
  | tooLong hlong => exact .of_eq rfl
  | tooSmall hlen hsmall => exact .of_eq rfl
  | faulted hlen hsize fault written hcopy =>
    obtain ⟨count, hcount, hpatched⟩ := PagedMemory.copyOut_error hcopy
    refine .of_patched hpatched ?_ ?_
    · simp only [List.length_take]
      omega
    · intro outcome hresult
      cases hresult
  | completed hlen hsize written hcopy =>
    refine .of_patched (PagedMemory.copyOut_ok hcopy) ?_ ?_
    · omega
    · intro outcome hresult
      exact (Except.ok.inj hresult).symm

lemma InFlight.Finishes.confined {call : InFlight σ PagedMemory} {ticked : Ticked σ PagedMemory}
    (h : call.Finishes ticked) :
    ticked.Confined call.memory call.request.responseAddr.toNat
      (min call.answer.response.length call.request.responseSize.toNat) := by
  cases h with
  | failed code hanswer => exact .of_eq rfl
  | responded response hanswer reported hreported =>
    rw [hanswer]
    exact hreported.confined.congr rfl rfl
  | delivered message hanswer reported hreported =>
    rw [hanswer]
    exact hreported.confined.congr (reported.settle_memory message) (reported.settle_result message)

section

variable [Service σ] {gate : Gate σ} {memory : PagedMemory} {others : Activity Unit}
  {ticked : Ticked σ PagedMemory}

/-- A call in flight is about the request in the registers, and the memory is as it was. -/
lemma Gate.Dispatches.request_memory {call : InFlight σ PagedMemory}
    (h : gate.Dispatches memory (.inFlight call)) :
    call.request = gate.request ∧ call.memory = memory := by
  cases h with
  | called hpending payload read hcopy => exact ⟨rfl, PagedMemory.copyIn_ok hcopy⟩
  | polled hcontrol hservice payload read hcopy => exact ⟨rfl, PagedMemory.copyIn_ok hcopy⟩
  | refused hpending hcontrol hservice payload read hcopy =>
    exact ⟨rfl, PagedMemory.copyIn_ok hcopy⟩

/-- A tick that is over with its first half keeps the memory. -/
lemma Gate.Dispatches.memory_ended (h : gate.Dispatches memory (.ended ticked)) :
    ticked.memory = memory := by
  cases h with
  | idle hidle => rfl
  | faulted hpending fault read hcopy => exact PagedMemory.copyIn_error hcopy
  | waiting hcontrol hservice payload read hcopy hqueue => exact PagedMemory.copyIn_ok hcopy

lemma Gate.Ticks.confined (h : gate.Ticks memory others ticked) :
    ticked.Confined memory gate.request.responseAddr.toNat
      (min (gate.response memory).length gate.request.responseSize.toNat) := by
  cases h with
  | ended ended _ hdispatch => exact .of_eq hdispatch.memory_ended
  | finished call heq hdispatch _ hfinish =>
    obtain ⟨hrequest, hmemory⟩ := hdispatch.request_memory
    have hresponse : gate.response memory = call.answer.response := by
      simp only [Gate.response, heq]
    have hconfined := hfinish.confined
    simp only [InFlight.amid_memory, InFlight.amid_request, InFlight.amid_answer] at hconfined
    rwa [hmemory, hrequest, ← hresponse] at hconfined

/-- A fault of the request copy ends the tick before anything is written. -/
lemma Gate.Ticks.memory_of_fault (h : gate.Ticks memory others ticked) {fault : Fault}
    {read : PagedMemory}
    (hcopy : GuestMemory.copyIn gate.request.requestAddr gate.request.requestLen memory =
      .error fault read) : ticked.memory = memory := by
  cases h with
  | ended ended _ hdispatch => exact hdispatch.memory_ended
  | finished call _ hdispatch _ hfinish =>
    cases hdispatch with
    | called hpending payload read' hcopy' => cases hcopy.symm.trans hcopy'
    | polled hcontrol hservice payload read' hcopy' => cases hcopy.symm.trans hcopy'
    | refused hpending hcontrol hservice payload read' hcopy' => cases hcopy.symm.trans hcopy'

end

/-- Guest memory is confined to the response buffer. A tick changes no mapping and no permission;
outside of the part of the buffer that the response takes every byte stays as it was, hence below
the buffer and from its end on; and the memory is untouched unless a response is being copied. -/
theorem tick_writes_response_buffer_only [Service σ] (gate : Gate σ) (memory : PagedMemory)
    (others : Activity Unit) :
    ∃ request ticked, gate.readRegisters Request.read = .ok request ∧
      gate.tickAmid memory others = .ok ticked ∧
      ticked.memory.npages = memory.npages ∧
      (∀ index, ticked.memory.permissions? index = memory.permissions? index) ∧
      (∀ addr, addr < request.responseAddr.toNat ∨
          request.responseAddr.toNat +
            min (gate.response memory).length request.responseSize.toNat ≤ addr →
        ticked.memory.peek? addr = memory.peek? addr) ∧
      (∀ addr, addr < request.responseAddr.toNat ∨
          request.responseAddr.toNat + request.responseSize.toNat ≤ addr →
        ticked.memory.peek? addr = memory.peek? addr) ∧
      (ticked.result = .ok .idle ∨ ticked.result = .ok .retry ∨
          (∃ code, ticked.result = .ok (.failed code)) →
        ticked.memory = memory) ∧
      (∀ fault read, GuestMemory.copyIn request.requestAddr request.requestLen memory =
          .error fault read → ticked.memory = memory) := by
  obtain ⟨ticked, htick, hspec⟩ := gate.tickAmid_spec memory others
  have hconfined := hspec.confined
  refine ⟨gate.request, ticked, gate.readRegisters_request, htick, hconfined.npages,
    hconfined.permissions, hconfined.outside, ?_, ?_, ?_⟩
  · intro addr hout
    exact hconfined.outside addr (by omega)
  · rintro (hidle | hretry | ⟨code, hfailed⟩)
    · exact hconfined.unwritten _ hidle (by simp)
    · exact hconfined.unwritten _ hretry (by simp)
    · exact hconfined.unwritten _ hfailed (by simp)
  · intro fault read hcopy
    exact hspec.memory_of_fault hcopy

end HostCalls
