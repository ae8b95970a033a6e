import HostCalls.Proofs.Invocations
import HostCalls.Proofs.Lockstep
import HostCalls.Proofs.PendingErrors

/-!
# The round trip of a call

A call that names a registered service, can be read and has room for the answer is completed by
the tick. The service has seen the request as it was before the tick, the answer is where the
guest wants it, and the registers hold the request and the report. The request is read before
the first byte of the answer is written, so the two may overlap; the record of accesses shows
this, and that nothing else is touched.
-/
namespace HostCalls

variable {σ μ : Type}

namespace Access

/-- The reads of a range of `count` bytes, in order. -/
def reads (addr : UInt32) (count : Nat) : List Access :=
  (List.range count).map fun i => .read (addr + .ofNat i)

/-- The writes of `data` from an address on, in order. -/
def writes (addr : UInt32) (data : Bytes) : List Access :=
  data.mapIdx fun i b => .write (addr + .ofNat i) b

end Access

/-! ## The accesses of the copies -/

lemma eq_of_addressAt {base here : UInt32} {i : Nat} (h : addressAt base i = .ok here) :
    here = base + .ofNat i := by
  unfold addressAt at h
  split_ifs at h
  exact (Except.ok.inj h).symm

namespace Traced

variable [GuestMemory μ] {addr : UInt32} {traced : Traced μ}

lemma history_copyInFrom {copied payload : Bytes} {i count : Nat} {read : Traced μ}
    (h : GuestMemory.copyInFrom addr copied i count traced = .ok payload read) :
    read.history =
      traced.history ++ (List.range count).map fun k => .read (addr + .ofNat (i + k)) := by
  induction count generalizing copied i traced with
  | zero =>
    cases h
    simp
  | succ count ih =>
    simp only [GuestMemory.copyInFrom] at h
    cases haddr : addressAt addr i with
    | error fault =>
      rw [haddr] at h
      cases h
    | ok here =>
      have hhere := eq_of_addressAt haddr
      simp only [haddr, bind, EStateM.bind, GuestMemory.readByte, perform] at h
      cases hbyte : GuestMemory.readByte here traced.memory with
      | error fault read =>
        rw [hbyte] at h
        cases h
      | ok b read =>
        rw [hbyte] at h
        rw [ih h, hhere, List.range_succ_eq_map]
        simp [history, Function.comp_def, Nat.add_assoc, Nat.add_comm 1]

lemma history_copyOutFrom {data : Bytes} {i : Nat} {written : Traced μ}
    (h : GuestMemory.copyOutFrom addr i data traced = .ok () written) :
    written.history =
      traced.history ++ data.mapIdx fun k b => .write (addr + .ofNat (i + k)) b := by
  induction data generalizing i traced with
  | nil =>
    cases h
    simp
  | cons b rest ih =>
    simp only [GuestMemory.copyOutFrom] at h
    cases haddr : addressAt addr i with
    | error fault =>
      rw [haddr] at h
      cases h
    | ok here =>
      have hhere := eq_of_addressAt haddr
      simp only [haddr, bind, EStateM.bind, GuestMemory.writeByte, perform] at h
      cases hbyte : GuestMemory.writeByte here b traced.memory with
      | error fault written =>
        rw [hbyte] at h
        cases h
      | ok _ stored =>
        rw [hbyte] at h
        rw [ih h, hhere, List.mapIdx_cons]
        simp [history, Nat.add_assoc, Nat.add_comm 1]

/-- A payload that can be read is read under record, too, and byte by byte. -/
lemma copyIn_of_ok {len : UInt32} {payload : Bytes} {read : μ}
    (h : GuestMemory.copyIn addr len traced.memory = .ok payload read) :
    ∃ after, GuestMemory.copyIn addr len traced = .ok payload after ∧ after.memory = read ∧
      after.history = traced.history ++ Access.reads addr len.toNat := by
  have hmatched : Matched (fun (traced : Traced μ) memory => traced.memory = memory)
      (GuestMemory.copyIn addr len traced) (GuestMemory.copyIn addr len traced.memory) :=
    (lockstep addr.toNat len.toNat).copyIn rfl
  rw [h] at hmatched
  obtain ⟨after, hcopy, hmemory⟩ := hmatched.exists_ok
  have hhistory := history_copyInFrom hcopy
  simp only [Nat.zero_add] at hhistory
  exact ⟨after, hcopy, hmemory, hhistory⟩

/-- A payload that can be written is written under record, too, and byte by byte. -/
lemma copyOut_of_ok {data : Bytes} {written : μ}
    (h : GuestMemory.copyOut addr data traced.memory = .ok () written) :
    ∃ after, GuestMemory.copyOut addr data traced = .ok () after ∧ after.memory = written ∧
      after.history = traced.history ++ Access.writes addr data := by
  have hmatched : Matched (fun (traced : Traced μ) memory => traced.memory = memory)
      (GuestMemory.copyOut addr data traced) (GuestMemory.copyOut addr data traced.memory) :=
    (lockstep 0 0).copyOutFrom addr 0 data rfl
  rw [h] at hmatched
  obtain ⟨after, hcopy, hmemory⟩ := hmatched.exists_ok
  have hhistory := history_copyOutFrom hcopy
  simp only [Nat.zero_add] at hhistory
  exact ⟨after, hcopy, hmemory, hhistory⟩

end Traced

/-! ## The registers after a call -/

namespace Gate

/-- The registers after the report of a response that was copied out. -/
lemma request_completed (gate : Gate σ) (len : UInt32) :
    (((gate.assign Layout.responseLen len).assign Layout.responseCode 0).assign Layout.control
      0).request = { gate.request with control := 0 } := by
  simp (disch := decide) only [request, value_assign, value_assign_apart]

lemma status_completed (gate : Gate σ) (len : UInt32) :
    (((gate.assign Layout.responseLen len).assign Layout.responseCode 0).assign Layout.control
      0).status = ⟨0, gate.request.service, 0, len⟩ := by
  simp (disch := decide) only [status, request, value_assign, value_assign_apart]

end Gate

/-- A call of a registered service whose answer fits is completed. Registers and memory hold the
answer to the request as it was before, and are otherwise unchanged. The memory is accessed for the
request, then for the answer, and not at all besides: an empty answer leaves the place for it
alone. -/
theorem service_call_round_trip [Service σ] (gate : Gate σ) (memory : PagedMemory)
    (others : Activity Unit) {request : Request}
    (hread : gate.readRegisters Request.read = .ok request) {id : ServiceId} {service : σ}
    (hcalls : request.Calls gate.registry.services memory id)
    (hfind : gate.registry.services.find? id = some service) {answer : Bytes}
    (hanswer : ((Service.handle service (request.payload memory)).perform gate.queue).result.1 =
      .ok answer)
    (hlen : answer.length ≤ gate.config.maxPayloadLen.toNat)
    (hsize : answer.length ≤ request.responseSize.toNat)
    (hwritable : memory.Permits .writeOnly request.responseAddr.toNat answer.length) :
    ∃ ticked len, gate.tickAmid (Traced.start memory) others = .ok ticked ∧
      gate.tickAmid memory others = .ok (ticked.withMemory ticked.memory.memory) ∧
      ticked.result = .ok .completed ∧
      ticked.gate.readRegisters Request.read = .ok { request with control := 0 } ∧
      ticked.gate.readRegisters Status.read = .ok ⟨0, request.service, 0, len⟩ ∧
      len.toNat = answer.length ∧
      (request.payload memory).map some =
        memory.peekRange request.requestAddr.toNat request.requestLen.toNat ∧
      memory.Patched request.responseAddr.toNat answer ticked.memory.memory ∧
      ticked.memory.history =
        Access.reads request.requestAddr request.requestLen.toNat ++
          Access.writes request.responseAddr answer := by
  rw [gate.readRegisters_request] at hread
  cases hread
  obtain ⟨written, hwrite⟩ := (PagedMemory.copyOut_ok_iff _ _ memory).mpr hwritable
  -- both copies succeed under record, the second one on what the first one leaves
  have hcopy : GuestMemory.copyIn gate.request.requestAddr gate.request.requestLen
      (Traced.start memory).memory = .ok (gate.request.payload memory) memory :=
    PagedMemory.copyIn_of_permits hcalls.readable
  obtain ⟨read, hcopy, hkept, hreads⟩ := Traced.copyIn_of_ok hcopy
  have hpatched := PagedMemory.copyOut_ok hwrite
  rw [← hkept] at hwrite
  obtain ⟨after, hcopied, rfl, hwrites⟩ := Traced.copyOut_of_ok hwrite
  obtain ⟨ticked, htick, hspec⟩ := gate.tickAmid_spec (Traced.start memory) others
  have hreply : (gate.calling read id (gate.request.payload memory)).answer =
      .reply (.ok answer) := by
    simp only [Gate.calling, gate.registry.call_of_find hfind]
    exact congrArg Answer.reply hanswer
  obtain ⟨reported, hreported, hgate, hmemory, hresult⟩ :=
    (hspec.finishes_calling hcalls.pending hcalls.named hcopy).of_response hreply
  obtain rfl := hreported.eq_of_copyOut_ok hlen hsize hcopied
  have hsame : ((gate.calling read id (gate.request.payload memory)).amid others).gate.request =
      gate.request := Gate.request_congr rfl rfl
  refine ⟨ticked, .ofNat answer.length, htick, gate.tickAmid_traced htick, hresult, ?_, ?_,
    gate.toNat_length hlen, PagedMemory.map_some_contents hcalls.readable, ?_, ?_⟩
  · rw [hgate, Gate.readRegisters_request, Gate.request_completed, hsame]
  · rw [hgate, Gate.readRegisters_status, Gate.status_completed, hsame]
  · rw [hmemory]
    exact hpatched
  · rw [hmemory, hwrites, hreads, Traced.history_start, List.nil_append]

/-- A service that answers backwards, and a call of it with three bytes across the end of the first
page. The answer goes one byte further on. -/
def Gate.overlappingCall (gate : Gate Stock) : Except Abort (Gate Stock) :=
  (gate.register ⟨42, by decide⟩ .reverse).value.writeRegisters
    (Request.toService ⟨42, by decide⟩ 0x0ffe 3 0x0fff 8).write

/-- Two pages with the bytes 1, 0 and 3 around the boundary between them. -/
def PagedMemory.straddled : Except Abort PagedMemory := do
  let memory ← PagedMemory.new 2
  return (memory.store 0x0ffe 1).store 0x1000 3

/-- The answer is 3, 0 and 1, though its first byte lies on the second of the request. -/
theorem overlappingCall_round_trip :
    ∃ gate memory ticked, (Gate.new {} >>= Gate.overlappingCall) = .ok gate ∧
      PagedMemory.straddled = .ok memory ∧
      gate.tickAmid (Traced.start memory) (.done ()) = .ok ticked ∧
      ticked.result = .ok .completed ∧
      ticked.memory.memory.peek? 0x0ffe = memory.peek? 0x0ffe ∧
      ticked.memory.memory.peekRange 0x0fff 3 = [some 3, some 0, some 1] ∧
      ticked.memory.history = [.read 0x0ffe, .read 0x0fff, .read 0x1000, .write 0x0fff 3,
        .write 0x1000 0, .write 0x1001 1] := by
  have hseen : (do
      let built ← Gate.new {}
      let gate ← Gate.overlappingCall built
      let memory ← PagedMemory.straddled
      let request ← gate.readRegisters Request.read
      return ((request, gate.config.maxPayloadLen.toNat), (request.payload memory,
        decide (request.Calls gate.registry.services memory ⟨42, by decide⟩),
        decide (memory.Permits .writeOnly 0x0fff 3)))) =
      .ok ((Request.toService ⟨42, by decide⟩ 0x0ffe 3 0x0fff 8, 4096),
        ([1, 0, 3], true, true)) := by
    decide +kernel
  obtain ⟨built, hbuilt, hseen⟩ := exists_of_bind_ok hseen
  obtain ⟨gate, hgate, hseen⟩ := exists_of_bind_ok hseen
  obtain ⟨memory, hmemory, hseen⟩ := exists_of_bind_ok hseen
  obtain ⟨request, hrequest, hseen⟩ := exists_of_bind_ok hseen
  simp only [pure, Except.pure, Except.ok.injEq, Prod.mk.injEq, decide_eq_true_eq] at hseen
  obtain ⟨⟨rfl, hmax⟩, hpayload, hcalls, hwritable⟩ := hseen
  have hfind : gate.registry.services.find? ⟨42, by decide⟩ = some .reverse := by
    rw [(Gate.writeRegisters_frame hgate).1]
    exact Table.find?_insert_self _ _ _
  have hanswer : ((Service.handle Stock.reverse
      ((Request.toService ⟨42, by decide⟩ 0x0ffe 3 0x0fff 8).payload memory)).perform
        gate.queue).result.1 = .ok [3, 0, 1] := by
    rw [hpayload]
    rfl
  obtain ⟨ticked, _, htick, _, hresult, _, _, _, _, hpatched, hhistory⟩ :=
    service_call_round_trip gate memory (.done ()) hrequest hcalls hfind hanswer
      (by rw [hmax]; decide) (by decide) hwritable
  refine ⟨gate, memory, ticked, by rw [hbuilt]; exact hgate, hmemory, htick, hresult,
    hpatched.outside _ (by decide), hpatched.peekRange, hhistory.trans (by decide)⟩

end HostCalls
