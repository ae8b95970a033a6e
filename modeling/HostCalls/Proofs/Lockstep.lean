import HostCalls.Memory.Traced
import HostCalls.Proofs.TickCases

/-!
# Two memories in lockstep

A tick reaches guest memory only through the copy of the request and the copy of the response. So
for a tick on one memory and a tick on another one, possibly of another kind, it is enough to
compare single accesses: if they come to the same and keep the memories related, then both
ticks come to the same, apart from memories that are still related. In this way a record of all
accesses is seen to make no difference.
-/
namespace HostCalls

variable {σ μ ν α β : Type} {R : μ → ν → Prop}

/-- Two accesses come to the same: the same value or the same fault, and related memories. -/
inductive Matched (R : μ → ν → Prop) :
    EStateM.Result Fault μ α → EStateM.Result Fault ν α → Prop
  | ok (a : α) {one : μ} {two : ν} (h : R one two) : Matched R (.ok a one) (.ok a two)
  | error (fault : Fault) {one : μ} {two : ν} (h : R one two) :
    Matched R (.error fault one) (.error fault two)

/-- An access that matches one which succeeds has succeeded. -/
lemma Matched.exists_ok {first : EStateM.Result Fault μ α} {a : α} {two : ν}
    (h : Matched R first (.ok a two)) : ∃ one, first = .ok a one ∧ R one two := by
  cases h with
  | @ok _ one _ h => exact ⟨one, rfl, h⟩

lemma Matched.bind {x : EStateM Fault μ α} {y : EStateM Fault ν α} {f : α → EStateM Fault μ β}
    {g : α → EStateM Fault ν β} {one : μ} {two : ν} (h : Matched R (x one) (y two))
    (hnext : ∀ a {one two}, R one two → Matched R (f a one) (g a two)) :
    Matched R ((x >>= f) one) ((y >>= g) two) := by
  simp only [Bind.bind, EStateM.bind]
  generalize x one = first at h
  generalize y two = second at h
  cases h with
  | ok a h => exact hnext a h
  | error fault h => exact .error fault h

/-- Related memories match on every write, and on reads from the range of addresses. -/
structure Lockstep [GuestMemory μ] [GuestMemory ν] (R : μ → ν → Prop) (addr count : Nat) :
    Prop where
  read : ∀ here : UInt32, addr ≤ here.toNat → here.toNat < addr + count → ∀ {one two},
    R one two → Matched R (GuestMemory.readByte here one) (GuestMemory.readByte here two)
  write : ∀ here value {one two}, R one two →
    Matched R (GuestMemory.writeByte here value one) (GuestMemory.writeByte here value two)

/-! ## Copies -/

section

variable [GuestMemory μ] [GuestMemory ν] {start size : Nat} {one : μ} {two : ν}

lemma Lockstep.copyInFrom (h : Lockstep R start size) (addr : UInt32) (copied : Bytes)
    (i count : Nat) (hstart : start ≤ addr.toNat + i) (hend : addr.toNat + i + count ≤ start + size)
    (hrelated : R one two) :
    Matched R (GuestMemory.copyInFrom addr copied i count one)
      (GuestMemory.copyInFrom addr copied i count two) := by
  induction count generalizing copied i one two with
  | zero => exact .ok _ hrelated
  | succ count ih =>
    simp only [GuestMemory.copyInFrom]
    cases haddr : addressAt addr i with
    | error fault => exact .error fault hrelated
    | ok here =>
      have hhere := addressAt_ok haddr
      refine (h.read here (by omega) (by omega) hrelated).bind ?_
      intro b one two hrelated
      exact ih (b :: copied) (i + 1) (by omega) (by omega) hrelated

lemma Lockstep.copyIn {addr len : UInt32} (h : Lockstep R addr.toNat len.toNat)
    (hrelated : R one two) :
    Matched R (GuestMemory.copyIn addr len one) (GuestMemory.copyIn addr len two) :=
  h.copyInFrom addr [] 0 len.toNat (by omega) (by omega) hrelated

lemma Lockstep.copyOutFrom (h : Lockstep R start size) (addr : UInt32) (i : Nat) (data : Bytes)
    (hrelated : R one two) :
    Matched R (GuestMemory.copyOutFrom addr i data one)
      (GuestMemory.copyOutFrom addr i data two) := by
  induction data generalizing i one two with
  | nil => exact .ok _ hrelated
  | cons b rest ih =>
    simp only [GuestMemory.copyOutFrom]
    cases addressAt addr i with
    | error fault => exact .error fault hrelated
    | ok here =>
      refine (h.write here b hrelated).bind ?_
      intro _ one two hrelated
      exact ih (i + 1) hrelated

end

/-! ## The tick -/

/-- The same end of a tick, but with another memory. -/
def Ticked.withMemory (ticked : Ticked σ μ) (memory : ν) : Ticked σ ν :=
  ⟨ticked.gate, memory, ticked.result, ticked.events⟩

/-- The same request in flight, but with another memory. -/
def InFlight.withMemory (call : InFlight σ μ) (memory : ν) : InFlight σ ν :=
  ⟨call.gate, memory, call.request, call.target, call.answer, call.events⟩

namespace Dispatched

/-- The same first half of a tick, but with another memory. -/
def withMemory (memory : ν) : Dispatched σ μ → Dispatched σ ν
  | .ended ticked => .ended (ticked.withMemory memory)
  | .inFlight call => .inFlight (call.withMemory memory)

/-- The memory after the first half of a tick. -/
def memory : Dispatched σ μ → μ
  | .ended ticked => ticked.memory
  | .inFlight call => call.memory

end Dispatched

lemma Ticked.settle_withMemory (ticked : Ticked σ μ) (memory : ν) (message : Message) :
    (ticked.withMemory memory).settle message = (ticked.settle message).withMemory memory := by
  obtain ⟨gate, old, result, events⟩ := ticked
  cases result with
  | error fault => rfl
  | ok outcome =>
    cases outcome with
    | failed code =>
      simp only [settle, withMemory]
      split_ifs <;> rfl
    | _ => rfl

section

variable [GuestMemory μ] [GuestMemory ν] {start size : Nat} {one : μ} {two : ν}

lemma Lockstep.respond (h : Lockstep R start size) (gate : Gate σ) (request : Request)
    (response : Bytes) (hrelated : R one two) :
    ∃ ticked other, gate.respond one request response = .ok ticked ∧
      gate.respond two request response = .ok (ticked.withMemory other) ∧
      R ticked.memory other := by
  unfold Gate.respond
  split_ifs with hlong
  · rw [Gate.fail_eq, Gate.fail_eq]
    exact ⟨_, two, rfl, rfl, hrelated⟩
  · simp only [Gate.writeRegisters_write _ (by decide : Layout.responseLen.Within), ok_bind]
    split_ifs with hsmall
    · rw [Gate.fail_eq, Gate.fail_eq]
      exact ⟨_, two, rfl, rfl, hrelated⟩
    · have hcopy := h.copyOutFrom request.responseAddr 0 response hrelated
      simp only [GuestMemory.copyOut]
      generalize GuestMemory.copyOutFrom request.responseAddr 0 response one = first at hcopy
      generalize GuestMemory.copyOutFrom request.responseAddr 0 response two = second at hcopy
      cases hcopy with
      | error fault hrelated => exact ⟨_, _, rfl, rfl, hrelated⟩
      | ok _ hrelated =>
        simp only [Gate.writeRegisters_write_write _ (by decide : Layout.responseCode.Within)
          (by decide : Layout.control.Within), ok_bind]
        exact ⟨_, _, rfl, rfl, hrelated⟩

lemma Lockstep.finish (h : Lockstep R start size) (call : InFlight σ μ)
    (hrelated : R call.memory two) :
    ∃ ticked other, call.finish = .ok ticked ∧
      (call.withMemory two).finish = .ok (ticked.withMemory other) ∧ R ticked.memory other := by
  obtain ⟨gate, memory, request, target, answer, events⟩ := call
  cases answer with
  | reply result =>
    cases result with
    | error code =>
      simp only [InFlight.finish, InFlight.report, InFlight.withMemory, Gate.fail_eq, ok_bind]
      exact ⟨_, two, rfl, rfl, hrelated⟩
    | ok response =>
      obtain ⟨ticked, other, hone, htwo, hrelated⟩ := h.respond gate request response hrelated
      simp only [InFlight.finish, InFlight.report, InFlight.withMemory, hone, htwo, ok_bind]
      exact ⟨_, other, rfl, rfl, hrelated⟩
  | delivery message =>
    obtain ⟨ticked, other, hone, htwo, hrelated⟩ :=
      h.respond gate request message.payload hrelated
    simp only [InFlight.finish, InFlight.report, InFlight.withMemory, hone, htwo, ok_bind,
      ticked.settle_withMemory]
    refine ⟨_, other, rfl, rfl, ?_⟩
    rwa [ticked.settle_memory]

end

variable [Service σ] {one : μ} {two : ν}

/-- Finding the answer to a request does not involve the memory. -/
lemma Gate.answer_withMemory (gate : Gate σ) (one : μ) (two : ν) (request : Request)
    (target : Target) (payload : Bytes) :
    ∃ dispatched, gate.answer one request target payload = .ok dispatched ∧
      gate.answer two request target payload = .ok (dispatched.withMemory two) ∧
      dispatched.memory = one := by
  cases target with
  | service id => exact ⟨_, rfl, rfl, rfl⟩
  | unknownControl code => exact ⟨_, rfl, rfl, rfl⟩
  | control operation =>
    cases operation with
    | pollMessage =>
      simp only [answer]
      cases gate.queue.popFront? with
      | none => exact ⟨_, rfl, rfl, rfl⟩
      | some popped =>
        simp only [writeRegisters_write _ (by decide : Layout.service.Within), ok_bind]
        exact ⟨_, rfl, rfl, rfl⟩
    | _ => exact ⟨_, rfl, rfl, rfl⟩

variable [GuestMemory μ] [GuestMemory ν] {gate : Gate σ}

lemma Lockstep.dispatch
    (h : Lockstep R gate.request.requestAddr.toNat gate.request.requestLen.toNat)
    (hrelated : R one two) :
    ∃ dispatched other, gate.dispatch one = .ok dispatched ∧
      gate.dispatch two = .ok (dispatched.withMemory other) ∧ R dispatched.memory other := by
  simp only [Gate.dispatch, Gate.readRegisters_read _ (by decide : Layout.control.Within),
    Gate.readRegisters_request, ok_bind]
  split_ifs with hidle
  · exact ⟨_, two, rfl, rfl, hrelated⟩
  · have hcopy := h.copyIn hrelated
    generalize GuestMemory.copyIn gate.request.requestAddr gate.request.requestLen one =
      first at hcopy
    generalize GuestMemory.copyIn gate.request.requestAddr gate.request.requestLen two =
      second at hcopy
    cases hcopy with
    | error fault hrelated => exact ⟨_, _, rfl, rfl, hrelated⟩
    | @ok payload readOne readTwo hrelated =>
      obtain ⟨dispatched, hone, htwo, hmemory⟩ := gate.answer_withMemory readOne readTwo
        gate.request (Target.decode (gate.value Layout.control) gate.request.service) payload
      refine ⟨dispatched, readTwo, hone, htwo, ?_⟩
      rwa [hmemory]

/-- Ticks on memories in lockstep differ in the memories only. -/
lemma Lockstep.tickAmid
    (h : Lockstep R gate.request.requestAddr.toNat gate.request.requestLen.toNat)
    (hrelated : R one two) (others : Activity Unit) :
    ∃ ticked other, gate.tickAmid one others = .ok ticked ∧
      gate.tickAmid two others = .ok (ticked.withMemory other) ∧ R ticked.memory other := by
  obtain ⟨dispatched, other, hone, htwo, hrelated⟩ := h.dispatch hrelated
  simp only [Gate.tickAmid, hone, htwo, ok_bind]
  cases dispatched with
  | ended ticked => exact ⟨_, other, rfl, rfl, hrelated⟩
  | inFlight call => exact h.finish (call.amid others) hrelated

/-! ## Traced memory -/

/-- The record of accesses is kept apart from the memory. -/
lemma Traced.lockstep (addr count : Nat) :
    Lockstep (fun (traced : Traced μ) memory => traced.memory = memory) addr count where
  read here _ _ := by
    rintro traced memory rfl
    simp only [GuestMemory.readByte, perform]
    cases GuestMemory.readByte here traced.memory with
    | ok b read => exact .ok b rfl
    | error fault read => exact .error fault rfl
  write here value := by
    rintro traced memory rfl
    simp only [GuestMemory.writeByte, perform]
    cases GuestMemory.writeByte here value traced.memory with
    | ok _ written => exact .ok () rfl
    | error fault written => exact .error fault rfl

/-- A tick on traced memory is the tick on the memory itself. -/
lemma Gate.tickAmid_traced {traced : Traced μ} {others : Activity Unit}
    {ticked : Ticked σ (Traced μ)} (h : gate.tickAmid traced others = .ok ticked) :
    gate.tickAmid traced.memory others = .ok (ticked.withMemory ticked.memory.memory) := by
  have hlockstep : Lockstep (fun (traced : Traced μ) memory => traced.memory = memory)
      gate.request.requestAddr.toNat gate.request.requestLen.toNat := Traced.lockstep _ _
  obtain ⟨ticked', memory, htraced, hplain, hmemory⟩ := hlockstep.tickAmid rfl others
  cases h.symm.trans htraced
  rw [hplain, hmemory]

end HostCalls
