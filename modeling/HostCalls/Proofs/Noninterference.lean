import HostCalls.Proofs.Access
import HostCalls.Proofs.Lockstep
import HostCalls.Proofs.SafeConfig
import HostCalls.Service.Stock

/-!
# Memory outside of the request

What a tick does depends on the bytes of the request and on the permissions of the pages, and on
nothing else in guest memory. Two memories with the same permissions that hold the same request
are accessed in the same way throughout; where they were alike they stay alike, and they become
alike wherever the tick writes.
-/
namespace HostCalls

open PagedMemory

/-- Two memories that were `first` and `second` at the beginning, with the same accesses made to
both. They permit the same, as they did then, and are alike where they were alike and where they
were written to. -/
structure Twins (first second : PagedMemory) (one two : Traced PagedMemory) : Prop where
  accesses : two.accesses = one.accesses
  unchanged : ∀ index, one.memory.permissions? index = first.permissions? index
  permissions : ∀ index, two.memory.permissions? index = one.memory.permissions? index
  kept : ∀ addr, second.peek? addr = first.peek? addr →
    two.memory.peek? addr = one.memory.peek? addr
  written : ∀ addr value, .write addr value ∈ one.accesses →
    first.allows .writeOnly addr.toNat = true →
    two.memory.peek? addr.toNat = one.memory.peek? addr.toNat

namespace Twins

variable {first second : PagedMemory} {one two : Traced PagedMemory}

lemma start (h : ∀ index, second.permissions? index = first.permissions? index) :
    Twins first second (.start first) (.start second) :=
  ⟨rfl, fun _ => rfl, h, fun _ hsame => hsame, fun _ _ hmem => absurd hmem List.not_mem_nil⟩

/-- An access that changes neither memory, and is no write that the page permits. -/
lemma note (h : Twins first second one two) (access : Access)
    (hwrite : ∀ addr value, access = .write addr value →
      first.allows .writeOnly addr.toNat = false) :
    Twins first second ⟨one.memory, access :: one.accesses⟩
      ⟨two.memory, access :: two.accesses⟩ := by
  refine ⟨by rw [h.accesses], h.unchanged, h.permissions, h.kept, ?_⟩
  intro addr value hmem hallows
  rcases List.mem_cons.mp hmem with heq | hearlier
  · rw [hwrite addr value heq.symm] at hallows
    cases hallows
  · exact h.written addr value hearlier hallows

/-- A byte stored into both memories. -/
lemma store (h : Twins first second one two) {addr : UInt32} {mapped mapped' : MappedPage}
    (hone : one.memory.check addr .writeOnly = .ok mapped)
    (htwo : two.memory.check addr .writeOnly = .ok mapped') (value : UInt8) :
    Twins first second ⟨one.memory.store addr value, .write addr value :: one.accesses⟩
      ⟨two.memory.store addr value, .write addr value :: two.accesses⟩ := by
  have hhere : (two.memory.store addr value).peek? addr.toNat =
      (one.memory.store addr value).peek? addr.toNat := by
    rw [peek?_store _ _ _ (mapped_of_check hone), peek?_store _ _ _ (mapped_of_check htwo)]
  have hstays (place : Nat) (hsame : two.memory.peek? place = one.memory.peek? place) :
      (two.memory.store addr value).peek? place = (one.memory.store addr value).peek? place := by
    by_cases hplace : place = addr.toNat
    · rw [hplace, hhere]
    · rw [peek?_store_apart _ _ _ hplace, peek?_store_apart _ _ _ hplace, hsame]
  refine ⟨by rw [h.accesses], ?_, ?_, ?_, ?_⟩
  · intro index
    rw [permissions?_store, h.unchanged]
  · intro index
    rw [permissions?_store, permissions?_store, h.permissions]
  · intro place hsame
    exact hstays place (h.kept place hsame)
  · intro place stored hmem hallows
    rcases List.mem_cons.mp hmem with heq | hearlier
    · cases heq
      exact hhere
    · exact hstays _ (h.written place stored hearlier hallows)

/-- Both memories are read and written alike, as long as no byte is read in which they differed. -/
lemma lockstep {addr count : Nat}
    (hsame : ∀ here : UInt32, addr ≤ here.toNat → here.toNat < addr + count →
      second.peek? here.toNat = first.peek? here.toNat) :
    Lockstep (Twins first second) addr count where
  read here hstart hend := by
    intro one two h
    have hnote := h.note (.read here) (by intro _ _ heq; cases heq)
    simp only [GuestMemory.readByte, Traced.perform, readByte]
    obtain ⟨fault, hone, htwo⟩ | ⟨mapped, mapped', hone, htwo⟩ :=
      check_congr h.permissions here .readOnly
    · rw [hone, htwo]
      exact .error fault hnote
    · have hpeek := h.kept here.toNat (hsame here hstart hend)
      rw [peek?_of_check hone, peek?_of_check htwo] at hpeek
      rw [hone, htwo]
      simp only [Except.map, Option.some.inj hpeek]
      exact .ok _ hnote
  write here value := by
    intro one two h
    simp only [GuestMemory.writeByte, Traced.perform, writeByte]
    obtain ⟨fault, hone, htwo⟩ | ⟨mapped, mapped', hone, htwo⟩ :=
      check_congr h.permissions here .writeOnly
    · rw [hone, htwo]
      refine .error fault (h.note _ ?_)
      intro place stored heq
      cases heq
      -- the page did not permit the write then either
      have hallows := one.memory.check_ok_iff here .writeOnly
      rw [hone] at hallows
      simp only [allows, h.unchanged] at hallows
      simpa [allows] using hallows
    · rw [hone, htwo]
      exact .ok () (h.store hone htwo value)

end Twins

/-- Let two memories have the same permissions on every page and hold the same bytes where the
request is; anywhere else they may differ. Then a tick on the one and a tick on the other end in
the same way, with the same registers, messages, services and events, after the same accesses. The
memories that they leave hold the same wherever the tick wrote and wherever they held the same
before. -/
theorem memory_outside_request_irrelevant {σ : Type} [Service σ] (gate : Gate σ)
    {request : Request} (hread : gate.readRegisters Request.read = .ok request)
    (first second : PagedMemory)
    (hpermissions : ∀ index, second.permissions? index = first.permissions? index)
    (hrequest : ∀ addr : UInt32, request.requestAddr.toNat ≤ addr.toNat →
      addr.toNat < request.requestAddr.toNat + request.requestLen.toNat →
      second.peek? addr.toNat = first.peek? addr.toNat) (others : Activity Unit) :
    ∃ ticked other, gate.tickAmid (Traced.start first) others = .ok ticked ∧
      gate.tickAmid (Traced.start second) others = .ok (ticked.withMemory other) ∧
      gate.tickAmid first others = .ok (ticked.withMemory ticked.memory.memory) ∧
      gate.tickAmid second others = .ok (ticked.withMemory other.memory) ∧
      other.history = ticked.memory.history ∧
      (∀ addr value, .write addr value ∈ ticked.memory.history →
        first.allows .writeOnly addr.toNat = true →
        other.memory.peek? addr.toNat = ticked.memory.memory.peek? addr.toNat) ∧
      ∀ addr, second.peek? addr = first.peek? addr →
        other.memory.peek? addr = ticked.memory.memory.peek? addr := by
  cases gate.readRegisters_request.symm.trans hread
  have hstart := Twins.start hpermissions
  obtain ⟨ticked, other, hone, htwo, htwins⟩ :=
    (Twins.lockstep hrequest).tickAmid hstart others
  refine ⟨ticked, other, hone, htwo, gate.tickAmid_traced hone, gate.tickAmid_traced htwo,
    ?_, ?_, htwins.kept⟩
  · rw [Traced.history, htwins.accesses, Traced.history]
  · intro addr value hmem hallows
    exact htwins.written addr value (List.mem_reverse.mp hmem) hallows

/-- A gate with a pending call. The request is at address 0 and the response goes to address 64. -/
def Gate.withEcho : Except Abort (Gate Stock) := do
  let gate ← Gate.new {}
  (gate.register ⟨37, by decide⟩ .echo).value.writeRegisters
    (Request.toService ⟨37, by decide⟩ 0 2 64 16).write

/-- The memories differ inside of the response buffer and behind it. Behind it they still do after
the tick. -/
theorem withEcho_outside_irrelevant :
    ∃ gate second ticked other, Gate.withEcho = .ok gate ∧
      second = (PagedMemory.onePage.store 65 7).store 100 7 ∧
      gate.tickAmid (Traced.start PagedMemory.onePage) (.done ()) = .ok ticked ∧
      gate.tickAmid (Traced.start second) (.done ()) = .ok (ticked.withMemory other) ∧
      ticked.result = .ok .completed ∧
      other.history = [.read 0, .read 1, .write 64 0, .write 65 0] ∧
      other.memory.peek? 65 = ticked.memory.memory.peek? 65 ∧
      other.memory.peek? 99 = ticked.memory.memory.peek? 99 ∧
      other.memory.peek? 100 ≠ ticked.memory.memory.peek? 100 := by
  have hseen : (do
      let gate ← Gate.withEcho
      let ticked ← gate.tickAmid (Traced.start PagedMemory.onePage) (.done ())
      let differing ← gate.tickAmid
        (Traced.start ((PagedMemory.onePage.store 65 7).store 100 7)) (.done ())
      return ((← gate.readRegisters Request.read, ticked.result), (ticked.memory.history,
        ticked.memory.memory.peek? 100, differing.memory.memory.peek? 100))) =
        .ok ((Request.toService ⟨37, by decide⟩ 0 2 64 16, .ok .completed),
          ([.read 0, .read 1, .write 64 0, .write 65 0], some 0, some 7)) := by
    decide +kernel
  obtain ⟨gate, hgate, hseen⟩ := exists_of_bind_ok hseen
  obtain ⟨ticked, hticked, hseen⟩ := exists_of_bind_ok hseen
  obtain ⟨differing, hdiffering, hseen⟩ := exists_of_bind_ok hseen
  obtain ⟨request, hrequest, hseen⟩ := exists_of_bind_ok hseen
  simp only [pure, Except.pure, Except.ok.injEq, Prod.mk.injEq] at hseen
  obtain ⟨⟨rfl, hresult⟩, hhistory, hzero, hseven⟩ := hseen
  have hpermissions (index : UInt64) :
      ((PagedMemory.onePage.store 65 7).store 100 7).permissions? index =
        PagedMemory.onePage.permissions? index := by
    rw [permissions?_store, permissions?_store]
  have hapart (addr : Nat) (h₁ : addr ≠ 65) (h₂ : addr ≠ 100) :
      ((PagedMemory.onePage.store 65 7).store 100 7).peek? addr =
        PagedMemory.onePage.peek? addr := by
    rw [peek?_store_apart _ _ _ h₂, peek?_store_apart _ _ _ h₁]
  have hsame (addr : UInt32) (_ : (0 : UInt32).toNat ≤ addr.toNat)
      (hend : addr.toNat < (0 : UInt32).toNat + (2 : UInt32).toNat) :
      ((PagedMemory.onePage.store 65 7).store 100 7).peek? addr.toNat =
        PagedMemory.onePage.peek? addr.toNat := by
    have hsmall : addr.toNat < 2 := hend
    exact hapart addr.toNat (by omega) (by omega)
  obtain ⟨ticked', other, hone, htwo, _, _, haccesses, hwritten, hkept⟩ :=
    memory_outside_request_irrelevant gate hrequest .onePage _ hpermissions hsame (.done ())
  cases hticked.symm.trans hone
  cases hdiffering.symm.trans htwo
  refine ⟨gate, _, ticked, other, hgate, rfl, hone, htwo, hresult, haccesses.trans hhistory, ?_,
    hkept 99 (hapart 99 (by decide) (by decide)), ?_⟩
  · exact hwritten 65 0 (by rw [hhistory]; decide) (by decide +kernel)
  · have hother : other.memory.peek? 100 = some 7 := hseven
    rw [hother, hzero]
    decide

end HostCalls
