import HostCalls.Proofs.Access
import HostCalls.Proofs.TickCases
import HostCalls.Service.Stock
import Mathlib.Data.Nat.Find

/-!
# The first byte that cannot be accessed

A copy goes through its range byte by byte, so it ends with the fault of the first byte that cannot
be accessed, and that fault is known from the permissions alone. For a request this comes before
anything else: the tick is over, and registers, memory, messages and services are as they were,
whatever the request is about. Hence the next tick comes to the same.
-/
namespace HostCalls

namespace PagedMemory

/-- Why a byte of a range cannot be accessed. What lies past the end of the address space is
reported at the start of the range. -/
def faultAt? (memory : PagedMemory) (needed : Permissions) (start : UInt32) (i : Nat) :
    Option Fault :=
  if start.toNat + i < 0x100000000 then
    match memory.permissions? (.ofNat ((start.toNat + i) / pageSize)) with
    | none => some ⟨.outOfRange, .ofNat (start.toNat + i)⟩
    | some permissions =>
      if permissions.contains needed then none else some ⟨.protection, .ofNat (start.toNat + i)⟩
  else some ⟨.outOfRange, start⟩

/-- Byte `i` is the first of a range that cannot be accessed, because of `fault`. -/
structure FirstFault (memory : PagedMemory) (needed : Permissions) (start : UInt32) (count : Nat)
    (i : Nat) (fault : Fault) : Prop where
  inside : i < count
  earlier : memory.Permits needed start.toNat i
  cause : memory.faultAt? needed start i = some fault

section

variable {memory : PagedMemory} {needed : Permissions} {start : UInt32} {i count : Nat}
  {fault : Fault}

lemma faultAt?_eq_none_iff :
    memory.faultAt? needed start i = none ↔
      start.toNat + i < 0x100000000 ∧ memory.allows needed (start.toNat + i) = true := by
  unfold faultAt? allows
  split_ifs with hlt
  · cases memory.permissions? (.ofNat ((start.toNat + i) / pageSize)) with
    | none => simp
    | some permissions =>
      cases hneeded : permissions.contains needed <;> simp [hneeded, hlt]
  · simp [hlt]

/-- A range that may not be accessed as a whole has a first byte that cannot be. -/
lemma exists_firstFault (h : ¬ memory.Permits needed start.toNat count) :
    ∃ i fault, memory.FirstFault needed start count i fault := by
  have hsome : ∃ i, i < count ∧ memory.faultAt? needed start i ≠ none := by
    by_contra hnone
    apply h
    intro i hi
    rw [← faultAt?_eq_none_iff]
    by_contra hfault
    exact hnone ⟨i, hi, hfault⟩
  obtain ⟨hinside, hne⟩ := Nat.find_spec hsome
  obtain ⟨fault, hfault⟩ := Option.ne_none_iff_exists'.mp hne
  refine ⟨Nat.find hsome, fault, hinside, ?_, hfault⟩
  intro j hj
  rw [← faultAt?_eq_none_iff]
  by_contra hearlier
  exact Nat.find_min hsome hj ⟨by omega, hearlier⟩

/-- A byte that has no address, or a page that does not permit the access, is the first that cannot
be accessed if all bytes before it can be. -/
lemma firstFault_of_stopped (hinside : i < count) (hearlier : memory.Permits needed start.toNat i)
    (hstopped : 0x100000000 ≤ start.toNat + i ∨
      memory.allows needed (start.toNat + i) = false) :
    ∃ fault, memory.FirstFault needed start count i fault := by
  have hfault : memory.faultAt? needed start i ≠ none := by
    rw [Ne, faultAt?_eq_none_iff]
    rintro ⟨hlt, hallows⟩
    obtain hend | hforbidden := hstopped
    · omega
    · rw [hforbidden] at hallows
      cases hallows
  obtain ⟨fault, hcause⟩ := Option.ne_none_iff_exists'.mp hfault
  exact ⟨fault, hinside, hearlier, hcause⟩

/-- The check of a byte of the range fails with its fault. -/
lemma check_of_faultAt? {here : UInt32} (hhere : here.toNat = start.toNat + i)
    (h : memory.faultAt? needed start i = some fault) :
    memory.check here needed = .error fault := by
  have hlt := here.toNat_lt
  have haddr : UInt32.ofNat here.toNat = here := UInt32.ofNat_toNat
  rw [faultAt?, ← hhere, if_pos hlt, permissions?_pageOf, haddr] at h
  unfold check
  cases hpage : memory.mapped? (pageOf here) with
  | none =>
    rw [hpage] at h
    exact congrArg Except.error (Option.some.inj h)
  | some mapped =>
    rw [hpage] at h
    simp only [Option.map_some] at h
    dsimp only
    split_ifs at h ⊢ with hneeded
    exact congrArg Except.error (Option.some.inj h)

lemma addressAt_of_faultAt? (hend : 0x100000000 ≤ start.toNat + i)
    (h : memory.faultAt? needed start i = some fault) : addressAt start i = .error fault := by
  rw [faultAt?, if_neg (Nat.not_lt.mpr hend)] at h
  rw [addressAt, if_neg (Nat.not_lt.mpr hend)]
  exact congrArg Except.error (Option.some.inj h)

end

/-- Reading gets as far as the bytes before the fault. The induction is on their number. -/
lemma copyInFrom_fault (memory : PagedMemory) (start : UInt32) (copied : Bytes) (i k count : Nat)
    {fault : Fault} (hinside : k < count)
    (hearlier : memory.Permits .readOnly (start.toNat + i) k)
    (hcause : memory.faultAt? .readOnly start (i + k) = some fault) :
    GuestMemory.copyInFrom start copied i count memory = .error fault memory := by
  induction k generalizing copied i count with
  | zero =>
    obtain ⟨count, rfl⟩ := Nat.exists_eq_add_one_of_ne_zero (Nat.ne_of_gt hinside)
    rw [Nat.add_zero] at hcause
    simp only [GuestMemory.copyInFrom]
    by_cases hlt : start.toNat + i < 0x100000000
    · obtain ⟨here, haddr, hhere⟩ := addressAt_of_lt hlt
      have hcheck := check_of_faultAt? hhere hcause
      simp only [haddr, bind, EStateM.bind, GuestMemory.readByte, readByte, hcheck, Except.map]
    · have haddr := addressAt_of_faultAt? (Nat.not_lt.mp hlt) hcause
      rw [haddr]
      rfl
  | succ k ih =>
    obtain ⟨count, rfl⟩ := Nat.exists_eq_add_one_of_ne_zero (by omega : count ≠ 0)
    obtain ⟨⟨hlt, hallows⟩, hrest⟩ := (memory.permits_succ_iff _ _ _).mp hearlier
    obtain ⟨here, haddr, hhere⟩ := addressAt_of_lt hlt
    rw [← hhere] at hallows
    obtain ⟨mapped, hcheck⟩ := (memory.check_ok_iff here .readOnly).mpr hallows
    simp only [GuestMemory.copyInFrom, haddr, bind, EStateM.bind, GuestMemory.readByte, readByte,
      hcheck, Except.map]
    apply ih
    · omega
    · rwa [← Nat.add_assoc]
    · rwa [show i + 1 + k = i + (k + 1) by omega]

/-- A payload that cannot be read as a whole is reported with the fault of its first such byte. -/
lemma FirstFault.copyIn {memory : PagedMemory} {addr len : UInt32} {i : Nat} {fault : Fault}
    (h : memory.FirstFault .readOnly addr len.toNat i fault) :
    GuestMemory.copyIn addr len memory = .error fault memory := by
  have hcause := h.cause
  rw [← Nat.zero_add i] at hcause
  exact copyInFrom_fault memory addr [] 0 i len.toNat h.inside h.earlier hcause

/-- The first byte lies in the address space or right behind it, since those before it have
addresses. -/
lemma FirstFault.le_end {memory : PagedMemory} {needed : Permissions} {start : UInt32}
    {count i : Nat} {fault : Fault} (h : memory.FirstFault needed start count i fault) :
    start.toNat + i ≤ 0x100000000 := by
  have hstart := start.toNat_lt
  cases i with
  | zero => omega
  | succ i =>
    obtain ⟨hlt, _⟩ := h.earlier i (Nat.lt_succ_self i)
    omega

end PagedMemory

/-! ## Requests that cannot be read -/

namespace Gate

variable {σ μ : Type} [Service σ] [GuestMemory μ]

/-- Ticks in a row that nobody interferes with, with what each comes to. -/
def tickTimes (gate : Gate σ) (memory : μ) : Nat → Except Abort (List (Ticked σ μ))
  | 0 => .ok []
  | n + 1 => do
    let ticked ← gate.tick memory
    let later ← ticked.gate.tickTimes ticked.memory n
    return ticked :: later

/-- A request that faults is left before it is looked at. -/
lemma tick_of_copyIn_error {gate : Gate σ} {memory read : μ} {fault : Fault}
    (hpending : gate.request.control ≠ 0)
    (hcopy : GuestMemory.copyIn gate.request.requestAddr gate.request.requestLen memory =
      .error fault read) : gate.tick memory = .ok ⟨gate, read, .error fault, []⟩ := by
  obtain ⟨dispatched, heq, hdispatch⟩ := gate.dispatch_spec memory
  unfold tick tickAmid
  rw [heq, ok_bind]
  cases hdispatch with
  | idle hidle => exact absurd hidle hpending
  | faulted _ fault' read' hcopy' =>
    cases hcopy.symm.trans hcopy'
    rfl
  | called _ _ _ hcopy' => cases hcopy.symm.trans hcopy'
  | waiting _ _ _ _ hcopy' => cases hcopy.symm.trans hcopy'
  | polled _ _ _ _ hcopy' => cases hcopy.symm.trans hcopy'
  | refused _ _ _ _ _ hcopy' => cases hcopy.symm.trans hcopy'

/-- A tick that comes to the state it began with is repeated for ever. -/
lemma tickTimes_of_fixed {gate : Gate σ} {memory : μ} {result : Except Fault Outcome}
    {events : List Event} (h : gate.tick memory = .ok ⟨gate, memory, result, events⟩) (n : Nat) :
    gate.tickTimes memory n = .ok (List.replicate n ⟨gate, memory, result, events⟩) := by
  induction n with
  | zero => rfl
  | succ n ih =>
    rw [tickTimes, h, ok_bind, ih]
    rfl

end Gate

/-- A pending request of any kind with a byte that cannot be read ends in the fault of the first
such byte. Registers, messages, services and memory are as before, and so is every further tick. -/
theorem unreadable_request_changes_nothing {σ : Type} [Service σ] (gate : Gate σ)
    (memory : PagedMemory) {request : Request}
    (hread : gate.readRegisters Request.read = .ok request) (hpending : request.control ≠ 0)
    {i : Nat} (hinside : i < request.requestLen.toNat)
    (hunreadable : 0x100000000 ≤ request.requestAddr.toNat + i ∨
      memory.allows .readOnly (request.requestAddr.toNat + i) = false) :
    ∃ first fault,
      memory.FirstFault .readOnly request.requestAddr request.requestLen.toNat first fault ∧
      first ≤ i ∧ request.requestAddr.toNat + first ≤ 0x100000000 ∧
      gate.tick memory = .ok ⟨gate, memory, .error fault, []⟩ ∧
      ∀ n, gate.tickTimes memory n = .ok (List.replicate n ⟨gate, memory, .error fault, []⟩) := by
  rw [gate.readRegisters_request] at hread
  cases hread
  have hrefused : ¬ memory.Permits .readOnly gate.request.requestAddr.toNat (i + 1) := by
    intro hpermits
    obtain ⟨hlt, hallows⟩ := hpermits i (Nat.lt_succ_self i)
    obtain hend | hforbidden := hunreadable
    · omega
    · rw [hforbidden] at hallows
      cases hallows
  obtain ⟨first, fault, hfirst⟩ := PagedMemory.exists_firstFault hrefused
  have hle : first ≤ i := Nat.le_of_lt_succ hfirst.inside
  have hfirst : memory.FirstFault .readOnly gate.request.requestAddr
      gate.request.requestLen.toNat first fault :=
    { hfirst with inside := Nat.lt_of_le_of_lt hle hinside }
  have htick := Gate.tick_of_copyIn_error hpending hfirst.copyIn
  exact ⟨first, fault, hfirst, hle, hfirst.le_end, htick, Gate.tickTimes_of_fixed htick⟩

/-- A poll with a message in the queue, whose request has two bytes on the first page and two on the
second. -/
def Gate.strayPoll (gate : Gate Stock) : Except Abort (Gate Stock) :=
  (gate.perform (.send ⟨⟨41, by decide⟩⟩ [7] fun _ => .done ())).value.2.writeRegisters
    (Request.write ⟨1, 0, 0x0ffe, 4, 0, 16⟩)

/-- The second page can be written only. The poll is refused there, as often as it is tried, and the
message stays in the queue. -/
theorem strayPoll_changes_nothing :
    ∃ gate memory, (Gate.new {} >>= Gate.strayPoll) = .ok gate ∧
      (PagedMemory.new 2 >>= fun memory => memory.map 1 .writeOnly) = .ok memory ∧
      gate.pending = 1 ∧
      gate.tick memory = .ok ⟨gate, memory, .error ⟨.protection, 0x1000⟩, []⟩ ∧
      gate.tickTimes memory 3 =
        .ok (List.replicate 3 ⟨gate, memory, .error ⟨.protection, 0x1000⟩, []⟩) := by
  have hseen : (do
      let gate ← Gate.new {} >>= Gate.strayPoll
      let memory ← PagedMemory.new 2 >>= fun memory => memory.map 1 .writeOnly
      return ((← gate.readRegisters Request.read, gate.pending),
        (List.range 3).map (memory.faultAt? .readOnly 0x0ffe),
        memory.allows .readOnly (0x0ffe + 2))) =
      .ok ((⟨1, 0, 0x0ffe, 4, 0, 16⟩, 1), [none, none, some ⟨.protection, 0x1000⟩], false) := by
    decide +kernel
  obtain ⟨gate, hgate, hseen⟩ := exists_of_bind_ok hseen
  obtain ⟨memory, hmemory, hseen⟩ := exists_of_bind_ok hseen
  obtain ⟨request, hrequest, hseen⟩ := exists_of_bind_ok hseen
  simp only [pure, Except.pure, Except.ok.injEq, Prod.mk.injEq, List.range_succ, List.range_zero,
    List.nil_append, List.cons_append, List.map_cons, List.map_nil, List.cons.injEq] at hseen
  obtain ⟨⟨rfl, hpending⟩, ⟨hzero, hone, htwo, _⟩, hforbidden⟩ := hseen
  obtain ⟨first, fault, hfirst, hle, _, htick, htimes⟩ :=
    unreadable_request_changes_nothing gate memory hrequest (by decide) (i := 2) (by decide)
      (.inr hforbidden)
  have hcause := hfirst.cause
  obtain rfl | rfl | rfl : first = 0 ∨ first = 1 ∨ first = 2 := by omega
  · cases hzero.symm.trans hcause
  · cases hone.symm.trans hcause
  · cases htwo.symm.trans hcause
    exact ⟨gate, memory, hgate, hmemory, hpending, htick, htimes 3⟩

end HostCalls
