import HostCalls.Proofs.FirstFault
import HostCalls.Proofs.MemoryHistory

/-!
# How far a write gets

A write stores its bytes in ascending order and ends with the first one that may not be stored. What
it leaves is the memory with the bytes before that one replaced, and this describes a single memory,
since a memory is nothing but its permissions and its bytes. Why the byte may not be stored is known
from the permissions before the write: a store changes none of them. A write can only reach the
end of the address space where the last page is mapped, hence in no memory but the largest.
-/
namespace HostCalls.PagedMemory

/-! ## A memory is its permissions and its bytes -/

lemma getElem?_of_lt (memory : PagedMemory) {page : Nat} (h : page < memory.npages) :
    memory.pages[page]? = some (memory.mapped? page) := by
  have hslot : memory.pages[page]? = some memory.pages[page] := Array.getElem?_eq_getElem h
  rw [mapped?, hslot, Option.join_some]

lemma ext_mapped? {memory other : PagedMemory} (hnpages : memory.npages = other.npages)
    (h : ∀ page, memory.mapped? page = other.mapped? page) : memory = other := by
  have hpages : memory.pages = other.pages := by
    apply Array.ext_getElem?
    intro page
    by_cases hin : page < memory.npages
    · rw [memory.getElem?_of_lt hin, other.getElem?_of_lt (hnpages ▸ hin), h page]
    · have hout : memory.npages ≤ page := Nat.not_lt.mp hin
      have hout' : other.npages ≤ page := hnpages ▸ hout
      rw [Array.getElem?_eq_none hout, Array.getElem?_eq_none hout']
  cases memory
  cases other
  congr

/-- The byte with index `i` of a page. -/
lemma peek?_index (memory : PagedMemory) (page : Nat) (i : Fin pageSize) :
    memory.peek? (page * pageSize + i.val) = (memory.mapped? page).map (·.page.get i) := by
  have hlt : i.val < 4096 := i.isLt
  have hdiv : (page * 4096 + i.val) / 4096 = page := by omega
  have hmod : (page * 4096 + i.val) % 4096 = i.val := by omega
  simp only [peek?, pageSize, hdiv, hmod]

/-- Memories with as many pages, the same permissions and the same bytes are the same. -/
lemma ext_content {memory other : PagedMemory} (hnpages : memory.npages = other.npages)
    (hpermissions : ∀ index, memory.permissions? index = other.permissions? index)
    (hbytes : ∀ addr, memory.peek? addr = other.peek? addr) : memory = other := by
  apply ext_mapped? hnpages
  intro page
  by_cases hin : page < memory.npages
  · have hlimit : memory.npages * 4096 ≤ 0x100000000 := memory.addressable
    have hindex : (UInt64.ofNat page).toNat = page := by
      rw [UInt64.toNat_ofNat', Nat.mod_eq_of_lt (by omega)]
    have hsame := hpermissions (.ofNat page)
    simp only [permissions?, hindex] at hsame
    have hcontent (i : Fin pageSize) := hbytes (page * pageSize + i.val)
    simp only [peek?_index] at hcontent
    cases hmapped : memory.mapped? page with
    | none =>
      rw [hmapped, Option.map_none, eq_comm, Option.map_eq_none_iff] at hsame
      exact hsame.symm
    | some mapped =>
      rw [hmapped, Option.map_some, eq_comm, Option.map_eq_some_iff] at hsame
      obtain ⟨mapped', hmapped', hsame⟩ := hsame
      simp only [hmapped, hmapped', Option.map_some, Option.some.injEq] at hcontent
      obtain ⟨permissions, content⟩ := mapped
      obtain ⟨permissions', content'⟩ := mapped'
      obtain rfl : permissions' = permissions := hsame
      obtain rfl : content = content' := Page.ext_get hcontent
      exact hmapped'.symm
  · rw [memory.mapped?_of_ge (Nat.not_lt.mp hin), other.mapped?_of_ge (by omega)]

/-- There is one memory with the bytes of a stretch replaced. -/
lemma Patched.unique {before after other : PagedMemory} {start : Nat} {data : Bytes}
    (h : before.Patched start data after) (h' : before.Patched start data other) :
    other = after := by
  refine ext_content (h'.npages.trans h.npages.symm)
    (fun index => (h'.permissions index).trans (h.permissions index).symm) ?_
  intro addr
  by_cases hout : addr < start ∨ start + data.length ≤ addr
  · rw [h'.outside addr hout, h.outside addr hout]
  · have hi : addr - start < data.length := by omega
    have haddr : start + (addr - start) = addr := by omega
    rw [← haddr, h'.inside _ hi, h.inside _ hi]

/-! ## Writes that are stopped -/

/-- Only the permissions decide about faults. -/
lemma faultAt?_congr {memory other : PagedMemory}
    (h : ∀ index, other.permissions? index = memory.permissions? index) (needed : Permissions)
    (start : UInt32) (i : Nat) :
    other.faultAt? needed start i = memory.faultAt? needed start i := by
  simp only [faultAt?, h]

/-- Writing gets as far as the bytes before the fault, and leaves them written. The induction is on
their number. -/
lemma copyOutFrom_fault (memory : PagedMemory) (start : UInt32) (i k : Nat) (data : Bytes)
    {fault : Fault} (hinside : k < data.length)
    (hearlier : memory.Permits .writeOnly (start.toNat + i) k)
    (hcause : memory.faultAt? .writeOnly start (i + k) = some fault) :
    ∃ after, GuestMemory.copyOutFrom start i data memory = .error fault after ∧
      memory.Patched (start.toNat + i) (data.take k) after := by
  induction k generalizing memory i data with
  | zero =>
    obtain ⟨b, rest, rfl⟩ := List.exists_cons_of_length_pos hinside
    refine ⟨memory, ?_, .refl memory _⟩
    rw [Nat.add_zero] at hcause
    simp only [GuestMemory.copyOutFrom]
    by_cases hlt : start.toNat + i < 0x100000000
    · obtain ⟨here, haddr, hhere⟩ := addressAt_of_lt hlt
      have hcheck := check_of_faultAt? hhere hcause
      simp only [haddr, bind, EStateM.bind, GuestMemory.writeByte, writeByte, hcheck]
    · have haddr := addressAt_of_faultAt? (Nat.not_lt.mp hlt) hcause
      rw [haddr]
      rfl
  | succ k ih =>
    obtain ⟨b, rest, rfl⟩ := List.exists_cons_of_length_pos (by omega : 0 < data.length)
    obtain ⟨⟨hlt, hallows⟩, hrest⟩ := (memory.permits_succ_iff _ _ _).mp hearlier
    obtain ⟨here, haddr, hhere⟩ := addressAt_of_lt hlt
    rw [← hhere] at hallows
    obtain ⟨mapped, hcheck⟩ := (memory.check_ok_iff here .writeOnly).mpr hallows
    -- the first byte is stored, and the permissions for the rest are those from before
    have hkept := memory.permissions?_store here b
    obtain ⟨after, hcopy, hpatched⟩ := ih (memory.store here b) (i + 1) rest
      (by simpa using hinside)
      (by rwa [permits_congr hkept, ← Nat.add_assoc])
      (by rwa [faultAt?_congr hkept, show i + 1 + k = i + (k + 1) by omega])
    refine ⟨after, ?_, ?_⟩
    · simp only [GuestMemory.copyOutFrom, haddr, bind, EStateM.bind, GuestMemory.writeByte,
        writeByte, hcheck]
      exact hcopy
    · rw [← Nat.add_assoc, ← hhere] at hpatched
      rw [← hhere, List.take_succ_cons]
      exact .cons (mapped_of_check hcheck) hpatched

namespace FirstFault

variable {memory : PagedMemory} {needed : Permissions} {start : UInt32} {count i : Nat}
  {fault : Fault}

/-- A payload that cannot be written as a whole is written up to its first such byte, and reported
with the fault of that byte. -/
lemma copyOut {data : Bytes} (h : memory.FirstFault .writeOnly start data.length i fault) :
    ∃ after, GuestMemory.copyOut start data memory = .error fault after ∧
      memory.Patched start.toNat (data.take i) after := by
  have hcause := h.cause
  rw [← Nat.zero_add i] at hcause
  exact copyOutFrom_fault memory start 0 i data h.inside h.earlier hcause

/-- A fault inside of the address space is at the address of the byte, and its kind tells whether
the page is mapped. -/
lemma fault_of_lt (h : memory.FirstFault needed start count i fault)
    (hlt : start.toNat + i < 0x100000000) :
    fault.addr.toNat = start.toNat + i ∧
    (memory.permissions? (.ofNat ((start.toNat + i) / pageSize)) = none →
      fault.kind = .outOfRange) ∧
    ∀ permissions, memory.permissions? (.ofNat ((start.toNat + i) / pageSize)) = some permissions →
      fault.kind = .protection := by
  have hcause := h.cause
  have haddr : (UInt32.ofNat (start.toNat + i)).toNat = start.toNat + i := by
    rw [UInt32.toNat_ofNat', Nat.mod_eq_of_lt hlt]
  rw [faultAt?, if_pos hlt] at hcause
  cases hpage : memory.permissions? (.ofNat ((start.toNat + i) / pageSize)) with
  | none =>
    rw [hpage] at hcause
    cases hcause
    exact ⟨haddr, fun _ => rfl, fun _ hmapped => (by cases hmapped)⟩
  | some permissions =>
    simp only [hpage] at hcause
    split_ifs at hcause
    cases hcause
    exact ⟨haddr, fun hunmapped => (by cases hunmapped), fun _ _ => rfl⟩

/-- A fault at the end of the address space is reported at the start of the range. -/
lemma fault_of_end (h : memory.FirstFault needed start count i fault)
    (hend : start.toNat + i = 0x100000000) : fault = ⟨.outOfRange, start⟩ := by
  have hcause := h.cause
  rw [faultAt?, if_neg (by omega)] at hcause
  exact (Option.some.inj hcause).symm

/-- Only in the largest memory there is a byte right before the end of the address space. -/
lemma npages_of_end (h : memory.FirstFault needed start count i fault)
    (hend : start.toNat + i = 0x100000000) : memory.npages = 0x100000 := by
  have hstart := start.toNat_lt
  have hlimit : memory.npages * 4096 ≤ 0x100000000 := memory.addressable
  obtain ⟨_, hallows⟩ := h.earlier (i - 1) (by omega)
  have hlast : (start.toNat + (i - 1)) / pageSize = 0xfffff := by
    show (start.toNat + (i - 1)) / 4096 = 0xfffff
    omega
  rw [allows, hlast, permissions?] at hallows
  by_contra hsmaller
  have habsent : memory.mapped? (UInt64.ofNat 0xfffff).toNat = none :=
    memory.mapped?_of_ge (show memory.npages ≤ 0xfffff by omega)
  rw [habsent] at hallows
  cases hallows

end FirstFault

/-! ## Writes by the host -/

/-- The host writes in the way in which payloads are copied out. -/
lemma writeFrom_eq_copyOutFrom (addr : UInt32) (i : Nat) (data : Bytes) :
    writeFrom addr i data = GuestMemory.copyOutFrom addr i data := by
  induction data generalizing i with
  | nil => rfl
  | cons b rest ih =>
    simp only [writeFrom, GuestMemory.copyOutFrom, ih]
    rfl

lemma writeBytes_eq_copyOut (addr : UInt32) (data : Bytes) :
    writeBytes addr data = GuestMemory.copyOut addr data :=
  writeFrom_eq_copyOutFrom addr 0 data

end HostCalls.PagedMemory

namespace HostCalls

/-- A write of bytes that may all be stored replaces them and nothing else. Otherwise it replaces
those before the first byte that may not be stored, and nothing else, and ends in the fault of that
byte: out of range if its page is not mapped, a protection fault if the page may not be written,
both at the address of the byte, and out of range at the start of the write if the byte lies at the
end of the address space. The last takes a memory of all pages that there can be. -/
theorem write_replaces_up_to_first_fault (memory : PagedMemory) (addr : UInt32) (data : Bytes) :
    (memory.Permits .writeOnly addr.toNat data.length →
      ∃ after, PagedMemory.writeBytes addr data memory = .ok () after ∧
        memory.Patched addr.toNat data after ∧
        ∀ other, memory.Patched addr.toNat data other → other = after) ∧
    ∀ i < data.length, memory.Permits .writeOnly addr.toNat i →
      0x100000000 ≤ addr.toNat + i ∨ memory.allows .writeOnly (addr.toNat + i) = false →
      ∃ fault after, PagedMemory.writeBytes addr data memory = .error fault after ∧
        memory.Patched addr.toNat (data.take i) after ∧
        (∀ other, memory.Patched addr.toNat (data.take i) other → other = after) ∧
        addr.toNat + i ≤ 0x100000000 ∧
        (addr.toNat + i < 0x100000000 →
          fault.addr.toNat = addr.toNat + i ∧
          (memory.permissions? (.ofNat ((addr.toNat + i) / 4096)) = none →
            fault.kind = .outOfRange) ∧
          ∀ permissions, memory.permissions? (.ofNat ((addr.toNat + i) / 4096)) = some permissions →
            permissions.write = false ∧ fault.kind = .protection) ∧
        (addr.toNat + i = 0x100000000 →
          fault = ⟨.outOfRange, addr⟩ ∧ memory.npages = 0x100000) ∧
        (memory.npages < 0x100000 → fault.addr.toNat = addr.toNat + i) := by
  rw [PagedMemory.writeBytes_eq_copyOut]
  constructor
  · intro hpermits
    obtain ⟨after, hwrite⟩ := (PagedMemory.copyOut_ok_iff addr data memory).mpr hpermits
    have hpatched := PagedMemory.copyOut_ok hwrite
    exact ⟨after, hwrite, hpatched, fun _ => hpatched.unique⟩
  · intro i hinside hearlier hstopped
    obtain ⟨fault, hfirst⟩ := PagedMemory.firstFault_of_stopped hinside hearlier hstopped
    obtain ⟨after, hwrite, hpatched⟩ := hfirst.copyOut
    have hle := hfirst.le_end
    refine ⟨fault, after, hwrite, hpatched, fun _ => hpatched.unique, hle, ?_, ?_, ?_⟩
    · intro hlt
      obtain ⟨haddr, hunmapped, hmapped⟩ := hfirst.fault_of_lt hlt
      refine ⟨haddr, hunmapped, ?_⟩
      intro permissions hpermissions
      have hforbidden : memory.allows .writeOnly (addr.toNat + i) = false :=
        hstopped.resolve_left (by omega)
      refine ⟨?_, hmapped permissions hpermissions⟩
      simpa [PagedMemory.allows, pageSize, hpermissions] using hforbidden
    · intro hend
      exact ⟨hfirst.fault_of_end hend, hfirst.npages_of_end hend⟩
    · intro hsmaller
      have hlt : addr.toNat + i < 0x100000000 := by
        have hnot := mt hfirst.npages_of_end (by omega)
        omega
      exact (hfirst.fault_of_lt hlt).1

/-- Two pages, of which the second can only be read. -/
def PagedMemory.readOnlyBehind : Except Abort PagedMemory := do
  (← PagedMemory.new 2).map 1 .readOnly

/-- Three bytes across the end of a page before one that can only be read, and two bytes across the
end of the address space: both times the bytes before the fault are stored. -/
theorem write_replaces_up_to_read_only_page_and_end :
    (∃ memory after, PagedMemory.readOnlyBehind = .ok memory ∧
      PagedMemory.writeBytes 0x0ffe [1, 2, 3] memory = .error ⟨.protection, 0x1000⟩ after ∧
      memory.Patched 0x0ffe [1, 2] after) ∧
    ∃ memory after, PagedMemory.new 0x100000 = .ok memory ∧
      PagedMemory.writeBytes 0xffffffff [1, 2] memory = .error ⟨.outOfRange, 0xffffffff⟩ after ∧
      memory.Patched 0xffffffff [1] after := by
  constructor
  · have hseen : (do
        let memory ← PagedMemory.readOnlyBehind
        return ((decide (memory.Permits .writeOnly 0x0ffe 2), memory.allows .writeOnly 0x1000),
          (memory.npages, memory.permissions? 1))) =
        .ok ((true, false), (2, some .readOnly)) := by decide +kernel
    obtain ⟨memory, hmemory, hseen⟩ := exists_of_bind_ok hseen
    simp only [pure, Except.pure, Except.ok.injEq, Prod.mk.injEq, decide_eq_true_eq] at hseen
    obtain ⟨⟨hpermits, hforbidden⟩, hnpages, hpermissions⟩ := hseen
    obtain ⟨_, hstopped⟩ := write_replaces_up_to_first_fault memory 0x0ffe [1, 2, 3]
    obtain ⟨fault, after, hwrite, hpatched, _, _, hinside, _⟩ :=
      hstopped 2 (by decide) hpermits (.inr hforbidden)
    obtain ⟨haddr, _, hmapped⟩ := hinside (by decide)
    obtain ⟨kind, place⟩ := fault
    obtain rfl : kind = .protection := (hmapped .readOnly hpermissions).2
    obtain rfl : place = 0x1000 := UInt32.toNat_inj.mp haddr
    exact ⟨memory, after, hmemory, hwrite, hpatched⟩
  · obtain ⟨memory, hmemory⟩ := (PagedMemory.new_ok_iff 0x100000).mpr (by decide)
    have hlast : (memory.mapped? 0xfffff).map (·.permissions) = some .all :=
      (MemoryHistory.Describes.start hmemory).permissions 0xfffff
    have hpermits : memory.Permits .writeOnly (0xffffffff : UInt32).toNat 1 := by
      intro i hi
      obtain rfl : i = 0 := by omega
      have hpage : memory.permissions? (.ofNat (0xffffffff / pageSize)) = some .all := hlast
      exact ⟨by decide, by simp [PagedMemory.allows, hpage, Permissions.all]⟩
    obtain ⟨_, hstopped⟩ := write_replaces_up_to_first_fault memory 0xffffffff [1, 2]
    obtain ⟨fault, after, hwrite, hpatched, _, _, _, hend, _⟩ :=
      hstopped 1 (by decide) hpermits (.inl (by decide))
    obtain ⟨rfl, _⟩ := hend rfl
    exact ⟨memory, after, hmemory, hwrite, hpatched⟩

end HostCalls
