import HostCalls.Proofs.PagedContent

/-!
# Permitted accesses

Whether a range of guest memory can be read or written is a matter of its place and of the
permissions of its pages, never of what it holds. A payload is copied exactly if every byte of its
range lies below the end of the address space and on a page that permits the access; and what is
copied in are the bytes of the range, in order.
-/
namespace HostCalls.PagedMemory

/-- Whether the page of an address is mapped with the permissions that an access needs. -/
def allows (memory : PagedMemory) (needed : Permissions) (addr : Nat) : Bool :=
  (memory.permissions? (.ofNat (addr / pageSize))).any (·.contains needed)

/-- Every byte of a range has an address, on a page that permits the access. -/
def Permits (memory : PagedMemory) (needed : Permissions) (addr count : Nat) : Prop :=
  ∀ i < count, addr + i < 0x100000000 ∧ memory.allows needed (addr + i) = true

instance (memory : PagedMemory) (needed : Permissions) (addr count : Nat) :
    Decidable (memory.Permits needed addr count) := by
  unfold Permits
  infer_instance

/-- The bytes of a range; those of unmapped pages count as zero. -/
def contents (memory : PagedMemory) (addr count : Nat) : Bytes :=
  (List.range count).map fun i => (memory.peek? (addr + i)).getD 0

lemma permits_zero (memory : PagedMemory) (needed : Permissions) (addr : Nat) :
    memory.Permits needed addr 0 := by
  intro i hi
  omega

lemma permits_succ_iff (memory : PagedMemory) (needed : Permissions) (addr count : Nat) :
    memory.Permits needed addr (count + 1) ↔
      (addr < 0x100000000 ∧ memory.allows needed addr = true) ∧
        memory.Permits needed (addr + 1) count := by
  constructor
  · intro h
    refine ⟨h 0 (by omega), ?_⟩
    intro i hi
    rw [show addr + 1 + i = addr + (i + 1) by omega]
    exact h (i + 1) (by omega)
  · rintro ⟨hfirst, hrest⟩ i hi
    cases i with
    | zero => exact hfirst
    | succ i =>
      rw [show addr + (i + 1) = addr + 1 + i by omega]
      exact hrest i (by omega)

/-- Only the permissions decide about accesses. -/
lemma permits_congr {memory other : PagedMemory}
    (h : ∀ index, other.permissions? index = memory.permissions? index) (needed : Permissions)
    (addr count : Nat) : other.Permits needed addr count ↔ memory.Permits needed addr count := by
  simp only [Permits, allows, h]

lemma permissions?_pageOf (memory : PagedMemory) (addr : UInt32) :
    memory.permissions? (.ofNat (addr.toNat / pageSize)) =
      (memory.mapped? (pageOf addr)).map (·.permissions) := by
  have haddr := addr.toNat_lt
  have hle := Nat.div_le_self addr.toNat pageSize
  have hindex : (UInt64.ofNat (addr.toNat / pageSize)).toNat = addr.toNat / pageSize := by
    rw [UInt64.toNat_ofNat', Nat.mod_eq_of_lt (by omega)]
  rw [permissions?, hindex]
  rfl

/-- The check of a single access. -/
lemma check_ok_iff (memory : PagedMemory) (addr : UInt32) (needed : Permissions) :
    (∃ mapped, memory.check addr needed = .ok mapped) ↔ memory.allows needed addr.toNat = true := by
  rw [allows, permissions?_pageOf, check]
  cases memory.mapped? (pageOf addr) with
  | none => simp
  | some mapped =>
    cases hneeded : mapped.permissions.contains needed with
    | false => simp [hneeded]
    | true => simp [hneeded]

/-- Memories with the same permissions check alike, down to the fault. -/
lemma check_congr {memory other : PagedMemory}
    (h : ∀ index, other.permissions? index = memory.permissions? index) (addr : UInt32)
    (needed : Permissions) :
    (∃ fault, memory.check addr needed = .error fault ∧ other.check addr needed = .error fault) ∨
      ∃ mapped mapped', memory.check addr needed = .ok mapped ∧
        other.check addr needed = .ok mapped' := by
  have hpage := h (.ofNat (addr.toNat / pageSize))
  rw [permissions?_pageOf, permissions?_pageOf] at hpage
  unfold check
  cases hmemory : memory.mapped? (pageOf addr) with
  | none =>
    rw [hmemory, Option.map_none, Option.map_eq_none_iff] at hpage
    simp [hpage]
  | some mapped =>
    rw [hmemory, Option.map_some, Option.map_eq_some_iff] at hpage
    obtain ⟨mapped', hother, hpermissions⟩ := hpage
    cases hneeded : mapped.permissions.contains needed with
    | false => simp [hother, hpermissions, hneeded]
    | true => simp [hother, hpermissions, hneeded]

lemma addressAt_of_lt {addr : UInt32} {i : Nat} (h : addr.toNat + i < 0x100000000) :
    ∃ here, addressAt addr i = .ok here ∧ here.toNat = addr.toNat + i := by
  have hok : addressAt addr i = .ok (addr + .ofNat i) := if_pos h
  exact ⟨_, hok, addressAt_ok hok⟩

lemma lt_of_addressAt {addr here : UInt32} {i : Nat} (h : addressAt addr i = .ok here) :
    addr.toNat + i < 0x100000000 := by
  unfold addressAt at h
  split_ifs at h with hlt
  exact hlt

/-! ## Copying out -/

lemma copyOutFrom_ok_iff (addr : UInt32) (i : Nat) (data : Bytes) (memory : PagedMemory) :
    (∃ written, GuestMemory.copyOutFrom addr i data memory = .ok () written) ↔
      memory.Permits .writeOnly (addr.toNat + i) data.length := by
  induction data generalizing i memory with
  | nil => exact ⟨fun _ => memory.permits_zero _ _, fun _ => ⟨memory, rfl⟩⟩
  | cons b rest ih =>
    rw [List.length_cons, permits_succ_iff, GuestMemory.copyOutFrom]
    cases haddr : addressAt addr i with
    | error fault =>
      constructor
      · rintro ⟨written, hwritten⟩
        cases hwritten
      · rintro ⟨⟨hlt, _⟩, _⟩
        obtain ⟨here, hhere, _⟩ := addressAt_of_lt hlt
        cases haddr.symm.trans hhere
    | ok here =>
      have hhere := addressAt_ok haddr
      have hlt := lt_of_addressAt haddr
      have hallows := memory.check_ok_iff here .writeOnly
      rw [hhere] at hallows
      simp only [bind, EStateM.bind, GuestMemory.writeByte, writeByte]
      cases hcheck : memory.check here .writeOnly with
      | error fault =>
        rw [hcheck] at hallows
        simp [← hallows]
      | ok mapped =>
        -- storing a byte changes no permission, so the rest is permitted before and after it
        have hrest := ih (i + 1) (memory.store here b)
        rw [permits_congr (memory.permissions?_store here b), ← Nat.add_assoc] at hrest
        rw [hcheck] at hallows
        simp only [← hallows, hlt, hrest]
        simp

/-- A payload is copied out exactly if its whole range may be written. -/
lemma copyOut_ok_iff (addr : UInt32) (data : Bytes) (memory : PagedMemory) :
    (∃ written, GuestMemory.copyOut addr data memory = .ok () written) ↔
      memory.Permits .writeOnly addr.toNat data.length :=
  copyOutFrom_ok_iff addr 0 data memory

/-! ## Copying in -/

lemma contents_succ (memory : PagedMemory) (addr count : Nat) :
    memory.contents addr (count + 1) =
      (memory.peek? addr).getD 0 :: memory.contents (addr + 1) count := by
  simp only [contents, List.range_succ_eq_map, List.map_cons, List.map_map, Nat.add_zero]
  congr 1
  apply List.map_congr_left
  intro i _
  simp only [Function.comp_apply]
  rw [show addr + (i + 1) = addr + 1 + i by omega]

lemma peek?_of_check {memory : PagedMemory} {addr : UInt32} {needed : Permissions}
    {mapped : MappedPage} (h : memory.check addr needed = .ok mapped) :
    memory.peek? addr.toNat = some (mapped.page.get (indexOf addr)) := by
  have hmapped := mapped_of_check h
  have hpage : addr.toNat / pageSize = pageOf addr := rfl
  simp only [peek?, hpage, hmapped, Option.map_some]
  rfl

/-- On a range that may be accessed at all, no byte is missing. -/
lemma map_some_contents {memory : PagedMemory} {needed : Permissions} {addr count : Nat}
    (h : memory.Permits needed addr count) :
    (memory.contents addr count).map some = memory.peekRange addr count := by
  simp only [contents, peekRange, List.map_map]
  apply List.map_congr_left
  intro i hi
  obtain ⟨hlt, hallows⟩ := h i (List.mem_range.mp hi)
  have haddr : (UInt32.ofNat (addr + i)).toNat = addr + i := by
    rw [UInt32.toNat_ofNat', Nat.mod_eq_of_lt hlt]
  rw [← haddr] at hallows
  obtain ⟨mapped, hcheck⟩ := (memory.check_ok_iff _ needed).mpr hallows
  have hpeek := peek?_of_check hcheck
  rw [haddr] at hpeek
  simp only [Function.comp_apply, hpeek, Option.getD_some]

/-- A copy that ends well has read the whole range; one that faults was not permitted. -/
lemma copyInFrom_spec (addr : UInt32) (copied : Bytes) (i count : Nat) (memory : PagedMemory) :
    match GuestMemory.copyInFrom addr copied i count memory with
    | .ok payload _ => memory.Permits .readOnly (addr.toNat + i) count ∧
        payload = copied.reverse ++ memory.contents (addr.toNat + i) count
    | .error _ _ => ¬ memory.Permits .readOnly (addr.toNat + i) count := by
  induction count generalizing copied i with
  | zero =>
    refine ⟨memory.permits_zero _ _, ?_⟩
    simp [contents]
  | succ count ih =>
    rw [permits_succ_iff, contents_succ]
    simp only [GuestMemory.copyInFrom]
    cases haddr : addressAt addr i with
    | error fault =>
      rintro ⟨⟨hlt, _⟩, _⟩
      obtain ⟨here, hhere, _⟩ := addressAt_of_lt hlt
      cases haddr.symm.trans hhere
    | ok here =>
      have hhere := addressAt_ok haddr
      have hlt := lt_of_addressAt haddr
      have hallows := memory.check_ok_iff here .readOnly
      rw [hhere] at hallows
      simp only [bind, EStateM.bind, GuestMemory.readByte, readByte]
      cases hcheck : memory.check here .readOnly with
      | error fault =>
        rw [hcheck] at hallows
        rintro ⟨⟨_, hallowed⟩, _⟩
        obtain ⟨mapped, hmapped⟩ := hallows.mpr hallowed
        cases hmapped
      | ok mapped =>
        have hpeek := peek?_of_check hcheck
        have hrest := ih (mapped.page.get (indexOf here) :: copied) (i + 1)
        rw [hcheck] at hallows
        rw [hhere] at hpeek
        simp only [Except.map, hpeek, Option.getD_some, hallows.mp ⟨mapped, rfl⟩, hlt, true_and,
          Nat.add_assoc]
        simp only [List.reverse_cons, List.append_assoc, List.singleton_append] at hrest
        exact hrest

lemma copyIn_of_permits {addr len : UInt32} {memory : PagedMemory}
    (h : memory.Permits .readOnly addr.toNat len.toNat) :
    GuestMemory.copyIn addr len memory = .ok (memory.contents addr.toNat len.toNat) memory := by
  have hspec := copyInFrom_spec addr [] 0 len.toNat memory
  cases hcopy : GuestMemory.copyIn addr len memory with
  | error fault read =>
    unfold GuestMemory.copyIn at hcopy
    rw [hcopy] at hspec
    exact absurd h hspec
  | ok payload read =>
    have hread := copyIn_ok hcopy
    unfold GuestMemory.copyIn at hcopy
    rw [hcopy] at hspec
    obtain ⟨_, hpayload⟩ := hspec
    rw [hread, hpayload]
    rfl

lemma permits_of_copyIn {addr len : UInt32} {memory read : PagedMemory} {payload : Bytes}
    (h : GuestMemory.copyIn addr len memory = .ok payload read) :
    memory.Permits .readOnly addr.toNat len.toNat := by
  have hspec := copyInFrom_spec addr [] 0 len.toNat memory
  unfold GuestMemory.copyIn at h
  rw [h] at hspec
  exact hspec.1

end HostCalls.PagedMemory
