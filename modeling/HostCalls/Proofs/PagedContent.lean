import HostCalls.Memory.Paged
import Mathlib.Tactic.Common

/-!
# The content of paged memory

What a memory holds is said by two views: the byte at each address, whatever its page permits,
and the permissions of each page. Copying a payload out replaces a stretch of bytes, all of it
or as much as comes before a fault, and keeps every permission. Copying one in keeps the memory.
-/
namespace HostCalls.PagedMemory

/-- The byte at an address, if its page is mapped. -/
def peek? (memory : PagedMemory) (addr : Nat) : Option UInt8 :=
  (memory.mapped? (addr / pageSize)).map fun mapped =>
    mapped.page.get ⟨addr % pageSize, Nat.mod_lt _ (by decide)⟩

/-- The bytes from an address on. -/
def peekRange (memory : PagedMemory) (addr count : Nat) : List (Option UInt8) :=
  (List.range count).map fun i => memory.peek? (addr + i)

/-- `after` holds `data` from `start` on and is otherwise like `before`. -/
structure Patched (before : PagedMemory) (start : Nat) (data : Bytes) (after : PagedMemory) :
    Prop where
  npages : after.npages = before.npages
  permissions : ∀ index, after.permissions? index = before.permissions? index
  inside : ∀ i (h : i < data.length), after.peek? (start + i) = some data[i]
  outside : ∀ addr, addr < start ∨ start + data.length ≤ addr →
    after.peek? addr = before.peek? addr

lemma mapped?_modifyPage (memory : PagedMemory) {index : Nat} (h : index < memory.npages)
    (f : Option MappedPage → Option MappedPage) (page : Nat) :
    (memory.modifyPage index f).mapped? page =
      if index = page then f (memory.mapped? page) else memory.mapped? page := by
  simp only [mapped?, modifyPage, Array.getElem?_modify]
  split_ifs with hpage
  · subst hpage
    rw [Array.getElem?_eq_getElem h]
    rfl
  · rfl

@[simp] theorem npages_modifyPage (memory : PagedMemory) (index : Nat)
    (f : Option MappedPage → Option MappedPage) :
    (memory.modifyPage index f).npages = memory.npages := by
  simp [npages, modifyPage]

lemma mapped?_store (memory : PagedMemory) (addr : UInt32) (b : UInt8) (index : Nat) :
    (memory.store addr b).mapped? index =
      if pageOf addr = index then
        (memory.mapped? index).map fun mapped =>
          { mapped with page := mapped.page.set (indexOf addr) b }
      else memory.mapped? index := by
  simp only [mapped?, store, modifyPage, Array.getElem?_modify]
  split_ifs with h
  · cases memory.pages[index]? with
    | none => rfl
    | some slot => cases slot <;> rfl
  · rfl

@[simp] theorem npages_store (memory : PagedMemory) (addr : UInt32) (b : UInt8) :
    (memory.store addr b).npages = memory.npages := by
  simp [npages, store, modifyPage]

lemma permissions?_store (memory : PagedMemory) (addr : UInt32) (b : UInt8) (index : UInt64) :
    (memory.store addr b).permissions? index = memory.permissions? index := by
  simp only [permissions?, mapped?_store]
  split_ifs with h
  · simp [Option.map_map, Function.comp_def]
  · rfl

lemma peek?_store_apart (memory : PagedMemory) (addr : UInt32) (b : UInt8) {other : Nat}
    (h : other ≠ addr.toNat) : (memory.store addr b).peek? other = memory.peek? other := by
  simp only [peek?, mapped?_store]
  split_ifs with hpage
  · have hindex : indexOf addr ≠ ⟨other % pageSize, Nat.mod_lt _ (by decide)⟩ := by
      intro hsame
      apply h
      have hmod : addr.toNat % 4096 = other % 4096 := congrArg Fin.val hsame
      have hdiv : addr.toNat / 4096 = other / 4096 := hpage
      omega
    simp [Option.map_map, Function.comp_def, Page.get_set, hindex]
  · rfl

lemma peek?_store (memory : PagedMemory) (addr : UInt32) (b : UInt8) {mapped : MappedPage}
    (hmapped : memory.mapped? (pageOf addr) = some mapped) :
    (memory.store addr b).peek? addr.toNat = some b := by
  have hpage : addr.toNat / pageSize = pageOf addr := rfl
  simp only [peek?, mapped?_store, hpage, if_true, hmapped, Option.map_some, Page.get_set]
  simp [indexOf]

lemma mapped_of_check {memory : PagedMemory} {addr : UInt32} {needed : Permissions}
    {mapped : MappedPage} (h : memory.check addr needed = .ok mapped) :
    memory.mapped? (pageOf addr) = some mapped := by
  unfold check at h
  split at h
  · cases h
  · next found hfound =>
    split_ifs at h
    cases h
    exact hfound

namespace Patched

lemma refl (memory : PagedMemory) (start : Nat) : memory.Patched start [] memory :=
  ⟨rfl, fun _ => rfl, fun i h => absurd h (by simp), fun _ _ => rfl⟩

/-- One byte, then the bytes after it. -/
lemma cons {memory after : PagedMemory} {here : UInt32} {b : UInt8} {rest : Bytes}
    {mapped : MappedPage} (hmapped : memory.mapped? (pageOf here) = some mapped)
    (hrest : (memory.store here b).Patched (here.toNat + 1) rest after) :
    memory.Patched here.toNat (b :: rest) after where
  npages := hrest.npages.trans (npages_store memory here b)
  permissions index := (hrest.permissions index).trans (permissions?_store memory here b index)
  inside i h := by
    cases i with
    | zero =>
      rw [hrest.outside _ (by omega), Nat.add_zero, peek?_store memory here b hmapped]
      rfl
    | succ i =>
      have hnext := hrest.inside i (by simpa using h)
      rw [show here.toNat + (i + 1) = here.toNat + 1 + i by omega, hnext]
      rfl
  outside addr h := by
    simp only [List.length_cons] at h
    rw [hrest.outside addr (by omega), peek?_store_apart memory here b (by omega)]

lemma peekRange {before after : PagedMemory} {start : Nat} {data : Bytes}
    (h : before.Patched start data after) :
    after.peekRange start data.length = data.map some := by
  apply List.ext_getElem (by simp [PagedMemory.peekRange])
  intro i _ hi
  simp only [PagedMemory.peekRange, List.getElem_map, List.getElem_range]
  exact h.inside i (by simpa using hi)

end Patched

/-- A copy that ends well has written everything; one that faults has written what comes before
the fault. -/
lemma copyOutFrom_patched (addr : UInt32) (i : Nat) (data : Bytes) (memory : PagedMemory) :
    match GuestMemory.copyOutFrom addr i data memory with
    | .ok () after => memory.Patched (addr.toNat + i) data after
    | .error _ after =>
      ∃ count < data.length, memory.Patched (addr.toNat + i) (data.take count) after := by
  induction data generalizing i memory with
  | nil => exact .refl memory _
  | cons b rest ih =>
    simp only [GuestMemory.copyOutFrom]
    cases haddr : addressAt addr i with
    | error fault => exact ⟨0, by simp, .refl memory _⟩
    | ok here =>
      have hhere := addressAt_ok haddr
      simp only [bind, EStateM.bind, GuestMemory.writeByte, writeByte]
      cases hcheck : memory.check here .writeOnly with
      | error fault => exact ⟨0, by simp, .refl memory _⟩
      | ok mapped =>
        have hmapped := mapped_of_check hcheck
        have hrest := ih (i + 1) (memory.store here b)
        rw [← Nat.add_assoc, ← hhere] at hrest
        rw [← hhere]
        dsimp only
        split at hrest
        · exact .cons hmapped hrest
        · obtain ⟨count, hcount, hpatched⟩ := hrest
          exact ⟨count + 1, by simpa using hcount, .cons hmapped hpatched⟩

lemma copyOut_ok {addr : UInt32} {data : Bytes} {memory after : PagedMemory}
    (h : GuestMemory.copyOut addr data memory = .ok () after) :
    memory.Patched addr.toNat data after := by
  have hcopy := copyOutFrom_patched addr 0 data memory
  unfold GuestMemory.copyOut at h
  simpa only [h, Nat.add_zero] using hcopy

lemma copyOut_error {addr : UInt32} {data : Bytes} {memory after : PagedMemory} {fault : Fault}
    (h : GuestMemory.copyOut addr data memory = .error fault after) :
    ∃ count < data.length, memory.Patched addr.toNat (data.take count) after := by
  have hcopy := copyOutFrom_patched addr 0 data memory
  unfold GuestMemory.copyOut at h
  simpa only [h, Nat.add_zero] using hcopy

/-- The memory that an access leaves, whether it faulted or not. -/
def left {α : Type} : EStateM.Result Fault PagedMemory α → PagedMemory
  | .ok _ memory => memory
  | .error _ memory => memory

lemma copyInFrom_left (addr : UInt32) (copied : Bytes) (i count : Nat) (memory : PagedMemory) :
    left (GuestMemory.copyInFrom addr copied i count memory) = memory := by
  induction count generalizing copied i with
  | zero => rfl
  | succ count ih =>
    simp only [GuestMemory.copyInFrom]
    cases addressAt addr i with
    | error fault => rfl
    | ok here =>
      simp only [bind, EStateM.bind, GuestMemory.readByte]
      cases memory.readByte here with
      | error fault => rfl
      | ok b => exact ih (b :: copied) (i + 1)

/-- Reading a request keeps the memory. -/
lemma copyIn_ok {addr len : UInt32} {memory read : PagedMemory} {payload : Bytes}
    (h : GuestMemory.copyIn addr len memory = .ok payload read) : read = memory := by
  have hleft := copyInFrom_left addr [] 0 len.toNat memory
  unfold GuestMemory.copyIn at h
  rwa [h] at hleft

lemma copyIn_error {addr len : UInt32} {memory read : PagedMemory} {fault : Fault}
    (h : GuestMemory.copyIn addr len memory = .error fault read) : read = memory := by
  have hleft := copyInFrom_left addr [] 0 len.toNat memory
  unfold GuestMemory.copyIn at h
  rwa [h] at hleft

end HostCalls.PagedMemory
