import HostCalls.Proofs.PartialWrites

/-!
# Reading into a buffer

A read fills a buffer from the front, one byte after the other, and ends with the first byte that
may not be read. By then the front of the buffer holds the bytes of the memory, and the rest of it
is as it was. This says everything about a read, so that what a write does to later reads follows
from what it does to the bytes, and the copies of payloads are compared with the accesses of the
host without looking at their loops again.
-/
namespace HostCalls.PagedMemory

/-! ## How far a read gets -/

section

variable {memory : PagedMemory} {start : UInt32} {i : Nat}

/-- A byte of a range that may be read. -/
lemma readByte_of_allows (hlt : start.toNat + i < 0x100000000)
    (hallows : memory.allows .readOnly (start.toNat + i) = true) :
    (addressAt start i >>= memory.readByte) = .ok ((memory.peek? (start.toNat + i)).getD 0) := by
  obtain ⟨here, haddr, hhere⟩ := addressAt_of_lt hlt
  rw [← hhere] at hallows ⊢
  obtain ⟨mapped, hcheck⟩ := (memory.check_ok_iff here .readOnly).mpr hallows
  rw [haddr, peek?_of_check hcheck]
  simp only [bind, Except.bind, readByte, hcheck, Except.map, Option.getD_some]

/-- A byte of a range that may not be read. -/
lemma readByte_of_faultAt? {fault : Fault} (h : memory.faultAt? .readOnly start i = some fault) :
    (addressAt start i >>= memory.readByte) = .error fault := by
  by_cases hlt : start.toNat + i < 0x100000000
  · obtain ⟨here, haddr, hhere⟩ := addressAt_of_lt hlt
    have hcheck := check_of_faultAt? hhere h
    simp only [haddr, bind, Except.bind, readByte, hcheck, Except.map]
  · rw [addressAt_of_faultAt? (Nat.not_lt.mp hlt) h]
    rfl

end

/-- The bytes that may be read are filled in, and the read goes on behind them. The induction is on
their number. -/
lemma fillFrom_past (memory : PagedMemory) (start : UInt32) (filled : Bytes) (i k : Nat)
    (buffer : Bytes) (hk : k ≤ buffer.length) (h : memory.Permits .readOnly (start.toNat + i) k) :
    memory.fillFrom start filled i buffer =
      memory.fillFrom start ((memory.contents (start.toNat + i) k).reverse ++ filled) (i + k)
        (buffer.drop k) := by
  induction k generalizing filled i buffer with
  | zero => rfl
  | succ k ih =>
    obtain ⟨old, rest, rfl⟩ := List.exists_cons_of_length_pos (by omega : 0 < buffer.length)
    obtain ⟨⟨hlt, hallows⟩, hrest⟩ := (memory.permits_succ_iff _ _ _).mp h
    rw [Nat.add_assoc] at hrest
    rw [fillFrom, readByte_of_allows hlt hallows]
    dsimp only
    rw [ih _ (i + 1) rest (by simpa using hk) hrest, contents_succ, List.drop_succ_cons,
      List.reverse_cons, List.append_assoc, List.singleton_append, Nat.add_assoc, Nat.add_assoc,
      Nat.add_comm 1 k]

/-- A range that may be read as a whole replaces the whole buffer. -/
lemma readBytes_of_permits {memory : PagedMemory} {addr : UInt32} {buffer : Bytes}
    (h : memory.Permits .readOnly addr.toNat buffer.length) :
    memory.readBytes addr buffer = ⟨memory.contents addr.toNat buffer.length, .ok ()⟩ := by
  rw [readBytes, fillFrom_past memory addr [] 0 buffer.length buffer le_rfl h, List.drop_length,
    fillFrom, List.append_nil, List.reverse_reverse]
  rfl

/-- Otherwise the front of the buffer is replaced, up to the first byte that may not be read. -/
lemma FirstFault.readBytes {memory : PagedMemory} {addr : UInt32} {buffer : Bytes} {i : Nat}
    {fault : Fault} (h : memory.FirstFault .readOnly addr buffer.length i fault) :
    memory.readBytes addr buffer =
      ⟨memory.contents addr.toNat i ++ buffer.drop i, .error fault⟩ := by
  have hcause := h.cause
  rw [← Nat.zero_add i] at hcause
  obtain ⟨old, rest, hrest⟩ := List.exists_cons_of_length_pos (l := buffer.drop i)
    (by rw [List.length_drop]; exact Nat.sub_pos_of_lt h.inside)
  rw [PagedMemory.readBytes, fillFrom_past memory addr [] 0 i buffer (Nat.le_of_lt h.inside)
    h.earlier, hrest, fillFrom, readByte_of_faultAt? hcause]
  simp [List.reverseAux_eq]

/-! ## Reads after a write -/

@[simp] theorem length_contents (memory : PagedMemory) (addr count : Nat) :
    (memory.contents addr count).length = count := by
  simp [contents]

lemma contents_congr {memory other : PagedMemory} {addr count : Nat}
    (h : ∀ i < count, other.peek? (addr + i) = memory.peek? (addr + i)) :
    other.contents addr count = memory.contents addr count := by
  apply List.map_congr_left
  intro i hi
  rw [h i (List.mem_range.mp hi)]

/-- Memories with the same permissions have the same first faults. -/
lemma FirstFault.congr {memory other : PagedMemory}
    (hpermissions : ∀ index, other.permissions? index = memory.permissions? index)
    {needed : Permissions} {start : UInt32} {count i : Nat} {fault : Fault}
    (h : memory.FirstFault needed start count i fault) :
    other.FirstFault needed start count i fault :=
  ⟨h.inside, (permits_congr hpermissions _ _ _).mpr h.earlier,
    (faultAt?_congr hpermissions needed start i).trans h.cause⟩

namespace Patched

variable {memory written : PagedMemory} {start : Nat} {data : Bytes}

lemma contents (h : memory.Patched start data written) :
    written.contents start data.length = data := by
  apply List.ext_getElem (by simp)
  intro i _ hi
  simp only [PagedMemory.contents, List.getElem_map, List.getElem_range, h.inside i hi,
    Option.getD_some]

/-- A read that has no byte in common with a write does not notice it, and faults as before. -/
lemma readBytes_apart (h : memory.Patched start data written) {addr : UInt32} {buffer : Bytes}
    (hapart : ∀ i < buffer.length,
      addr.toNat + i < start ∨ start + data.length ≤ addr.toNat + i) :
    written.readBytes addr buffer = memory.readBytes addr buffer := by
  have hkept (i : Nat) (hi : i < buffer.length) :
      written.peek? (addr.toNat + i) = memory.peek? (addr.toNat + i) :=
    h.outside _ (hapart i hi)
  by_cases hpermits : memory.Permits .readOnly addr.toNat buffer.length
  · have hpermits' := (permits_congr h.permissions _ _ _).mpr hpermits
    rw [readBytes_of_permits hpermits, readBytes_of_permits hpermits', contents_congr hkept]
  · obtain ⟨i, fault, hfirst⟩ := exists_firstFault hpermits
    have hfront : written.contents addr.toNat i = memory.contents addr.toNat i := by
      apply contents_congr
      intro j hj
      exact hkept j (Nat.lt_trans hj hfirst.inside)
    rw [hfirst.readBytes, (hfirst.congr h.permissions).readBytes, hfront]

/-- What was written where it may also be read. -/
lemma readBytes {addr : UInt32} (h : memory.Patched addr.toNat data written)
    (hreadable : memory.Permits .readOnly addr.toNat data.length) {buffer : Bytes}
    (hlength : buffer.length = data.length) : written.readBytes addr buffer = ⟨data, .ok ()⟩ := by
  have hpermits : written.Permits .readOnly addr.toNat buffer.length := by
    rw [hlength]
    exact (permits_congr h.permissions _ _ _).mpr hreadable
  rw [readBytes_of_permits hpermits, hlength, h.contents]

end Patched

/-- A write that ends well has replaced its range, which may be read if its pages may be. -/
lemma patched_of_writeBytes {memory written : PagedMemory} {addr : UInt32} {data : Bytes}
    (hwrite : writeBytes addr data memory = .ok () written)
    (hreadable : ∀ i < data.length, memory.allows .readOnly (addr.toNat + i) = true) :
    memory.Patched addr.toNat data written ∧
      memory.Permits .readOnly addr.toNat data.length := by
  rw [writeBytes_eq_copyOut] at hwrite
  have hwritable := (copyOut_ok_iff addr data memory).mp ⟨written, hwrite⟩
  exact ⟨copyOut_ok hwrite, fun i hi => ⟨(hwritable i hi).1, hreadable i hi⟩⟩

/-- The fault of the first byte that may not be read is at its address, and comes from reading that
byte alone. -/
lemma FirstFault.readByte {memory : PagedMemory} {start : UInt32} {count i : Nat} {fault : Fault}
    (h : memory.FirstFault .readOnly start count i fault)
    (hlt : start.toNat + i < 0x100000000) :
    fault.addr.toNat = start.toNat + i ∧ memory.readByte fault.addr = .error fault := by
  have haddr := (h.fault_of_lt hlt).1
  have hcheck := check_of_faultAt? haddr h.cause
  refine ⟨haddr, ?_⟩
  rw [PagedMemory.readByte, hcheck]
  rfl

/-- A new memory may be accessed in every way, as far as its pages go. -/
lemma permits_of_new {npages : UInt64} {memory : PagedMemory} (hnew : new npages = .ok memory)
    (needed : Permissions) {addr count : Nat} (hfit : addr + count ≤ npages.toNat * 4096) :
    memory.Permits needed addr count := by
  have hmade := MemoryHistory.Describes.start hnew
  have hnpages : memory.npages = npages.toNat := hmade.npages
  have hlimit : memory.npages * 4096 ≤ 0x100000000 := memory.addressable
  intro i hi
  have hpage : (addr + i) / 4096 < npages.toNat := by omega
  have hindex : (UInt64.ofNat ((addr + i) / 4096)).toNat = (addr + i) / 4096 := by
    rw [UInt64.toNat_ofNat', Nat.mod_eq_of_lt (by omega)]
  have hall : (memory.mapped? ((addr + i) / 4096)).map (·.permissions) = some .all :=
    (hmade.permissions _).trans (if_pos hpage)
  refine ⟨by omega, ?_⟩
  rw [allows, permissions?, hindex, hall]
  simp [Permissions.contains, Permissions.all]

end HostCalls.PagedMemory

namespace HostCalls

/-- After a write to a range that may also be read, a read of the range gives what was written, and
so does a read of a word. A read that has no byte in common with it comes to what it came to
before. Every read fills its buffer with the bytes of the memory, all of it if the range may be
read, and otherwise up to the first byte that may not be. The rest of the buffer is then as it was,
and the result is the fault of that byte, which is reported at the start of the range if the byte
lies at the end of the address space. -/
theorem read_gives_what_was_written (memory : PagedMemory) (addr : UInt32) :
    (∀ (data : Bytes) (written : PagedMemory),
      PagedMemory.writeBytes addr data memory = .ok () written →
      (∀ i < data.length, memory.allows .readOnly (addr.toNat + i) = true) →
      (∀ buffer : Bytes, buffer.length = data.length →
        written.readBytes addr buffer = ⟨data, .ok ()⟩) ∧
      ∀ (other : UInt32) (buffer : Bytes),
        (∀ i < buffer.length, other.toNat + i < addr.toNat ∨
          addr.toNat + data.length ≤ other.toNat + i) →
        written.readBytes other buffer = memory.readBytes other buffer) ∧
    (∀ (value : UInt32) (written : PagedMemory),
      PagedMemory.writeWord addr value memory = .ok () written →
      (∀ i < 4, memory.allows .readOnly (addr.toNat + i) = true) →
      written.readWord addr = .ok value) ∧
    ∀ buffer : Bytes,
      (memory.Permits .readOnly addr.toNat buffer.length →
        ∃ bytes, memory.readBytes addr buffer = ⟨bytes, .ok ()⟩ ∧
          bytes.map some = memory.peekRange addr.toNat buffer.length) ∧
      ∀ i < buffer.length, memory.Permits .readOnly addr.toNat i →
        0x100000000 ≤ addr.toNat + i ∨ memory.allows .readOnly (addr.toNat + i) = false →
        ∃ bytes fault, memory.readBytes addr buffer = ⟨bytes ++ buffer.drop i, .error fault⟩ ∧
          bytes.map some = memory.peekRange addr.toNat i ∧
          addr.toNat + i ≤ 0x100000000 ∧
          (addr.toNat + i < 0x100000000 →
            fault.addr.toNat = addr.toNat + i ∧ memory.readByte fault.addr = .error fault) ∧
          (addr.toNat + i = 0x100000000 → fault = ⟨.outOfRange, addr⟩) := by
  refine ⟨?_, ?_, ?_⟩
  · intro data written hwrite hreadable
    obtain ⟨hpatched, hpermits⟩ := PagedMemory.patched_of_writeBytes hwrite hreadable
    exact ⟨fun _ => hpatched.readBytes hpermits, fun _ _ => hpatched.readBytes_apart⟩
  · intro value written hwrite hreadable
    obtain ⟨hpatched, hpermits⟩ := PagedMemory.patched_of_writeBytes hwrite hreadable
    have hfilled : written.readBytes addr (List.replicate Word.size 0) =
        ⟨Word.toBytes value, .ok ()⟩ := hpatched.readBytes hpermits rfl
    rw [PagedMemory.readWord, hfilled]
    exact congrArg Except.ok (Word.ofList_toBytes value)
  · intro buffer
    constructor
    · intro hpermits
      exact ⟨_, PagedMemory.readBytes_of_permits hpermits,
        PagedMemory.map_some_contents hpermits⟩
    · intro i hinside hearlier hstopped
      obtain ⟨fault, hfirst⟩ := PagedMemory.firstFault_of_stopped hinside hearlier hstopped
      exact ⟨_, fault, hfirst.readBytes, PagedMemory.map_some_contents hearlier, hfirst.le_end,
        hfirst.readByte, hfirst.fault_of_end⟩

/-- A word across the end of a page and a word at the end of the address space are read back, and
what lies behind the first one is as before. A read of three bytes is stopped after the first one by
a page that can only be written. -/
theorem read_gives_straddling_word_and_last_word :
    (∃ memory written, PagedMemory.new 2 = .ok memory ∧
      PagedMemory.writeWord 0x0ffe 0x04030201 memory = .ok () written ∧
      written.readWord 0x0ffe = .ok 0x04030201 ∧
      written.readBytes 0x0ffe [9, 9, 9, 9] = ⟨[1, 2, 3, 4], .ok ()⟩ ∧
      written.readBytes 0x1002 [9, 9] = memory.readBytes 0x1002 [9, 9]) ∧
    (∃ memory written, PagedMemory.new 0x100000 = .ok memory ∧
      PagedMemory.writeWord 0xfffffffc 0xdeadbeef memory = .ok () written ∧
      written.readWord 0xfffffffc = .ok 0xdeadbeef) ∧
    ∃ memory, (PagedMemory.new 2 >>= fun memory => memory.map 1 .writeOnly) = .ok memory ∧
      memory.readBytes 0x0fff [9, 9, 9] = ⟨[0, 9, 9], .error ⟨.protection, 0x1000⟩⟩ := by
  have hword (npages : UInt64) (addr value : UInt32) (hsize : npages.toNat ≤ 0x100000)
      (hfit : addr.toNat + 4 ≤ npages.toNat * 4096) :
      ∃ memory written, PagedMemory.new npages = .ok memory ∧
        PagedMemory.writeWord addr value memory = .ok () written ∧
        ∀ i < 4, memory.allows .readOnly (addr.toNat + i) = true := by
    obtain ⟨memory, hmemory⟩ := (PagedMemory.new_ok_iff npages).mpr hsize
    obtain ⟨written, hwrite⟩ := (PagedMemory.copyOut_ok_iff addr (Word.toBytes value) memory).mpr
      (PagedMemory.permits_of_new hmemory _ hfit)
    rw [← PagedMemory.writeBytes_eq_copyOut] at hwrite
    exact ⟨memory, written, hmemory, hwrite,
      fun i hi => (PagedMemory.permits_of_new hmemory _ hfit i hi).2⟩
  refine ⟨?_, ?_, ?_⟩
  · obtain ⟨memory, written, hmemory, hwrite, hreadable⟩ :=
      hword 2 0x0ffe 0x04030201 (by decide) (by decide)
    obtain ⟨hbytes, hwords, _⟩ := read_gives_what_was_written memory 0x0ffe
    obtain ⟨hsame, hapart⟩ := hbytes (Word.toBytes 0x04030201) written hwrite hreadable
    exact ⟨memory, written, hmemory, hwrite, hwords _ written hwrite hreadable,
      hsame [9, 9, 9, 9] rfl, hapart 0x1002 [9, 9] (by decide)⟩
  · obtain ⟨memory, written, hmemory, hwrite, hreadable⟩ :=
      hword 0x100000 0xfffffffc 0xdeadbeef (by decide) (by decide)
    obtain ⟨_, hwords, _⟩ := read_gives_what_was_written memory 0xfffffffc
    exact ⟨memory, written, hmemory, hwrite, hwords _ written hwrite hreadable⟩
  · have hseen : (do
        let memory ← PagedMemory.new 2 >>= fun memory => memory.map 1 .writeOnly
        return ((decide (memory.Permits .readOnly 0x0fff 1), memory.allows .readOnly 0x1000),
          memory.peekRange 0x0fff 1, memory.readByte 0x1000)) =
        .ok ((true, false), [some 0], .error ⟨.protection, 0x1000⟩) := by decide +kernel
    obtain ⟨memory, hmemory, hseen⟩ := exists_of_bind_ok hseen
    simp only [pure, Except.pure, Except.ok.injEq, Prod.mk.injEq, decide_eq_true_eq] at hseen
    obtain ⟨⟨hpermits, hforbidden⟩, hfront, hbyte⟩ := hseen
    obtain ⟨_, _, hreads⟩ := read_gives_what_was_written memory 0x0fff
    obtain ⟨bytes, fault, hread, hbytes, _, hfault, _⟩ :=
      (hreads [9, 9, 9]).2 1 (by decide) hpermits (.inr hforbidden)
    obtain ⟨haddr, hcause⟩ := hfault (by decide)
    obtain rfl : bytes = [0] := by simpa using hbytes.trans hfront
    rw [show fault.addr = 0x1000 from UInt32.toNat_inj.mp haddr, hbyte] at hcause
    cases hcause
    exact ⟨memory, hmemory, hread⟩

/-! ## Copies and accesses of the host -/

/-- A payload is copied in exactly if its range can be read into a buffer, and then the copy is the
filled buffer; otherwise both end in the same fault. A payload is copied out as it is written: with
the same result, and leaving the same memory. So a payload that is copied to a range that may be
read and written comes back unchanged. -/
theorem copies_agree_with_host_accesses (memory : PagedMemory) (addr : UInt32) :
    (∀ (len : UInt32) (buffer : Bytes), buffer.length = len.toNat →
      ((∃ bytes after, GuestMemory.copyIn addr len memory = .ok bytes after) ↔
        (memory.readBytes addr buffer).result = .ok ()) ∧
      (∀ bytes after, GuestMemory.copyIn addr len memory = .ok bytes after →
        bytes.length = len.toNat ∧ bytes = (memory.readBytes addr buffer).buffer ∧
          after = memory) ∧
      ∀ fault after, GuestMemory.copyIn addr len memory = .error fault after →
        (memory.readBytes addr buffer).result = .error fault ∧ after = memory) ∧
    (∀ data, GuestMemory.copyOut addr data memory = PagedMemory.writeBytes addr data memory) ∧
    ∀ (data : Bytes) (len : UInt32), len.toNat = data.length →
      memory.Permits .readOnly addr.toNat data.length →
      memory.Permits .writeOnly addr.toNat data.length →
      ∃ written, GuestMemory.copyOut addr data memory = .ok () written ∧
        GuestMemory.copyIn addr len written = .ok data written := by
  refine ⟨?_, ?_, ?_⟩
  · intro len buffer hlength
    by_cases hpermits : memory.Permits .readOnly addr.toNat len.toNat
    · have hcopy := PagedMemory.copyIn_of_permits hpermits
      rw [← hlength] at hpermits
      have hfill := PagedMemory.readBytes_of_permits hpermits
      rw [hcopy, hfill, hlength]
      refine ⟨by simp, ?_, ?_⟩
      · intro bytes after hbytes
        cases hbytes
        exact ⟨PagedMemory.length_contents _ _ _, rfl, rfl⟩
      · intro fault after hfault
        cases hfault
    · obtain ⟨i, fault, hfirst⟩ := PagedMemory.exists_firstFault hpermits
      have hcopy := hfirst.copyIn
      rw [← hlength] at hfirst
      rw [hcopy, hfirst.readBytes]
      refine ⟨by simp, ?_, ?_⟩
      · intro bytes after hbytes
        cases hbytes
      · intro fault' after hfault
        cases hfault
        exact ⟨rfl, rfl⟩
  · intro data
    rw [PagedMemory.writeBytes_eq_copyOut]
  · intro data len hlength hreadable hwritable
    obtain ⟨written, hwrite⟩ := (PagedMemory.copyOut_ok_iff addr data memory).mpr hwritable
    have hpatched := PagedMemory.copyOut_ok hwrite
    have hpermits := (PagedMemory.permits_congr hpatched.permissions _ _ _).mpr hreadable
    rw [← hlength] at hpermits
    have hcopy := PagedMemory.copyIn_of_permits hpermits
    rw [hlength, hpatched.contents] at hcopy
    exact ⟨written, hwrite, hcopy⟩

/-- Three pages, of which the last is not mapped. A payload across the first two comes back, and one
that reaches into the third ends in the fault of the read. -/
theorem copies_agree_across_pages :
    ∃ memory, (PagedMemory.new 3 >>= fun memory => memory.unmap 2) = .ok memory ∧
      (∃ written, GuestMemory.copyOut 0x0ffe [1, 2, 3] memory = .ok () written ∧
        PagedMemory.writeBytes 0x0ffe [1, 2, 3] memory = .ok () written ∧
        GuestMemory.copyIn 0x0ffe 3 written = .ok [1, 2, 3] written) ∧
      (memory.readBytes 0x1fff [9, 9]).result = .error ⟨.outOfRange, 0x2000⟩ ∧
      GuestMemory.copyIn 0x1fff 2 memory = .error ⟨.outOfRange, 0x2000⟩ memory := by
  have hseen : (do
      let memory ← PagedMemory.new 3 >>= fun memory => memory.unmap 2
      return ((decide (memory.Permits .readOnly 0x0ffe 3),
        decide (memory.Permits .writeOnly 0x0ffe 3)), (memory.readBytes 0x1fff [9, 9]).result)) =
      .ok ((true, true), .error ⟨.outOfRange, 0x2000⟩) := by decide +kernel
  obtain ⟨memory, hmemory, hseen⟩ := exists_of_bind_ok hseen
  simp only [pure, Except.pure, Except.ok.injEq, Prod.mk.injEq, decide_eq_true_eq] at hseen
  obtain ⟨⟨hreadable, hwritable⟩, hread⟩ := hseen
  obtain ⟨_, hwrites, hback⟩ := copies_agree_with_host_accesses memory 0x0ffe
  obtain ⟨written, hcopy, hreturned⟩ := hback [1, 2, 3] 3 rfl hreadable hwritable
  obtain ⟨hreads, _⟩ := copies_agree_with_host_accesses memory 0x1fff
  obtain ⟨hok, _, herror⟩ := hreads 2 [9, 9] rfl
  refine ⟨memory, hmemory, ⟨written, hcopy, (hwrites _).symm.trans hcopy, hreturned⟩, hread, ?_⟩
  cases hfault : GuestMemory.copyIn 0x1fff 2 memory with
  | ok bytes after =>
    rw [hread] at hok
    cases hok.mp ⟨bytes, after, hfault⟩
  | error fault after =>
    obtain ⟨hsame, rfl⟩ := herror fault after hfault
    cases hread.symm.trans hsame
    rfl

end HostCalls
