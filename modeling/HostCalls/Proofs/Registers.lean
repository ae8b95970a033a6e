import HostCalls.Gate.Basic
import HostCalls.Proofs.PageBytes

/-!
# Registers of a gate

A typed value is stored as a fixed number of bytes, so a register access is an access to a
stretch of the page. The block of a gate lies inside its page, hence no access to one of its
registers aborts: reading gives `value` and storing gives `assign`. Registers that do not
overlap do not disturb each other.
-/
namespace HostCalls

/-- Host work goes on with what did not abort. -/
@[simp] theorem ok_bind {α β : Type} (a : α) (f : α → Except Abort β) :
    (Except.ok a >>= f) = f a := rfl

lemma exists_of_bind_ok {α β : Type} {x : Except Abort α} {f : α → Except Abort β} {b : β}
    (h : (x >>= f) = .ok b) : ∃ a, x = .ok a ∧ f a = .ok b := by
  cases x with
  | error abort => cases h
  | ok a => exact ⟨a, rfl, h⟩

/-- Values with a fixed number of bytes, whose accesses are accesses to those bytes. -/
class LawfulStored (α : Type) [Stored α] where
  encode : α → Bytes
  decode : Bytes → α
  length_encode (a : α) : (encode a).length = Stored.width α
  decode_encode (a : α) : decode (encode a) = a
  load_eq (window : Window) (offset : UInt64) (page : Page)
    (hfit : window.base.toNat + offset.toNat + Stored.width α ≤ pageSize) :
    Stored.load window offset page =
      .ok (decode (page.slice (window.base.toNat + offset.toNat) (Stored.width α))) page
  store_eq (window : Window) (offset : UInt64) (a : α) (page : Page)
    (hfit : window.base.toNat + offset.toNat + Stored.width α ≤ pageSize) :
    Stored.store window offset a page =
      .ok () (page.patch (window.base.toNat + offset.toNat) (encode a))

namespace Window

lemma toNat_base_add (window : Window) (offset : UInt64)
    (hfit : window.base.toNat + offset.toNat ≤ 4096) :
    (window.base + offset).toNat = window.base.toNat + offset.toNat := by
  rw [UInt64.toNat_add, Nat.mod_eq_of_lt (by omega)]

lemma resolve_eq (window : Window) (offset : UInt64) (page : Page)
    (hfit : window.base.toNat + offset.toNat ≤ 4096) :
    window.resolve offset page = .ok (window.base + offset) page := by
  have hsmall : window.base.toNat + offset.toNat < 0x10000000000000000 := by omega
  simp only [resolve, PageM.ofExcept, checkedAdd, if_pos hsmall]

lemma readByte_eq (window : Window) (offset : UInt64) (page : Page)
    (hfit : window.base.toNat + offset.toNat + 1 ≤ pageSize) :
    window.readByte offset page = .ok (page.byteAt (window.base.toNat + offset.toNat)) page := by
  have hle := Nat.le_of_succ_le hfit
  have hsum := toNat_base_add window offset hle
  have hin : (window.base + offset).toNat < pageSize := by omega
  simp only [readByte, bind, EStateM.bind, resolve_eq window offset page hle, Page.readByte]
  rw [dif_pos hin, ← hsum, Page.byteAt_of_lt page hin]

lemma writeByte_eq (window : Window) (offset : UInt64) (b : UInt8) (page : Page)
    (hfit : window.base.toNat + offset.toNat + 1 ≤ pageSize) :
    window.writeByte offset b page =
      .ok () (page.patch (window.base.toNat + offset.toNat) [b]) := by
  have hle := Nat.le_of_succ_le hfit
  have hsum := toNat_base_add window offset hle
  have hin : (window.base + offset).toNat < pageSize := by omega
  simp only [writeByte, bind, EStateM.bind, resolve_eq window offset page hle, Page.writeByte]
  rw [dif_pos hin, ← hsum, Page.set_eq_patch]

/-- The end of a word inside the page is computed without an abort. -/
lemma word_end_lt {place : UInt64} (hin : place.toNat + 3 < pageSize) :
    place.toNat + (UInt64.ofNat Word.size).toNat < 0x10000000000000000 := by
  have hsize : (UInt64.ofNat Word.size).toNat = 4 := by decide
  have hplace : place.toNat + 3 < 4096 := hin
  omega

lemma readWord_eq (window : Window) (offset : UInt64) (page : Page)
    (hfit : window.base.toNat + offset.toNat + 4 ≤ pageSize) :
    window.readWord offset page =
      .ok (Word.ofList (page.slice (window.base.toNat + offset.toNat) 4)) page := by
  have hle : window.base.toNat + offset.toNat ≤ 4096 := Nat.le_of_add_right_le hfit
  have hsum := toNat_base_add window offset hle
  have hin : (window.base + offset).toNat + 3 < pageSize := by omega
  simp only [readWord, bind, EStateM.bind, resolve_eq window offset page hle, Page.readWord,
    PageM.ofExcept, checkedAdd, if_pos (word_end_lt hin)]
  rw [dif_pos hin, ← hsum, Page.getWord_eq_slice]

lemma writeWord_eq (window : Window) (offset : UInt64) (value : UInt32) (page : Page)
    (hfit : window.base.toNat + offset.toNat + 4 ≤ pageSize) :
    window.writeWord offset value page =
      .ok () (page.patch (window.base.toNat + offset.toNat) (Word.toBytes value)) := by
  have hle : window.base.toNat + offset.toNat ≤ 4096 := Nat.le_of_add_right_le hfit
  have hsum := toNat_base_add window offset hle
  have hin : (window.base + offset).toNat + 3 < pageSize := by omega
  simp only [writeWord, bind, EStateM.bind, resolve_eq window offset page hle, Page.writeWord,
    PageM.ofExcept, checkedAdd, if_pos (word_end_lt hin)]
  rw [dif_pos hin, ← hsum, Page.setWord_eq_patch]

end Window

instance : LawfulStored UInt8 where
  encode b := [b]
  decode bytes := bytes.headD 0
  length_encode _ := rfl
  decode_encode _ := rfl
  load_eq window offset page hfit := by
    have hslice : page.slice (window.base.toNat + offset.toNat) 1 =
        [page.byteAt (window.base.toNat + offset.toNat)] := by simp [Page.slice]
    show window.readByte offset page = .ok ((page.slice _ 1).headD 0) page
    rw [hslice, window.readByte_eq offset page hfit]
    rfl
  store_eq window offset b page hfit := window.writeByte_eq offset b page hfit

instance : LawfulStored UInt32 where
  encode := Word.toBytes
  decode := Word.ofList
  length_encode := Word.length_toBytes
  decode_encode := Word.ofList_toBytes
  load_eq window offset page hfit := window.readWord_eq offset page hfit
  store_eq window offset value page hfit := window.writeWord_eq offset value page hfit

instance : LawfulStored Int32 where
  encode value := Word.toBytes value.toUInt32
  decode bytes := (Word.ofList bytes).toInt32
  length_encode value := Word.length_toBytes value.toUInt32
  decode_encode value := by rw [Word.ofList_toBytes]; rfl
  load_eq window offset page hfit := by
    have hread := window.readWord_eq offset page hfit
    simp only [Stored.load, Functor.map, EStateM.map, hread, Stored.width]
  store_eq window offset value page hfit := window.writeWord_eq offset value.toUInt32 page hfit

namespace Register

variable {α β : Type} [Stored α] [LawfulStored α] [Stored β] [LawfulStored β]

/-- The register lies inside the block. -/
def Within (register : Register α) : Prop :=
  register.offset.toNat + Stored.width α ≤ 32

instance (register : Register α) : Decidable register.Within := by
  unfold Within
  infer_instance

/-- The registers have no byte in common. -/
def Apart (register : Register α) (other : Register β) : Prop :=
  register.offset.toNat + Stored.width α ≤ other.offset.toNat ∨
    other.offset.toNat + Stored.width β ≤ register.offset.toNat

instance (register : Register α) (other : Register β) : Decidable (register.Apart other) := by
  unfold Apart
  infer_instance

end Register

namespace Gate

variable {σ α β : Type} [Stored α] [LawfulStored α] [Stored β] [LawfulStored β]

/-- The place of a register in the page of a gate. -/
def place (gate : Gate σ) (register : Register α) : Nat :=
  gate.config.registerOffset.toNat + register.offset.toNat

/-- The value of a register. -/
def value (gate : Gate σ) (register : Register α) : α :=
  LawfulStored.decode (gate.page.slice (gate.place register) (Stored.width α))

/-- The gate with another value in a register. -/
def assign (gate : Gate σ) (register : Register α) (a : α) : Gate σ :=
  { gate with page := gate.page.patch (gate.place register) (LawfulStored.encode a) }

@[simp] theorem assign_queue (gate : Gate σ) (register : Register α) (a : α) :
    (gate.assign register a).queue = gate.queue := rfl

/-- Only the page and the place of the block decide about the registers. -/
lemma value_congr {gate other : Gate σ} (hpage : other.page = gate.page)
    (hconfig : other.config = gate.config) (register : Register α) :
    other.value register = gate.value register := by
  simp only [value, place, hpage, hconfig]

omit [LawfulStored α] in
lemma place_fits (gate : Gate σ) {register : Register α} (h : register.Within) :
    gate.place register + Stored.width α ≤ pageSize := by
  have hblock := gate.usable.block_fits
  unfold Register.Within at h
  unfold place
  omega

lemma value_assign (gate : Gate σ) {register : Register α} (h : register.Within) (a : α) :
    (gate.assign register a).value register = a := by
  have hlen := LawfulStored.length_encode a
  have hfit := gate.place_fits h
  show LawfulStored.decode ((gate.page.patch (gate.place register) (LawfulStored.encode a)).slice
    (gate.place register) (Stored.width α)) = a
  rw [← hlen] at hfit ⊢
  rw [Page.slice_patch _ _ _ hfit, LawfulStored.decode_encode]

lemma value_assign_apart (gate : Gate σ) {register : Register α} {other : Register β}
    (h : register.Apart other) (b : β) :
    (gate.assign other b).value register = gate.value register := by
  have hlen := LawfulStored.length_encode b
  show LawfulStored.decode ((gate.page.patch (gate.place other) (LawfulStored.encode b)).slice
    (gate.place register) (Stored.width α)) = _
  rw [Page.slice_patch_apart]
  · rfl
  · unfold Register.Apart at h
    simp only [place, hlen]
    omega

/-- A store changes bytes of its register only. -/
lemma mem_of_byteAt_assign_ne (gate : Gate σ) (register : Register α) (a : α) {i : Nat}
    (h : (gate.assign register a).page.byteAt i ≠ gate.page.byteAt i) :
    gate.place register ≤ i ∧ i < gate.place register + Stored.width α := by
  have hlen := LawfulStored.length_encode a
  by_contra hout
  apply h
  apply Page.byteAt_patch_apart
  omega

/-- The window at the block, which lies inside the page. -/
def view (gate : Gate σ) : Window :=
  ⟨gate.config.registerOffset, by have := gate.usable.block_fits; omega⟩

lemma window_eq (gate : Gate σ) : gate.window = .ok gate.view :=
  dif_pos gate.view.inside

lemma read_view (gate : Gate σ) {register : Register α} (h : register.Within) :
    register.read gate.view gate.page = .ok (gate.value register) gate.page :=
  LawfulStored.load_eq gate.view register.offset gate.page (gate.place_fits h)

lemma write_view (gate : Gate σ) {register : Register α} (h : register.Within) (a : α)
    (page : Page) :
    register.write a gate.view page =
      .ok () (page.patch (gate.place register) (LawfulStored.encode a)) :=
  LawfulStored.store_eq gate.view register.offset a page (gate.place_fits h)

lemma readRegisters_read (gate : Gate σ) {register : Register α} (h : register.Within) :
    gate.readRegisters register.read = .ok (gate.value register) := by
  simp only [readRegisters, window_eq, gate.read_view h]

lemma writeRegisters_write (gate : Gate σ) {register : Register α} (h : register.Within) (a : α) :
    gate.writeRegisters (register.write a) = .ok (gate.assign register a) := by
  simp only [writeRegisters, window_eq, gate.write_view h, assign]

/-- Two stores in a row. -/
lemma writeRegisters_write_write (gate : Gate σ) {first : Register α} {second : Register β}
    (hfirst : first.Within) (hsecond : second.Within) (a : α) (b : β) :
    (gate.writeRegisters fun window => do
      first.write a window
      second.write b window) = .ok ((gate.assign first a).assign second b) := by
  simp only [writeRegisters, window_eq, bind, EStateM.bind, gate.write_view hfirst,
    gate.write_view hsecond]
  rfl

/-- Stores concern the page only. -/
lemma writeRegisters_frame {gate stored : Gate σ} {act : Window → PageM Unit}
    (h : gate.writeRegisters act = .ok stored) :
    stored.registry = gate.registry ∧ stored.config = gate.config := by
  unfold writeRegisters at h
  rw [window_eq] at h
  dsimp only at h
  split at h
  · cases h
    exact ⟨rfl, rfl⟩
  · cases h

/-- The request in the block. -/
def request (gate : Gate σ) : Request :=
  ⟨gate.value Layout.control, gate.value Layout.service, gate.value Layout.requestAddr,
    gate.value Layout.requestLen, gate.value Layout.responseAddr, gate.value Layout.responseSize⟩

/-- The status in the block. -/
def status (gate : Gate σ) : Status :=
  ⟨gate.value Layout.control, gate.value Layout.service, gate.value Layout.responseCode,
    gate.value Layout.responseLen⟩

lemma readRegisters_request (gate : Gate σ) :
    gate.readRegisters Request.read = .ok gate.request := by
  simp only [readRegisters, window_eq, Request.read, bind, EStateM.bind,
    gate.read_view (by decide : Layout.control.Within),
    gate.read_view (by decide : Layout.service.Within),
    gate.read_view (by decide : Layout.requestAddr.Within),
    gate.read_view (by decide : Layout.requestLen.Within),
    gate.read_view (by decide : Layout.responseAddr.Within),
    gate.read_view (by decide : Layout.responseSize.Within)]
  rfl

lemma readRegisters_status (gate : Gate σ) : gate.readRegisters Status.read = .ok gate.status := by
  simp only [readRegisters, window_eq, Status.read, bind, EStateM.bind,
    gate.read_view (by decide : Layout.control.Within),
    gate.read_view (by decide : Layout.service.Within),
    gate.read_view (by decide : Layout.responseCode.Within),
    gate.read_view (by decide : Layout.responseLen.Within)]
  rfl

end Gate

end HostCalls
