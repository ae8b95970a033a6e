import HostCalls.Proofs.IssuedRequests

/-!
# Laws of register windows

A register is a byte, a word or a signed word at any place behind the base of a window. What an
access comes to depends on the place alone: either one of its sums is too large, or the register
reaches past the end of the page, or the access succeeds. A load then decodes a stretch of the page
and a store patches it, so the laws of loads and stores are laws of stretches.
-/
namespace HostCalls

/-! ## Stretches patched twice -/

namespace Page

/-- The byte at any position after a patch. -/
lemma byteAt_patch_eq (page : Page) (start : Nat) (bytes : Bytes) {j : Nat} (hj : j < pageSize) :
    (page.patch start bytes).byteAt j =
      if start ≤ j then bytes[j - start]?.getD (page.byteAt j) else page.byteAt j := by
  by_cases hin : start ≤ j ∧ j < start + bytes.length
  · obtain ⟨k, rfl⟩ := Nat.exists_eq_add_of_le hin.1
    have hk : k < bytes.length := by omega
    rw [byteAt_patch page start bytes hk hj, if_pos hin.1, Nat.add_sub_cancel_left,
      List.getElem?_eq_getElem hk, Option.getD_some]
  · rw [byteAt_patch_apart page start bytes (by omega)]
    split_ifs with hstart
    · rw [List.getElem?_eq_none (by omega), Option.getD_none]
    · rfl

/-- The later of two patches of one stretch counts. -/
lemma patch_patch (page : Page) (start : Nat) {first second : Bytes}
    (hlen : first.length = second.length) :
    (page.patch start first).patch start second = page.patch start second := by
  apply ext_byteAt
  intro j hj
  simp only [byteAt_patch_eq _ _ _ hj]
  by_cases hin : j - start < second.length
  · simp only [List.getElem?_eq_getElem hin, Option.getD_some]
    split_ifs <;> rfl
  · simp only [List.getElem?_eq_none (Nat.not_lt.mp hin), Option.getD_none,
      List.getElem?_eq_none (hlen ▸ Nat.not_lt.mp hin), ite_self]

/-- Patches of stretches that do not meet may be made in either order. -/
lemma patch_comm (page : Page) {start other : Nat} {bytes others : Bytes}
    (hapart : start + bytes.length ≤ other ∨ other + others.length ≤ start) :
    (page.patch start bytes).patch other others =
      (page.patch other others).patch start bytes := by
  apply ext_byteAt
  intro j hj
  by_cases hin : start ≤ j ∧ j < start + bytes.length
  · have hout : j < other ∨ other + others.length ≤ j := by omega
    rw [byteAt_patch_apart _ other others hout, byteAt_patch_eq _ start bytes hj,
      byteAt_patch_eq _ start bytes hj, byteAt_patch_apart _ other others hout]
  · have hout : j < start ∨ start + bytes.length ≤ j := by omega
    rw [byteAt_patch_apart (page.patch other others) start bytes hout,
      byteAt_patch_eq _ other others hj, byteAt_patch_eq _ other others hj,
      byteAt_patch_apart page start bytes hout]

end Page

/-! ## Accesses that abort -/

namespace Page

variable {offset : UInt64} (page : Page)

lemma readByte_of_overrun (hover : 4096 ≤ offset.toNat) :
    readByte offset page = .error .bounds page :=
  dif_neg (Nat.not_lt.mpr hover)

lemma writeByte_of_overrun (hover : 4096 ≤ offset.toNat) (value : UInt8) :
    writeByte offset value page = .error .bounds page :=
  dif_neg (Nat.not_lt.mpr hover)

lemma readByte_of_fits (hfit : offset.toNat < 4096) :
    readByte offset page = .ok (page.byteAt offset.toNat) page := by
  rw [readByte, dif_pos hfit, byteAt_of_lt page hfit]

lemma readWord_of_overflow (hlarge : 0x10000000000000000 ≤ offset.toNat + 4) :
    readWord offset page = .error .overflow page := by
  have hend : ¬ offset.toNat + (UInt64.ofNat Word.size).toNat < 0x10000000000000000 :=
    Nat.not_lt.mpr hlarge
  simp only [readWord, bind, EStateM.bind, PageM.ofExcept, checkedAdd, if_neg hend]

lemma writeWord_of_overflow (hlarge : 0x10000000000000000 ≤ offset.toNat + 4) (value : UInt32) :
    writeWord offset value page = .error .overflow page := by
  have hend : ¬ offset.toNat + (UInt64.ofNat Word.size).toNat < 0x10000000000000000 :=
    Nat.not_lt.mpr hlarge
  simp only [writeWord, bind, EStateM.bind, PageM.ofExcept, checkedAdd, if_neg hend]

end Page

namespace Window

variable (window : Window) {offset : UInt64} (page : Page)

/-- Nothing is done at a place that cannot be computed. -/
lemma resolve_bind_of_overflow {α : Type} (act : UInt64 → PageM α)
    (hlarge : 0x10000000000000000 ≤ window.base.toNat + offset.toNat) :
    (window.resolve offset >>= act) page = .error .overflow page := by
  simp only [bind, EStateM.bind, resolve, PageM.ofExcept, checkedAdd,
    if_neg (Nat.not_lt.mpr hlarge)]

/-- Otherwise the access is one at a place of the page. -/
lemma exists_resolve_bind_eq {α : Type} (act : UInt64 → PageM α)
    (hsmall : window.base.toNat + offset.toNat < 0x10000000000000000) :
    ∃ place : UInt64, place.toNat = window.base.toNat + offset.toNat ∧
      (window.resolve offset >>= act) page = act place page := by
  obtain ⟨place, hresolve, hplace⟩ := window.resolve_of_small page hsmall
  exact ⟨place, hplace, by simp only [bind, EStateM.bind, hresolve]⟩

lemma readWord_of_overflow
    (hlarge : 0x10000000000000000 ≤ window.base.toNat + offset.toNat + 4) :
    window.readWord offset page = .error .overflow page := by
  by_cases hsmall : window.base.toNat + offset.toNat < 0x10000000000000000
  · obtain ⟨place, hplace, haccess⟩ := window.exists_resolve_bind_eq page Page.readWord hsmall
    exact haccess.trans (page.readWord_of_overflow (hplace ▸ hlarge))
  · exact window.resolve_bind_of_overflow page Page.readWord (Nat.not_lt.mp hsmall)

lemma writeWord_of_overflow (value : UInt32)
    (hlarge : 0x10000000000000000 ≤ window.base.toNat + offset.toNat + 4) :
    window.writeWord offset value page = .error .overflow page := by
  by_cases hsmall : window.base.toNat + offset.toNat < 0x10000000000000000
  · obtain ⟨place, hplace, haccess⟩ :=
      window.exists_resolve_bind_eq page (Page.writeWord · value) hsmall
    exact haccess.trans (page.writeWord_of_overflow (hplace ▸ hlarge) value)
  · exact window.resolve_bind_of_overflow page (Page.writeWord · value) (Nat.not_lt.mp hsmall)

section

variable (hsmall : window.base.toNat + offset.toNat < 0x10000000000000000)
  (hover : 4096 ≤ window.base.toNat + offset.toNat)

include hsmall hover

lemma readByte_of_overrun : window.readByte offset page = .error .bounds page := by
  obtain ⟨place, hplace, haccess⟩ := window.exists_resolve_bind_eq page Page.readByte hsmall
  exact haccess.trans (page.readByte_of_overrun (hplace ▸ hover))

lemma writeByte_of_overrun (value : UInt8) :
    window.writeByte offset value page = .error .bounds page := by
  obtain ⟨place, hplace, haccess⟩ :=
    window.exists_resolve_bind_eq page (Page.writeByte · value) hsmall
  exact haccess.trans (page.writeByte_of_overrun (hplace ▸ hover) value)

end

end Window

/-! ## Kinds of registers -/

/-- What a register holds. -/
inductive Register.Kind where
  | byte
  | word
  | signed
deriving DecidableEq

namespace Register.Kind

/-- The values of a kind. -/
abbrev Value : Kind → Type
  | byte => UInt8
  | word => UInt32
  | signed => Int32

instance : (kind : Kind) → Stored kind.Value
  | byte => inferInstanceAs (Stored UInt8)
  | word => inferInstanceAs (Stored UInt32)
  | signed => inferInstanceAs (Stored Int32)

instance : (kind : Kind) → LawfulStored kind.Value
  | byte => inferInstanceAs (LawfulStored UInt8)
  | word => inferInstanceAs (LawfulStored UInt32)
  | signed => inferInstanceAs (LawfulStored Int32)

/-- Number of bytes of a value. -/
def width (kind : Kind) : Nat := Stored.width kind.Value

/-- The number that the bytes of a value write. A negative one is counted down from the number of
all words. -/
def number : (kind : Kind) → kind.Value → Nat
  | byte, value => UInt8.toNat value
  | word, value => UInt32.toNat value
  | signed, value => (Int32.toInt value % 0x100000000).toNat

/-- Byte `k` of a value, counted from the least significant one. -/
def digit (kind : Kind) (value : kind.Value) (k : Nat) : UInt8 :=
  UInt8.ofNat (kind.number value >>> (8 * k))

/-- A place of which an access makes a sum that is too large. Only words need their end. -/
def Overflows (kind : Kind) (place : Nat) : Prop :=
  0x10000000000000000 ≤ place ∨ kind ≠ byte ∧ 0x10000000000000000 ≤ place + 4

instance (kind : Kind) (place : Nat) : Decidable (kind.Overflows place) := by
  unfold Overflows
  infer_instance

/-- What comes of an access at a place, be it a load or a store. -/
structure Checked {β : Type} (kind : Kind) (place : Nat) (page : Page)
    (result : EStateM.Result Abort Page β) : Prop where
  overflow_iff : result = .error .overflow page ↔ kind.Overflows place
  bounds_iff : result = .error .bounds page ↔
    ¬ kind.Overflows place ∧ 4096 < place + kind.width
  ok_iff : (∃ b after, result = .ok b after) ↔
    ¬ kind.Overflows place ∧ place + kind.width ≤ 4096

lemma Checked.of_cases {β : Type} {kind : Kind} {place : Nat} {page : Page}
    {result : EStateM.Result Abort Page β}
    (hoverflow : kind.Overflows place → result = .error .overflow page)
    (hbounds : ¬ kind.Overflows place → 4096 < place + kind.width →
      result = .error .bounds page)
    (hok : place + kind.width ≤ 4096 → ∃ b after, result = .ok b after) :
    kind.Checked place page result := by
  by_cases hover : kind.Overflows place
  · have hresult := hoverflow hover
    constructor <;> simp [hresult, hover]
  by_cases hend : 4096 < place + kind.width
  · have hresult := hbounds hover hend
    constructor <;> simp [hresult, hover, hend]
  · obtain ⟨b, after, hresult⟩ := hok (Nat.not_lt.mp hend)
    constructor <;> simp [hresult, hover, Nat.not_lt.mp hend]

lemma overflows_byte_iff {place : Nat} :
    byte.Overflows place ↔ 0x10000000000000000 ≤ place := by
  simp [Overflows]

lemma overflows_iff_of_ne_byte {kind : Kind} (hkind : kind ≠ byte) {place : Nat} :
    kind.Overflows place ↔ 0x10000000000000000 ≤ place + 4 := by
  simp only [Overflows, hkind, ne_eq, not_false_eq_true, true_and]
  omega

lemma lt_of_not_overflows {kind : Kind} (hkind : kind ≠ byte) {place : Nat}
    (h : ¬ kind.Overflows place) : place + 4 < 0x10000000000000000 := by
  rwa [overflows_iff_of_ne_byte hkind, Nat.not_le] at h

lemma toNat_toUInt32 (value : Int32) :
    value.toUInt32.toNat = (value.toInt % 0x100000000).toNat := by
  have hbits : value.toUInt32.toNat = value.toBitVec.toNat := rfl
  have hint : value.toInt = value.toBitVec.toInt := rfl
  have hlt := value.toBitVec.isLt
  rw [hbits, hint, BitVec.toInt_eq_toNat_cond]
  split_ifs <;> omega

lemma getElem_toBytes (value : UInt32) {k : Nat} (hk : k < (Word.toBytes value).length) :
    (Word.toBytes value)[k] = Word.byte value k := by
  have hbytes : Word.toBytes value = (List.range 4).map (Word.byte value) := rfl
  simp [hbytes]

/-- The bytes of a value are the digits of its number. -/
lemma getElem_encode {kind : Kind} (value : kind.Value) {k : Nat}
    (hk : k < (LawfulStored.encode value).length) :
    (LawfulStored.encode value)[k] = kind.digit value k := by
  cases kind with
  | byte =>
    obtain rfl : k = 0 := Nat.lt_one_iff.mp hk
    exact (UInt8.ofNat_toNat).symm
  | word => exact getElem_toBytes value hk
  | signed =>
    refine (getElem_toBytes (Int32.toUInt32 value) hk).trans ?_
    rw [Word.byte, toNat_toUInt32]
    rfl

lemma length_encode {kind : Kind} (value : kind.Value) :
    (LawfulStored.encode value).length = kind.width :=
  LawfulStored.length_encode value

/-- A stretch is what its value is encoded to. -/
lemma encode_decode_slice (kind : Kind) (page : Page) (i : Nat) :
    LawfulStored.encode (LawfulStored.decode (page.slice i kind.width) : kind.Value) =
      page.slice i kind.width := by
  cases kind with
  | byte => rfl
  | word => exact page.toBytes_wordAt i
  | signed => exact page.toBytes_wordAt i

end Register.Kind

namespace Register

/-- The place of a register in a page. -/
def place {α : Type} (register : Register α) (window : Window) : Nat :=
  window.base.toNat + register.offset.toNat

variable {kind : Kind} {register : Register kind.Value} {window : Window} (page : Page)

lemma read_of_overflow (h : kind.Overflows (register.place window)) :
    register.read window page = .error .overflow page := by
  cases kind with
  | byte => exact window.resolve_bind_of_overflow page _ (Kind.overflows_byte_iff.mp h)
  | word =>
    exact window.readWord_of_overflow page ((Kind.overflows_iff_of_ne_byte (by decide)).mp h)
  | signed =>
    have hword := window.readWord_of_overflow page
      ((Kind.overflows_iff_of_ne_byte (by decide)).mp h)
    show EStateM.map _ _ page = _
    simp only [EStateM.map, hword]

lemma write_of_overflow (value : kind.Value) (h : kind.Overflows (register.place window)) :
    register.write value window page = .error .overflow page := by
  cases kind with
  | byte => exact window.resolve_bind_of_overflow page _ (Kind.overflows_byte_iff.mp h)
  | word =>
    exact window.writeWord_of_overflow page value
      ((Kind.overflows_iff_of_ne_byte (by decide)).mp h)
  | signed =>
    exact window.writeWord_of_overflow page (Int32.toUInt32 value)
      ((Kind.overflows_iff_of_ne_byte (by decide)).mp h)

section

variable (hsmall : ¬ kind.Overflows (register.place window))
  (hover : 4096 < register.place window + kind.width)

include hsmall hover

lemma read_of_overrun : register.read window page = .error .bounds page := by
  cases kind with
  | byte =>
    exact window.readByte_of_overrun page (Nat.not_le.mp (mt Kind.overflows_byte_iff.mpr hsmall))
      (Nat.le_of_lt_succ hover)
  | word =>
    exact window.readWord_of_overrun page (Kind.lt_of_not_overflows (by decide) hsmall) hover
  | signed =>
    have hword := window.readWord_of_overrun page
      (Kind.lt_of_not_overflows (by decide) hsmall) hover
    show EStateM.map _ _ page = _
    simp only [EStateM.map, hword]

lemma write_of_overrun (value : kind.Value) :
    register.write value window page = .error .bounds page := by
  cases kind with
  | byte =>
    exact window.writeByte_of_overrun page (Nat.not_le.mp (mt Kind.overflows_byte_iff.mpr hsmall))
      (Nat.le_of_lt_succ hover) value
  | word =>
    exact window.writeWord_of_overrun page (Kind.lt_of_not_overflows (by decide) hsmall) hover
      value
  | signed =>
    exact window.writeWord_of_overrun page (Kind.lt_of_not_overflows (by decide) hsmall) hover
      (Int32.toUInt32 value)

end

section

variable (hfit : register.place window + kind.width ≤ 4096)

include hfit

lemma read_of_fits :
    register.read window page =
      .ok (LawfulStored.decode (page.slice (register.place window) kind.width)) page :=
  LawfulStored.load_eq window register.offset page hfit

lemma write_of_fits (value : kind.Value) :
    register.write value window page =
      .ok () (page.patch (register.place window) (LawfulStored.encode value)) :=
  LawfulStored.store_eq window register.offset value page hfit

end

variable (register window)

/-- An access aborts whatever the page holds and whatever is stored, or the register lies inside of
the page. -/
lemma aborts_or_fits :
    (∃ abort, ∀ page, register.read window page = .error abort page ∧
      ∀ value, register.write value window page = .error abort page) ∨
    register.place window + kind.width ≤ 4096 := by
  by_cases hoverflow : kind.Overflows (register.place window)
  · exact .inl ⟨.overflow, fun page => ⟨read_of_overflow page hoverflow,
      fun value => write_of_overflow page value hoverflow⟩⟩
  by_cases hover : 4096 < register.place window + kind.width
  · exact .inl ⟨.bounds, fun page => ⟨read_of_overrun page hoverflow hover,
      fun value => write_of_overrun page hoverflow hover value⟩⟩
  · exact .inr (Nat.not_lt.mp hover)

lemma read_checked : kind.Checked (register.place window) page (register.read window page) :=
  .of_cases (read_of_overflow page) (read_of_overrun page)
    fun hfit => ⟨_, _, read_of_fits page hfit⟩

lemma write_checked (value : kind.Value) :
    kind.Checked (register.place window) page (register.write value window page) :=
  .of_cases (write_of_overflow page value)
    (fun hsmall hover => write_of_overrun page hsmall hover value)
    fun hfit => ⟨_, _, write_of_fits page hfit value⟩

/-! ## What loads and stores do -/

variable {register window page}

lemma spec_of_read {found : kind.Value} {after : Page}
    (hread : register.read window page = .ok found after) :
    register.place window + kind.width ≤ 4096 ∧ after = page ∧
      found = LawfulStored.decode (page.slice (register.place window) kind.width) := by
  have hfit := ((register.read_checked window page).ok_iff.mp ⟨found, after, hread⟩).2
  rw [read_of_fits page hfit] at hread
  cases hread
  exact ⟨hfit, rfl, rfl⟩

lemma spec_of_write {value : kind.Value} {after : Page}
    (hwrite : register.write value window page = .ok () after) :
    register.place window + kind.width ≤ 4096 ∧
      after = page.patch (register.place window) (LawfulStored.encode value) := by
  have hfit := ((register.write_checked window page value).ok_iff.mp ⟨(), after, hwrite⟩).2
  rw [write_of_fits page hfit] at hwrite
  cases hwrite
  exact ⟨hfit, rfl⟩

/-- A store that aborts has stored nothing. -/
lemma unchanged_of_write_error {value : kind.Value} {abort : Abort} {after : Page}
    (hwrite : register.write value window page = .error abort after) : after = page := by
  rcases register.aborts_or_fits window with ⟨_, haborts⟩ | hfit
  · rw [(haborts page).2] at hwrite
    cases hwrite
    rfl
  · rw [write_of_fits page hfit] at hwrite
    cases hwrite

section

variable {value : kind.Value} {after : Page}
  (hwrite : register.write value window page = .ok () after)

include hwrite

lemma read_of_written : register.read window after = .ok value after := by
  obtain ⟨hfit, rfl⟩ := spec_of_write hwrite
  have hslice := page.slice_patch (register.place window) (LawfulStored.encode value)
    (by rw [Kind.length_encode]; exact hfit)
  rw [Kind.length_encode] at hslice
  rw [read_of_fits _ hfit, hslice, LawfulStored.decode_encode]

lemma get_of_written {i : Fin pageSize}
    (hout : i.val < register.place window ∨ register.place window + kind.width ≤ i.val) :
    after.get i = page.get i := by
  obtain ⟨-, rfl⟩ := spec_of_write hwrite
  rw [← Page.byteAt_of_lt _ i.isLt, ← Page.byteAt_of_lt _ i.isLt]
  exact Page.byteAt_patch_apart page _ _ (by rw [Kind.length_encode]; exact hout)

lemma byteAt_of_written {k : Nat} (hk : k < kind.width) :
    register.place window + k < 4096 ∧
      after.byteAt (register.place window + k) = kind.digit value k := by
  obtain ⟨hfit, rfl⟩ := spec_of_write hwrite
  have hplace : register.place window + k < 4096 := by omega
  refine ⟨hplace, ?_⟩
  rw [Page.byteAt_patch page _ _ (by rw [Kind.length_encode]; exact hk) hplace,
    Kind.getElem_encode]

/-- The bytes of a stored value, as single bytes of the page and of any window show them. -/
lemma readByte_of_written {k : Nat} (hk : k < kind.width) :
    (∀ spot : UInt64, spot.toNat = register.place window + k →
      Page.readByte spot after = .ok (kind.digit value k) after) ∧
    ∀ (view : Window) (spot : UInt64),
      view.base.toNat + spot.toNat = register.place window + k →
      view.readByte spot after = .ok (kind.digit value k) after := by
  obtain ⟨hplace, hbyte⟩ := byteAt_of_written hwrite hk
  refine ⟨fun spot hspot => ?_, fun view spot hspot => ?_⟩
  · rw [← hspot] at hplace hbyte
    rw [after.readByte_of_fits hplace, hbyte]
  · rw [← hspot] at hplace hbyte
    rw [view.readByte_eq spot after hplace, hbyte]

end

lemma write_of_read {found : kind.Value} {after : Page}
    (hread : register.read window page = .ok found after) :
    after = page ∧ register.write found window page = .ok () page := by
  obtain ⟨hfit, rfl, rfl⟩ := spec_of_read hread
  refine ⟨rfl, ?_⟩
  rw [write_of_fits _ hfit, kind.encode_decode_slice, Page.patch_slice]

/-- Registers that have no byte in common can be stored in either order. -/
lemma write_comm {other : Kind} {neighbour : Register other.Value} {view : Window}
    {value : kind.Value} {content : other.Value} {first second : Page}
    (hapart : register.place window + kind.width ≤ neighbour.place view ∨
      neighbour.place view + other.width ≤ register.place window)
    (hfirst : register.write value window page = .ok () first)
    (hsecond : neighbour.write content view page = .ok () second) :
    ∃ both, neighbour.write content view first = .ok () both ∧
      register.write value window second = .ok () both := by
  obtain ⟨hfit, rfl⟩ := spec_of_write hfirst
  obtain ⟨hfits, rfl⟩ := spec_of_write hsecond
  refine ⟨_, write_of_fits _ hfits content, ?_⟩
  rw [write_of_fits _ hfit, Page.patch_comm]
  rw [Kind.length_encode, Kind.length_encode]
  exact hapart.symm

variable (register window page)

/-- Of two stores to one register the later counts. -/
lemma write_write (earlier value : kind.Value) :
    (do register.write earlier window; register.write value window) page =
      register.write value window page := by
  rcases register.aborts_or_fits window with ⟨_, haborts⟩ | hfit
  · simp only [bind, EStateM.bind, (haborts page).2]
  · simp only [bind, EStateM.bind, write_of_fits _ hfit]
    rw [Page.patch_patch _ _ ((Kind.length_encode earlier).trans (Kind.length_encode value).symm)]

variable {register window page}

/-- A change stores the image of what a load gives. -/
lemma modify_of_read {found : kind.Value} {after : Page} (f : kind.Value → kind.Value)
    (hread : register.read window page = .ok found after) :
    register.modify f window page = register.write (f found) window page := by
  obtain ⟨-, rfl, -⟩ := spec_of_read hread
  simp only [modify, bind, EStateM.bind, hread]

/-- A change of what cannot be read changes nothing. -/
lemma modify_of_read_error {abort : Abort} {after : Page} (f : kind.Value → kind.Value)
    (hread : register.read window page = .error abort after) :
    register.modify f window page = .error abort page := by
  rcases register.aborts_or_fits window with ⟨_, haborts⟩ | hfit
  · rw [(haborts page).1] at hread
    cases hread
    simp only [modify, bind, EStateM.bind, (haborts page).1]
  · rw [read_of_fits page hfit] at hread
    cases hread

end Register

/-- An access to a register at any place aborts exactly if one of its sums is too large or if the
register does not lie inside of the page, and a store that aborts changes nothing. What was stored
is read back, signed values included; it stands in the page least significant byte first, and all
other bytes are as before. Storing what was read changes nothing, the later of two stores to a
register counts, and stores to registers that have no byte in common may be made in either order.
A change of a register stores the image of its old value. -/
theorem register_window_laws (kind : Register.Kind) (register : Register kind.Value)
    (window : Window) (page : Page) (value : kind.Value) :
    kind.Checked (register.place window) page (register.read window page) ∧
    kind.Checked (register.place window) page (register.write value window page) ∧
    (∀ abort after, register.write value window page = .error abort after → after = page) ∧
    (∀ after, register.write value window page = .ok () after →
      register.read window after = .ok value after ∧
      (∀ i, i.val < register.place window ∨ register.place window + kind.width ≤ i.val →
        after.get i = page.get i) ∧
      ∀ k < kind.width,
        (∀ spot : UInt64, spot.toNat = register.place window + k →
          Page.readByte spot after = .ok (kind.digit value k) after) ∧
        ∀ (view : Window) (spot : UInt64),
          view.base.toNat + spot.toNat = register.place window + k →
          view.readByte spot after = .ok (kind.digit value k) after) ∧
    (∀ found after, register.read window page = .ok found after →
      after = page ∧ register.write found window page = .ok () page) ∧
    (∀ earlier, (do register.write earlier window; register.write value window) page =
      register.write value window page) ∧
    (∀ (other : Register.Kind) (neighbour : Register other.Value) (view : Window)
        (content : other.Value) (first second : Page),
      register.place window + kind.width ≤ neighbour.place view ∨
        neighbour.place view + other.width ≤ register.place window →
      register.write value window page = .ok () first →
      neighbour.write content view page = .ok () second →
      ∃ both, neighbour.write content view first = .ok () both ∧
        register.write value window second = .ok () both) ∧
    ∀ f,
      (∀ found after, register.read window page = .ok found after →
        register.modify f window page = register.write (f found) window page) ∧
      ∀ abort after, register.read window page = .error abort after →
        register.modify f window page = .error abort page := by
  refine ⟨register.read_checked window page, register.write_checked window page value,
    fun _ _ => Register.unchanged_of_write_error, fun after hwrite => ?_,
    fun _ _ => Register.write_of_read,
    fun earlier => register.write_write window page earlier value,
    fun _ _ _ _ _ _ => Register.write_comm,
    fun f => ⟨fun _ _ => Register.modify_of_read f, fun _ _ => Register.modify_of_read_error f⟩⟩
  exact ⟨Register.read_of_written hwrite, fun _ => Register.get_of_written hwrite,
    fun _ => Register.readByte_of_written hwrite⟩

/-- The least signed value fits into the last four bytes of a page and into no later place. Where
the end of a word is too large a sum, a byte is merely out of bounds. -/
theorem least_value_at_page_end :
    ∃ window after, Window.ofBase 4000 = .ok window ∧
      (⟨92⟩ : Register Int32).write (-0x80000000) window .zero = .ok () after ∧
      (⟨92⟩ : Register Int32).read window after = .ok (-0x80000000) after ∧
      Page.readByte 4095 after = .ok 0x80 after ∧ after.get 4091 = 0 ∧
      (⟨92⟩ : Register Int32).modify (· + 1) window after =
        (⟨92⟩ : Register Int32).write (-0x7fffffff) window after ∧
      (⟨93⟩ : Register Int32).read window after = .error .bounds after ∧
      (⟨0xfffffffffffff05c⟩ : Register Int32).write 1 window after = .error .overflow after ∧
      (⟨0xfffffffffffff05c⟩ : Register UInt8).write 1 window after = .error .bounds after := by
  let window : Window := ⟨4000, by decide⟩
  obtain ⟨-, hchecked, -, hstored, -⟩ :=
    register_window_laws .signed ⟨92⟩ window .zero (-0x80000000 : Int32)
  obtain ⟨⟨⟩, after, hwrite⟩ := hchecked.ok_iff.mpr (by decide)
  obtain ⟨hread, houtside, hbytes⟩ := hstored after hwrite
  have hlast := (hbytes 3 (by decide)).1 4095 (by decide)
  rw [show Register.Kind.signed.digit (-0x80000000 : Int32) 3 = 0x80 by decide] at hlast
  obtain ⟨-, -, -, -, -, -, -, hmodify⟩ :=
    register_window_laws .signed ⟨92⟩ window after (-0x80000000 : Int32)
  have hnext := (hmodify (fun value : Int32 => value + 1)).1 _ _ hread
  rw [show (-0x80000000 : Int32) + 1 = -0x7fffffff by decide] at hnext
  obtain ⟨hpast, -⟩ := register_window_laws .signed ⟨93⟩ window after (1 : Int32)
  obtain ⟨-, hword, -⟩ :=
    register_window_laws .signed ⟨0xfffffffffffff05c⟩ window after (1 : Int32)
  obtain ⟨-, hbyte, -⟩ :=
    register_window_laws .byte ⟨0xfffffffffffff05c⟩ window after (1 : UInt8)
  exact ⟨window, after, rfl, hwrite, hread, hlast,
    (houtside 4091 (by decide)).trans (Page.get_zero _), hnext,
    hpast.bounds_iff.mpr (by decide), hword.overflow_iff.mpr (by decide),
    hbyte.bounds_iff.mpr (by decide)⟩

end HostCalls
