import HostCalls.Abort
import HostCalls.Bytes.Runs
import HostCalls.Bytes.Word
import HostCalls.Text.Inspect

/-!
# Pages

A page is a block of 4096 bytes. Host code addresses it with 64-bit offsets: an offset
past the end aborts, and so does a word whose end cannot be computed in 64 bits. The
second check comes first. Work that aborts keeps everything it stored before.
-/
namespace HostCalls

/-- Number of bytes of a page. -/
abbrev pageSize : Nat := 4096

/-- A block of `pageSize` bytes. -/
structure Page where
  bytes : Vector UInt8 pageSize
deriving DecidableEq

/-- Work on a page that may abort. -/
abbrev PageM := EStateM Abort Page

/-- A computation that does not touch the page. -/
def PageM.ofExcept (result : Except Abort α) : PageM α := fun page =>
  match result with
  | .ok a => .ok a page
  | .error abort => .error abort page

namespace Page

/-- The page filled with zeros. -/
def zero : Page := ⟨Vector.replicate pageSize 0⟩

instance : Inhabited Page := ⟨zero⟩

/-- The byte at an index. -/
def get (page : Page) (i : Fin pageSize) : UInt8 := page.bytes[i.val]

/-- The page with one byte replaced. -/
def set (page : Page) (i : Fin pageSize) (value : UInt8) : Page :=
  ⟨page.bytes.set i.val value i.isLt⟩

theorem get_set (page : Page) (i j : Fin pageSize) (value : UInt8) :
    (page.set i value).get j = if i = j then value else page.get j := by
  simp only [get, set, Vector.getElem_set, Fin.ext_iff]

@[simp]
theorem get_zero (i : Fin pageSize) : zero.get i = 0 := by
  simp only [get, zero, Vector.getElem_replicate]

theorem ext_get {p q : Page} (h : ∀ i, p.get i = q.get i) : p = q := by
  obtain ⟨p⟩ := p
  obtain ⟨q⟩ := q
  congr 1
  exact Vector.ext fun i hi => h ⟨i, hi⟩

/-- The word whose first byte has index `i`. -/
def getWord (page : Page) (i : Nat) (hfit : i + 3 < pageSize) : UInt32 :=
  Word.ofBytes (page.get ⟨i, by omega⟩) (page.get ⟨i + 1, by omega⟩) (page.get ⟨i + 2, by omega⟩)
    (page.get ⟨i + 3, hfit⟩)

/-- The page with the word at index `i` replaced. -/
def setWord (page : Page) (i : Nat) (hfit : i + 3 < pageSize) (value : UInt32) : Page :=
  (((page.set ⟨i, by omega⟩ (Word.byte value 0)).set ⟨i + 1, by omega⟩ (Word.byte value 1)).set
    ⟨i + 2, by omega⟩ (Word.byte value 2)).set ⟨i + 3, hfit⟩ (Word.byte value 3)

/-- Reads the byte at an offset. -/
def readByte (offset : UInt64) : PageM UInt8 := fun page =>
  if hinside : offset.toNat < pageSize then .ok (page.get ⟨offset.toNat, hinside⟩) page
  else .error .bounds page

/-- Stores a byte at an offset. -/
def writeByte (offset : UInt64) (value : UInt8) : PageM Unit := fun page =>
  if hinside : offset.toNat < pageSize then .ok () (page.set ⟨offset.toNat, hinside⟩ value)
  else .error .bounds page

/-- Reads the little-endian word that starts at an offset. -/
def readWord (offset : UInt64) : PageM UInt32 := do
  let _ ← PageM.ofExcept (checkedAdd offset (.ofNat Word.size))
  fun page =>
    if hfit : offset.toNat + 3 < pageSize then .ok (page.getWord offset.toNat hfit) page
    else .error .bounds page

/-- Stores a word at an offset, least significant byte first. -/
def writeWord (offset : UInt64) (value : UInt32) : PageM Unit := do
  let _ ← PageM.ofExcept (checkedAdd offset (.ofNat Word.size))
  fun page =>
    if hfit : offset.toNat + 3 < pageSize then .ok () (page.setWord offset.toNat hfit value)
    else .error .bounds page

/-- All bytes of the page. -/
def toBytes (page : Page) : Bytes := page.bytes.toList

/-- The non-zero content of the page. -/
def runs (page : Page) : List Run := nonZeroRuns 0 page.toBytes

/-- The inspection text of a page, which only counts its non-zero bytes. -/
def inspect (page : Page) : String :=
  Inspect.record "Page" [("non_zero_bytes", toString (page.toBytes.countP (· ≠ 0)))]

end Page

end HostCalls
