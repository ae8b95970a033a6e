import HostCalls.Memory.Guest
import HostCalls.Memory.Permissions
import HostCalls.Page.Basic

/-!
# Paged memory

Guest memory made of pages, each of them mapped with permissions or not mapped at all. An
access to an unmapped page is out of range; an access that a mapped page does not permit is
a protection fault. Mapping a mapped page changes its permissions and keeps its content,
mapping an unmapped one starts from zeros.
-/
namespace HostCalls

/-- A page of guest memory together with what it permits. -/
structure MappedPage where
  permissions : Permissions
  page : Page
deriving DecidableEq

/-- Guest memory of some number of pages, mapped or not. -/
structure PagedMemory where
  pages : Array (Option MappedPage)
  /-- Every byte has a 32-bit address. -/
  addressable : pages.size * pageSize ≤ 0x100000000

/-- A buffer after an attempt to fill it from memory. -/
structure Filled where
  buffer : Bytes
  result : Except Fault Unit

namespace PagedMemory

/-- Memory of `npages` pages of zeros that may be read and written. -/
def new (npages : UInt64) : Except Abort PagedMemory :=
  if hfit : npages.toNat * pageSize ≤ 0x100000000 then
    .ok ⟨Array.replicate npages.toNat (some ⟨.all, .zero⟩), by simpa using hfit⟩
  else .error .memorySize

/-- Number of pages. -/
def npages (memory : PagedMemory) : Nat := memory.pages.size

/-- The memory with one page changed. -/
def modifyPage (memory : PagedMemory) (index : Nat) (f : Option MappedPage → Option MappedPage) :
    PagedMemory :=
  ⟨memory.pages.modify index f, by simpa using memory.addressable⟩

/-- Maps a page with the given permissions. -/
def map (memory : PagedMemory) (index : UInt64) (permissions : Permissions) :
    Except Abort PagedMemory :=
  if index.toNat < memory.npages then
    .ok <| memory.modifyPage index.toNat fun
      | some mapped => some { mapped with permissions }
      | none => some ⟨permissions, .zero⟩
  else .error .bounds

/-- Unmaps a page, whose content is lost. -/
def unmap (memory : PagedMemory) (index : UInt64) : Except Abort PagedMemory :=
  if index.toNat < memory.npages then .ok (memory.modifyPage index.toNat fun _ => none)
  else .error .bounds

/-- The page with a given number, if it is mapped. -/
def mapped? (memory : PagedMemory) (index : Nat) : Option MappedPage :=
  memory.pages[index]?.join

/-- What a page permits, if it is mapped. -/
def permissions? (memory : PagedMemory) (index : UInt64) : Option Permissions :=
  (memory.mapped? index.toNat).map (·.permissions)

/-- The number of the page that holds an address. -/
def pageOf (addr : UInt32) : Nat := addr.toNat / pageSize

/-- The place of an address in its page. -/
def indexOf (addr : UInt32) : Fin pageSize :=
  ⟨addr.toNat % pageSize, Nat.mod_lt _ (by decide)⟩

/-- The page that holds an address, provided that it permits what is needed. -/
def check (memory : PagedMemory) (addr : UInt32) (needed : Permissions) :
    Except Fault MappedPage :=
  match memory.mapped? (pageOf addr) with
  | none => .error ⟨.outOfRange, addr⟩
  | some mapped =>
    if mapped.permissions.contains needed then .ok mapped else .error ⟨.protection, addr⟩

/-- The memory with the byte at an address replaced, whatever its page permits. -/
def store (memory : PagedMemory) (addr : UInt32) (value : UInt8) : PagedMemory :=
  memory.modifyPage (pageOf addr) fun
    | some mapped => some { mapped with page := mapped.page.set (indexOf addr) value }
    | none => none

/-- Reads the byte at an address. -/
def readByte (memory : PagedMemory) (addr : UInt32) : Except Fault UInt8 :=
  (memory.check addr .readOnly).map fun mapped => mapped.page.get (indexOf addr)

/-- Writes the byte at an address. -/
def writeByte (addr : UInt32) (value : UInt8) : EStateM Fault PagedMemory Unit := fun memory =>
  match memory.check addr .writeOnly with
  | .ok _ => .ok () (memory.store addr value)
  | .error fault => .error fault memory

instance : GuestMemory PagedMemory where
  readByte addr := fun memory =>
    match memory.readByte addr with
    | .ok b => .ok b memory
    | .error fault => .error fault memory
  writeByte := writeByte

/-- Fills a buffer from index `i` on. What is already filled is kept newest first; a fault leaves
the rest of the buffer as it was. -/
def fillFrom (memory : PagedMemory) (addr : UInt32) (filled : Bytes) (i : Nat) : Bytes → Filled
  | [] => ⟨filled.reverse, .ok ()⟩
  | old :: rest =>
    match addressAt addr i >>= memory.readByte with
    | .error fault => ⟨filled.reverseAux (old :: rest), .error fault⟩
    | .ok b => memory.fillFrom addr (b :: filled) (i + 1) rest

/-- Fills a buffer with the bytes from an address on. -/
def readBytes (memory : PagedMemory) (addr : UInt32) (buffer : Bytes) : Filled :=
  memory.fillFrom addr [] 0 buffer

/-- Writes bytes from index `i` on. -/
def writeFrom (addr : UInt32) (i : Nat) : Bytes → EStateM Fault PagedMemory Unit
  | [] => pure ()
  | b :: rest =>
    match addressAt addr i with
    | .error fault => throw fault
    | .ok here => do
      writeByte here b
      writeFrom addr (i + 1) rest

/-- Writes bytes from an address on. A fault leaves the bytes before it written. -/
def writeBytes (addr : UInt32) (data : Bytes) : EStateM Fault PagedMemory Unit :=
  writeFrom addr 0 data

/-- Reads the little-endian word at an address, which may lie on two pages. -/
def readWord (memory : PagedMemory) (addr : UInt32) : Except Fault UInt32 :=
  let filled := memory.readBytes addr (List.replicate Word.size 0)
  filled.result.map fun _ => Word.ofList filled.buffer

/-- Writes a word at an address, least significant byte first. -/
def writeWord (addr value : UInt32) : EStateM Fault PagedMemory Unit :=
  writeBytes addr (Word.toBytes value)

/-- Looks for runs in the next page; an unmapped one ends the open run. -/
def scanPage (scan : Run.Scan) : Option MappedPage → Run.Scan
  | some mapped => mapped.page.bytes.foldl Run.Scan.next scan
  | none => scan.skip pageSize

/-- The non-zero content of all mapped pages, whatever they permit. A run may go on from a page to
the next one. -/
def runs (memory : PagedMemory) : List Run :=
  (memory.pages.foldl scanPage ⟨0, [], []⟩).close.reverse

/-- What each page permits. -/
def permissionMap (memory : PagedMemory) : List (Option Permissions) :=
  memory.pages.toList.map (·.map (·.permissions))

end PagedMemory

end HostCalls
