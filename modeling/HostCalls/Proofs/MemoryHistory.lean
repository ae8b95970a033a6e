import HostCalls.Proofs.Access
import HostCalls.Proofs.PageBytes
import HostCalls.Proofs.Session

/-!
# Memory as the sum of its history

What a page permits and what a byte holds follows from what has happened to them, and from nothing
else. A history lists single events, the newest first. The mapping of a page is what its last
mapping event made it, and a byte is the last one stored at its address since the page was newly
mapped. A write is recorded byte by byte, up to the first byte that may not be stored. The pages,
their order and the way in which a write crosses them do not occur.
-/
namespace HostCalls

/-- What can happen to a page or to a byte. -/
inductive MemoryEvent where
  /-- A page that was not mapped was mapped. -/
  | mapped (page : Nat) (permissions : Permissions)
  /-- A mapped page was given other permissions. -/
  | changed (page : Nat) (permissions : Permissions)
  | unmapped (page : Nat)
  | stored (addr : Nat) (value : UInt8)

namespace MemoryEvent

/-- What the event makes of the mapping of a page; nothing if it is not about it. -/
def mapping? (page : Nat) : MemoryEvent → Option (Option Permissions)
  | mapped index permissions => if index = page then some (some permissions) else none
  | changed index permissions => if index = page then some (some permissions) else none
  | unmapped index => if index = page then some none else none
  | stored _ _ => none

/-- Whether the event maps a page that was not mapped. -/
def mapsNewly (page : Nat) : MemoryEvent → Bool
  | mapped index _ => index = page
  | _ => false

/-- The byte that the event puts at an address. -/
def stored? (addr : Nat) : MemoryEvent → Option UInt8
  | stored place value => if place = addr then some value else none
  | _ => none

end MemoryEvent

/-- The events since a memory of `npages` pages was made, the newest first. -/
structure MemoryHistory where
  npages : Nat
  events : List MemoryEvent

namespace MemoryHistory

/-- What the last event about the mapping of a page made it; nothing if there was none. -/
def lastMapping? (history : MemoryHistory) (page : Nat) : Option (Option Permissions) :=
  history.events.findSome? (·.mapping? page)

/-- The last thing that happened to the mapping of a page is that it was unmapped. -/
def LastUnmapped (history : MemoryHistory) (page : Nat) : Prop :=
  history.lastMapping? page = some none

instance (history : MemoryHistory) (page : Nat) : Decidable (history.LastUnmapped page) := by
  unfold LastUnmapped
  infer_instance

/-- What a page permits, if it is mapped. In the beginning all pages may be read and written. -/
def permissions? (history : MemoryHistory) (page : Nat) : Option Permissions :=
  (history.lastMapping? page).getD (if page < history.npages then some .all else none)

/-- The last byte stored at an address since its page was newly mapped; zero if there is none. -/
def lastStored (history : MemoryHistory) (addr : Nat) : UInt8 :=
  ((history.events.takeWhile fun event => !event.mapsNewly (addr / pageSize)).findSome?
    (·.stored? addr)).getD 0

/-- Whether a byte may be stored at an address. -/
def writable (history : MemoryHistory) (addr : Nat) : Bool :=
  addr < 0x100000000 && (history.permissions? (addr / pageSize)).any (·.write)

/-- One more event. -/
def add (history : MemoryHistory) (event : MemoryEvent) : MemoryHistory :=
  { history with events := event :: history.events }

/-- The bytes of a write, one after the other, up to the first that may not be stored. -/
def write (history : MemoryHistory) (start : Nat) (data : Bytes) : MemoryHistory :=
  { history with
    events := (((data.zipIdx start).takeWhile fun cell => history.writable cell.2).map
      fun cell => .stored cell.2 cell.1).reverse ++ history.events }

/-- The history after an operation. -/
def after (history : MemoryHistory) : MemoryOperation → MemoryHistory
  | .map index permissions =>
    match history.permissions? index.toNat with
    | none => history.add (.mapped index.toNat permissions)
    | some _ => history.add (.changed index.toNat permissions)
  | .unmap index => history.add (.unmapped index.toNat)
  | .writeByte addr value => history.write addr.toNat [value]
  | .writeWord addr value => history.write addr.toNat (Word.toBytes value)
  | .writeBytes addr data => history.write addr.toNat data

/-- The history of a memory that was made with `npages` pages. -/
def ofOperations (npages : Nat) (operations : List MemoryOperation) : MemoryHistory :=
  operations.foldl after ⟨npages, []⟩

@[simp] theorem permissions?_add (history : MemoryHistory) (event : MemoryEvent) (page : Nat) :
    (history.add event).permissions? page =
      (event.mapping? page).getD (history.permissions? page) := by
  simp only [permissions?, lastMapping?, add, List.findSome?_cons]
  cases event.mapping? page <;> rfl

@[simp] theorem lastStored_add (history : MemoryHistory) (event : MemoryEvent) (addr : Nat) :
    (history.add event).lastStored addr =
      if event.mapsNewly (addr / pageSize) then 0
      else (event.stored? addr).getD (history.lastStored addr) := by
  simp only [lastStored, add, List.takeWhile_cons]
  cases event.mapsNewly (addr / pageSize) with
  | true => simp
  | false => cases h : event.stored? addr <;> simp [h]

/-- Storing a byte makes no other byte storable, or not storable. -/
lemma writable_add_stored (history : MemoryHistory) (addr : Nat) (value : UInt8) :
    (history.add (.stored addr value)).writable = history.writable := by
  funext other
  simp only [writable, permissions?_add, MemoryEvent.mapping?, Option.getD_none]

lemma permissions?_after_map (history : MemoryHistory) (index : UInt64) (permissions : Permissions)
    (page : Nat) :
    (history.after (.map index permissions)).permissions? page =
      if index.toNat = page then some permissions else history.permissions? page := by
  simp only [after]
  split
  · rw [permissions?_add, MemoryEvent.mapping?]
    split_ifs <;> rfl
  · rw [permissions?_add, MemoryEvent.mapping?]
    split_ifs <;> rfl

/-- Only a page that was not mapped loses its content when it is mapped. -/
lemma lastStored_after_map (history : MemoryHistory) (index : UInt64) (permissions : Permissions)
    (addr : Nat) :
    (history.after (.map index permissions)).lastStored addr =
      if index.toNat = addr / pageSize ∧ history.permissions? index.toNat = none then 0
      else history.lastStored addr := by
  simp only [after]
  cases hmapping : history.permissions? index.toNat with
  | none => simp [MemoryEvent.mapsNewly, MemoryEvent.stored?]
  | some old => simp [MemoryEvent.mapsNewly, MemoryEvent.stored?]

lemma npages_after (history : MemoryHistory) (operation : MemoryOperation) :
    (history.after operation).npages = history.npages := by
  cases operation with
  | map index permissions =>
    simp only [after]
    split <;> rfl
  | _ => rfl

lemma npages_ofOperations (npages : Nat) (operations : List MemoryOperation) :
    (ofOperations npages operations).npages = npages := by
  have hkept (history : MemoryHistory) :
      (operations.foldl after history).npages = history.npages := by
    induction operations generalizing history with
    | nil => rfl
    | cons operation rest ih =>
      rw [List.foldl_cons, ih, npages_after]
  exact hkept ⟨npages, []⟩

lemma write_nil (history : MemoryHistory) (start : Nat) : history.write start [] = history := by
  simp [write]

lemma write_cons_of_writable {history : MemoryHistory} {start : Nat}
    (h : history.writable start = true) (b : UInt8) (rest : Bytes) :
    history.write start (b :: rest) = (history.add (.stored start b)).write (start + 1) rest := by
  simp only [write, writable_add_stored, List.zipIdx_cons, List.takeWhile_cons, h, if_true,
    List.map_cons, List.reverse_cons, List.append_assoc, List.singleton_append]
  rfl

lemma write_cons_of_not_writable {history : MemoryHistory} {start : Nat}
    (h : history.writable start = false) (b : UInt8) (rest : Bytes) :
    history.write start (b :: rest) = history := by
  simp [write, h]

end MemoryHistory

/-! ## Mapping and storing -/

namespace PagedMemory

/-- There is memory exactly for the numbers of pages that fit into the address space. -/
lemma new_ok_iff (npages : UInt64) :
    (∃ memory, new npages = .ok memory) ↔ npages.toNat ≤ 0x100000 := by
  have hsize : npages.toNat * pageSize ≤ 0x100000000 ↔ npages.toNat ≤ 0x100000 := by
    show npages.toNat * 4096 ≤ 0x100000000 ↔ npages.toNat ≤ 0x100000
    omega
  rw [← hsize]
  unfold new
  split_ifs with hfits
  · simp [hfits]
  · simp [hfits]

lemma mapped?_of_ge (memory : PagedMemory) {page : Nat} (h : memory.npages ≤ page) :
    memory.mapped? page = none := by
  have hnone : memory.pages[page]? = none := Array.getElem?_eq_none h
  rw [mapped?, hnone, Option.join_none]

/-- The memory after a page was mapped. If it was mapped before, it keeps its content. -/
lemma map_of_lt (memory : PagedMemory) {index : UInt64} (h : index.toNat < memory.npages)
    (permissions : Permissions) :
    ∃ after, memory.map index permissions = .ok after ∧ after.npages = memory.npages ∧
      ∀ page, after.mapped? page =
        if index.toNat = page then
          some ⟨permissions, ((memory.mapped? page).map (·.page)).getD .zero⟩
        else memory.mapped? page := by
  refine ⟨_, if_pos h, npages_modifyPage _ _ _, ?_⟩
  intro page
  rw [mapped?_modifyPage memory h]
  split_ifs with hpage
  · cases memory.mapped? page <;> rfl
  · rfl

lemma unmap_of_lt (memory : PagedMemory) {index : UInt64} (h : index.toNat < memory.npages) :
    ∃ after, memory.unmap index = .ok after ∧ after.npages = memory.npages ∧
      ∀ page, after.mapped? page = if index.toNat = page then none else memory.mapped? page := by
  refine ⟨_, if_pos h, npages_modifyPage _ _ _, ?_⟩
  intro page
  rw [mapped?_modifyPage memory h]

end PagedMemory

/-! ## The memory that a history describes -/

namespace MemoryHistory

/-- The history tells the number of pages, the mapping of each page and every byte of a mapped
page. -/
structure Describes (history : MemoryHistory) (memory : PagedMemory) : Prop where
  npages : memory.npages = history.npages
  permissions : ∀ page, (memory.mapped? page).map (·.permissions) = history.permissions? page
  content : ∀ addr mapped, memory.mapped? (addr / pageSize) = some mapped →
    mapped.page.byteAt (addr % pageSize) = history.lastStored addr

namespace Describes

variable {history : MemoryHistory} {memory : PagedMemory}

/-- In the beginning every page may be read and written and holds zeros. -/
lemma start {npages : UInt64} (h : PagedMemory.new npages = .ok memory) :
    Describes ⟨npages.toNat, []⟩ memory := by
  unfold PagedMemory.new at h
  split_ifs at h with hfits
  cases h
  have hmapped (page : Nat) :
      (PagedMemory.mk (Array.replicate npages.toNat (some ⟨.all, .zero⟩))
        (by simpa using hfits)).mapped? page =
          if page < npages.toNat then some ⟨.all, .zero⟩ else none := by
    rw [PagedMemory.mapped?, Array.getElem?_replicate]
    split_ifs <;> rfl
  refine ⟨by simp [PagedMemory.npages], ?_, ?_⟩
  · intro page
    rw [hmapped]
    simp only [permissions?, lastMapping?, List.findSome?_nil, Option.getD_none]
    split_ifs <;> rfl
  · intro addr mapped hpage
    rw [hmapped] at hpage
    split_ifs at hpage
    cases hpage
    rw [Page.byteAt_of_lt _ (Nat.mod_lt addr (by decide)), Page.get_zero]
    rfl

/-- Mapping a page is an event of that page only. -/
lemma map (h : history.Describes memory) {index : UInt64} (hin : index.toNat < memory.npages)
    (permissions : Permissions) :
    ∃ after, memory.map index permissions = .ok after ∧
      (history.after (.map index permissions)).Describes after := by
  obtain ⟨after, hmap, hnpages, hmapped⟩ := memory.map_of_lt hin permissions
  refine ⟨after, hmap, ?_, ?_, ?_⟩
  · rw [hnpages, npages_after, h.npages]
  · intro page
    rw [hmapped, permissions?_after_map, ← h.permissions]
    split_ifs <;> rfl
  · intro addr mapped hfound
    rw [hmapped] at hfound
    rw [lastStored_after_map, ← h.permissions]
    by_cases hsame : index.toNat = addr / pageSize
    · rw [if_pos hsame] at hfound
      cases hfound
      rw [hsame]
      cases hpage : memory.mapped? (addr / pageSize) with
      | none =>
        -- the page is new, so that there are only zeros
        simp [Page.byteAt_of_lt _ (Nat.mod_lt addr _)]
      | some old => simpa using h.content addr old hpage
    · rw [if_neg hsame] at hfound
      rw [if_neg (fun hnew => hsame hnew.1)]
      exact h.content addr mapped hfound

lemma unmap (h : history.Describes memory) {index : UInt64} (hin : index.toNat < memory.npages) :
    ∃ after, memory.unmap index = .ok after ∧ (history.after (.unmap index)).Describes after := by
  obtain ⟨after, hunmap, hnpages, hmapped⟩ := memory.unmap_of_lt hin
  refine ⟨after, hunmap, hnpages.trans h.npages, ?_, ?_⟩
  · intro page
    simp only [MemoryHistory.after, permissions?_add, MemoryEvent.mapping?, hmapped,
      ← h.permissions]
    split_ifs <;> rfl
  · intro addr mapped hfound
    rw [hmapped] at hfound
    split_ifs at hfound
    simpa [MemoryHistory.after, MemoryEvent.mapsNewly, MemoryEvent.stored?] using
      h.content addr mapped hfound

lemma store (h : history.Describes memory) (addr : UInt32) (b : UInt8) :
    (history.add (.stored addr.toNat b)).Describes (memory.store addr b) := by
  refine ⟨(PagedMemory.npages_store memory addr b).trans h.npages, ?_, ?_⟩
  · intro page
    simp only [permissions?_add, MemoryEvent.mapping?, Option.getD_none, ← h.permissions,
      PagedMemory.mapped?_store]
    split_ifs
    · cases memory.mapped? page <;> rfl
    · rfl
  · intro other mapped hfound
    have hplace : addr.toNat = other ↔
        PagedMemory.pageOf addr = other / pageSize ∧
          (PagedMemory.indexOf addr).val = other % pageSize := by
      show addr.toNat = other ↔ addr.toNat / 4096 = other / 4096 ∧ addr.toNat % 4096 = other % 4096
      omega
    simp only [lastStored_add, MemoryEvent.mapsNewly, MemoryEvent.stored?, Bool.false_eq_true,
      if_false]
    rw [PagedMemory.mapped?_store] at hfound
    by_cases hpage : PagedMemory.pageOf addr = other / pageSize
    · rw [if_pos hpage, Option.map_eq_some_iff] at hfound
      obtain ⟨old, hold, rfl⟩ := hfound
      have hcontent := h.content other old hold
      simp only [Page.byteAt_set, hplace, hpage, true_and, hcontent]
      split_ifs <;> rfl
    · have hne : addr.toNat ≠ other := fun hsame => hpage (hplace.mp hsame).1
      rw [if_neg hpage] at hfound
      rw [if_neg hne, Option.getD_none]
      exact h.content other mapped hfound

/-- A byte may be stored exactly if the access is permitted. -/
lemma check_ok_iff (h : history.Describes memory) (addr : UInt32) :
    (∃ mapped, memory.check addr .writeOnly = .ok mapped) ↔ history.writable addr.toNat = true := by
  have hlt := addr.toNat_lt
  have hpermissions := h.permissions (PagedMemory.pageOf addr)
  rw [memory.check_ok_iff, PagedMemory.allows, PagedMemory.permissions?_pageOf, hpermissions]
  simp [writable, PagedMemory.pageOf, hlt]

/-- A write that faults is recorded up to the fault, and one that does not is recorded whole. -/
lemma write (h : history.Describes memory) (addr : UInt32) (i : Nat) (data : Bytes) :
    (history.write (addr.toNat + i) data).Describes
      (PagedMemory.left (PagedMemory.writeFrom addr i data memory)) := by
  induction data generalizing history memory i with
  | nil =>
    rw [write_nil]
    exact h
  | cons b rest ih =>
    simp only [PagedMemory.writeFrom]
    cases haddr : addressAt addr i with
    | error fault =>
      have hend : history.writable (addr.toNat + i) = false := by
        by_contra hwritable
        simp only [writable, Bool.not_eq_false, Bool.and_eq_true, decide_eq_true_eq] at hwritable
        obtain ⟨here, hhere, _⟩ := PagedMemory.addressAt_of_lt hwritable.1
        cases haddr.symm.trans hhere
      rw [write_cons_of_not_writable hend]
      exact h
    | ok here =>
      have hhere := addressAt_ok haddr
      have hcheck := h.check_ok_iff here
      simp only [bind, EStateM.bind, PagedMemory.writeByte]
      rw [← hhere]
      cases hresult : memory.check here .writeOnly with
      | error fault =>
        have hnot : history.writable here.toNat = false := by
          rw [← Bool.not_eq_true, ← hcheck, hresult]
          simp
        rw [write_cons_of_not_writable hnot]
        exact h
      | ok mapped =>
        rw [write_cons_of_writable (hcheck.mp ⟨mapped, hresult⟩)]
        have hrest := ih (h.store here b) (i + 1)
        rwa [← Nat.add_assoc, ← hhere] at hrest

/-- What a read comes to, by the history alone. -/
lemma readByte (h : history.Describes memory) (addr : UInt32) :
    memory.readByte addr =
      match history.permissions? (addr.toNat / pageSize) with
      | none => .error ⟨.outOfRange, addr⟩
      | some permissions =>
        if permissions.read then .ok (history.lastStored addr.toNat)
        else .error ⟨.protection, addr⟩ := by
  rw [← h.permissions, PagedMemory.readByte, PagedMemory.check]
  have hpage : PagedMemory.pageOf addr = addr.toNat / pageSize := rfl
  rw [hpage]
  cases hmapped : memory.mapped? (addr.toNat / pageSize) with
  | none => rfl
  | some mapped =>
    have hcontent := h.content addr.toNat mapped hmapped
    rw [Page.byteAt_of_lt _ (Nat.mod_lt _ (by decide))] at hcontent
    simp only [Permissions.contains_readOnly, Option.map_some]
    split_ifs
    · exact congrArg Except.ok hcontent
    · rfl

/-- A page is not mapped if there is no such page, or if unmapping was the last thing done to it. -/
lemma permissions?_eq_none_iff (h : history.Describes memory) (page : Nat) :
    history.permissions? page = none ↔ history.npages ≤ page ∨ history.LastUnmapped page := by
  constructor
  · intro hnone
    unfold permissions? at hnone
    cases hlast : history.lastMapping? page with
    | none =>
      rw [hlast, Option.getD_none] at hnone
      split_ifs at hnone with hlt
      exact .inl (Nat.not_lt.mp hlt)
    | some mapping =>
      rw [hlast, Option.getD_some] at hnone
      exact .inr (hlast.trans (congrArg some hnone))
  · rintro (hge | hlast)
    · rw [← h.npages] at hge
      rw [← h.permissions, memory.mapped?_of_ge hge, Option.map_none]
    · rw [permissions?, hlast, Option.getD_some]

end Describes

end MemoryHistory

/-! ## Operations -/

namespace MemoryOperation

/-- The pages that are mapped or unmapped are among those that there are. -/
def InRange (npages : Nat) : MemoryOperation → Prop
  | map index _ => index.toNat < npages
  | unmap index => index.toNat < npages
  | _ => True

/-- The operation is about a page: it maps or unmaps it, or it writes to an address on it. -/
def Touches (page : Nat) : MemoryOperation → Prop
  | map index _ => index.toNat = page
  | unmap index => index.toNat = page
  | writeByte addr _ => addr.toNat / pageSize = page
  | writeWord addr _ => ∃ k < Word.size, (addr.toNat + k) / pageSize = page
  | writeBytes addr data => ∃ k < data.length, (addr.toNat + k) / pageSize = page

/-- One operation after the other. -/
def run (memory : PagedMemory) (operations : List MemoryOperation) : Except Abort PagedMemory :=
  operations.foldlM (fun memory operation => operation.apply memory) memory

end MemoryOperation

namespace PagedMemory

/-- A single byte is a write of length one. -/
lemma left_writeFrom_singleton (addr : UInt32) (b : UInt8) (memory : PagedMemory) :
    left (writeFrom addr 0 [b] memory) = left (writeByte addr b memory) := by
  have haddr : addressAt addr 0 = .ok addr := by
    have hlt := addr.toNat_lt
    simp [addressAt, hlt]
  simp only [writeFrom, haddr, bind, EStateM.bind]
  cases writeByte addr b memory <;> rfl

/-- A write leaves pages alone on which it has no byte. -/
lemma mapped?_writeFrom (addr : UInt32) (i : Nat) (data : Bytes) (memory : PagedMemory)
    {page : Nat} (h : ∀ k < data.length, (addr.toNat + i + k) / pageSize ≠ page) :
    (left (writeFrom addr i data memory)).mapped? page = memory.mapped? page := by
  induction data generalizing i memory with
  | nil => rfl
  | cons b rest ih =>
    simp only [writeFrom]
    cases haddr : addressAt addr i with
    | error fault => rfl
    | ok here =>
      have hhere := addressAt_ok haddr
      simp only [bind, EStateM.bind, writeByte]
      cases memory.check here .writeOnly with
      | error fault => rfl
      | ok mapped =>
        have hfirst : pageOf here ≠ page := by
          have hne := h 0 (by simp)
          rwa [Nat.add_zero, ← hhere] at hne
        have hrest := ih (i + 1) (memory.store here b) ?_
        · rw [mapped?_store, if_neg hfirst] at hrest
          exact hrest
        · intro k hk
          have hne := h (k + 1) (by simpa using hk)
          rwa [show addr.toNat + (i + 1) + k = addr.toNat + i + (k + 1) by omega]

/-- Other permissions for a mapped page change no byte, and unmap no page. -/
lemma map_of_mapped (memory : PagedMemory) {index : UInt64}
    (h : (memory.permissions? index).isSome = true) (permissions : Permissions) :
    ∃ after, memory.map index permissions = .ok after ∧
      (∀ addr, after.peek? addr = memory.peek? addr) ∧
      ∀ other, (memory.permissions? other).isSome = true →
        (after.permissions? other).isSome = true := by
  simp only [permissions?, Option.isSome_map] at h ⊢
  have hlt : index.toNat < memory.npages := by
    by_contra hge
    rw [memory.mapped?_of_ge (Nat.not_lt.mp hge)] at h
    cases h
  obtain ⟨after, hmap, _, hmapped⟩ := memory.map_of_lt hlt permissions
  refine ⟨after, hmap, ?_, ?_⟩
  · intro addr
    rw [peek?, peek?, hmapped]
    split_ifs with hpage
    · rw [hpage] at h
      obtain ⟨old, hold⟩ := Option.isSome_iff_exists.mp h
      rw [hold]
      rfl
    · rfl
  · intro other hother
    rw [hmapped]
    split_ifs
    · rfl
    · exact hother

/-- The permissions of mapped pages may be changed any number of times, and no byte changes. -/
lemma peek?_run_map (changes : List (UInt64 × Permissions)) (memory : PagedMemory)
    (h : ∀ change ∈ changes, (memory.permissions? change.1).isSome = true) :
    ∃ after, MemoryOperation.run memory (changes.map fun change => .map change.1 change.2) =
        .ok after ∧ ∀ addr, after.peek? addr = memory.peek? addr := by
  induction changes generalizing memory with
  | nil => exact ⟨memory, rfl, fun _ => rfl⟩
  | cons change rest ih =>
    obtain ⟨hfirst, hrest⟩ := List.forall_mem_cons.mp h
    obtain ⟨next, hmap, hkept, hmapped⟩ := memory.map_of_mapped hfirst change.2
    obtain ⟨after, hrun, hpeek⟩ := ih next fun later hmem => hmapped _ (hrest later hmem)
    refine ⟨after, ?_, fun addr => (hpeek addr).trans (hkept addr)⟩
    rw [List.map_cons, MemoryOperation.run, List.foldlM_cons]
    simp only [MemoryOperation.apply, hmap, ok_bind]
    exact hrun

end PagedMemory

namespace MemoryOperation

/-- What an operation does not touch stays as it is, its permissions and all its bytes. -/
lemma mapped?_apply {operation : MemoryOperation} {memory next : PagedMemory}
    (happly : operation.apply memory = .ok next) {page : Nat} (h : ¬ operation.Touches page) :
    next.mapped? page = memory.mapped? page := by
  cases operation with
  | map index permissions =>
    by_cases hlt : index.toNat < memory.npages
    · obtain ⟨after, hmap, _, hmapped⟩ := memory.map_of_lt hlt permissions
      cases hmap.symm.trans happly
      have hother : index.toNat ≠ page := h
      rw [hmapped, if_neg hother]
    · cases (if_neg hlt).symm.trans happly
  | unmap index =>
    by_cases hlt : index.toNat < memory.npages
    · obtain ⟨after, hunmap, _, hmapped⟩ := memory.unmap_of_lt hlt
      cases hunmap.symm.trans happly
      have hother : index.toNat ≠ page := h
      rw [hmapped, if_neg hother]
    · cases (if_neg hlt).symm.trans happly
  | writeByte addr value =>
    cases happly
    rw [← PagedMemory.left_writeFrom_singleton]
    apply PagedMemory.mapped?_writeFrom
    intro k hk
    have hzero : k = 0 := by simpa using hk
    rw [hzero]
    exact h
  | writeWord addr value =>
    cases happly
    apply PagedMemory.mapped?_writeFrom
    intro k hk hpage
    exact h ⟨k, hk, hpage⟩
  | writeBytes addr data =>
    cases happly
    apply PagedMemory.mapped?_writeFrom
    intro k hk hpage
    exact h ⟨k, hk, hpage⟩

end MemoryOperation

namespace MemoryHistory.Describes

variable {history : MemoryHistory} {memory : PagedMemory}

lemma apply (h : history.Describes memory) {operation : MemoryOperation}
    (hin : operation.InRange history.npages) :
    ∃ next, operation.apply memory = .ok next ∧ (history.after operation).Describes next := by
  rw [← h.npages] at hin
  cases operation with
  | map index permissions => exact h.map hin permissions
  | unmap index => exact h.unmap hin
  | writeByte addr value =>
    refine ⟨_, rfl, ?_⟩
    rw [← PagedMemory.left_writeFrom_singleton]
    exact h.write addr 0 [value]
  | writeWord addr value => exact ⟨_, rfl, h.write addr 0 (Word.toBytes value)⟩
  | writeBytes addr data => exact ⟨_, rfl, h.write addr 0 data⟩

/-- A history describes the memory at every point of a run. -/
lemma run (h : history.Describes memory) (operations : List MemoryOperation)
    (hin : ∀ operation ∈ operations, operation.InRange history.npages) :
    ∃ last, MemoryOperation.run memory operations = .ok last ∧
      (operations.foldl MemoryHistory.after history).Describes last := by
  induction operations generalizing history memory with
  | nil => exact ⟨memory, rfl, h⟩
  | cons operation rest ih =>
    obtain ⟨hfirst, hrest⟩ := List.forall_mem_cons.mp hin
    obtain ⟨next, happly, hnext⟩ := h.apply hfirst
    rw [← history.npages_after operation] at hrest
    obtain ⟨last, hrun, hlast⟩ := ih hnext hrest
    refine ⟨last, ?_, hlast⟩
    rw [MemoryOperation.run, List.foldlM_cons, happly]
    exact hrun

end MemoryHistory.Describes

/-- A memory can be made exactly with the numbers of pages that fit into the address space. Through
any operations on its pages, those that fault included, a read comes to what the history says: it is
out of range exactly if there is no such page or the page was last unmapped, it is a protection
fault exactly if the page is mapped without the permission to read, and otherwise it gives the last
byte stored there since the page was newly mapped. Permissions of mapped pages may be changed any
number of times without a change of content, and an operation leaves every page alone that it does
not touch. -/
theorem reads_follow_history (npages : UInt64) :
    ((∃ memory, PagedMemory.new npages = .ok memory) ↔ npages.toNat ≤ 0x100000) ∧
    ∀ memory, PagedMemory.new npages = .ok memory → ∀ operations : List MemoryOperation,
      (∀ operation ∈ operations, operation.InRange npages.toNat) →
      ∃ last history, MemoryOperation.run memory operations = .ok last ∧
        history = MemoryHistory.ofOperations npages.toNat operations ∧
        (∀ (addr : UInt32) (page : Nat), page = addr.toNat / 4096 →
          (last.readByte addr = .error ⟨.outOfRange, addr⟩ ↔
            npages.toNat ≤ page ∨ history.LastUnmapped page) ∧
          (last.readByte addr = .error ⟨.protection, addr⟩ ↔
            ∃ permissions, history.permissions? page = some permissions ∧
              permissions.read = false) ∧
          (¬ (npages.toNat ≤ page ∨ history.LastUnmapped page) →
            ¬ (∃ permissions, history.permissions? page = some permissions ∧
              permissions.read = false) →
            last.readByte addr = .ok (history.lastStored addr.toNat))) ∧
        (∀ changes : List (UInt64 × Permissions),
          (∀ change ∈ changes, (last.permissions? change.1).isSome = true) →
          ∃ changed, MemoryOperation.run last
              (changes.map fun change => .map change.1 change.2) = .ok changed ∧
            ∀ addr, changed.peek? addr = last.peek? addr) ∧
        ∀ (operation : MemoryOperation) (next : PagedMemory), operation.apply last = .ok next →
          ∀ page, ¬ operation.Touches page → next.mapped? page = last.mapped? page := by
  refine ⟨PagedMemory.new_ok_iff npages, ?_⟩
  intro memory hnew operations hin
  obtain ⟨last, hrun, hlast⟩ := (MemoryHistory.Describes.start hnew).run operations hin
  refine ⟨last, _, hrun, rfl, ?_, ?_, ?_⟩
  · rintro addr page rfl
    have hnpages := MemoryHistory.npages_ofOperations npages.toNat operations
    rw [← MemoryHistory.ofOperations] at hlast
    generalize MemoryHistory.ofOperations npages.toNat operations = history at hlast hnpages ⊢
    have hread := hlast.readByte addr
    have hnone := hlast.permissions?_eq_none_iff (addr.toNat / pageSize)
    rw [hnpages] at hnone
    rw [← hnone]
    cases hpage : history.permissions? (addr.toNat / pageSize) with
    | none => simp [hread, hpage]
    | some permissions => cases hallowed : permissions.read <;> simp [hread, hpage, hallowed]
  · intro changes hmapped
    exact PagedMemory.peek?_run_map changes last hmapped
  · intro operation next happly page htouches
    exact MemoryOperation.mapped?_apply happly htouches

/-- A write of three bytes that is stopped by an unmapped page after two of them, and a page that
loses all permissions and gets them back. -/
def interruptedWrite : List MemoryOperation :=
  [.unmap 1, .writeBytes 0x0ffe [1, 2, 3], .map 0 .none, .map 2 .writeOnly, .map 0 .all]

/-- The second byte of the write is there, the third is not, and neither is a fourth page. Unmapping
the first page does nothing to the third. -/
theorem interruptedWrite_read :
    ∃ memory last, PagedMemory.new 3 = .ok memory ∧
      MemoryOperation.run memory interruptedWrite = .ok last ∧
      last.readByte 0x0fff = .ok 2 ∧
      last.readByte 0x1000 = .error ⟨.outOfRange, 0x1000⟩ ∧
      last.readByte 0x2000 = .error ⟨.protection, 0x2000⟩ ∧
      last.readByte 0x3000 = .error ⟨.outOfRange, 0x3000⟩ ∧
      (∃ changed, MemoryOperation.run last [.map 0 .none, .map 0 .readOnly] = .ok changed ∧
        changed.peek? 0x0fff = last.peek? 0x0fff) ∧
      ∃ next, (MemoryOperation.unmap 0).apply last = .ok next ∧
        next.mapped? 2 = last.mapped? 2 := by
  obtain ⟨hnew, hmemory⟩ := reads_follow_history 3
  obtain ⟨memory, hmade⟩ := hnew.mpr (by decide)
  have hin : ∀ operation ∈ interruptedWrite, operation.InRange (3 : UInt64).toNat := by
    simp [interruptedWrite, MemoryOperation.InRange]
  obtain ⟨last, history, hrun, rfl, hreads, hchanges, hframe⟩ := hmemory memory hmade _ hin
  have hpages : last.npages = 3 ∧ (last.permissions? 0).isSome = true := by
    have hseen : (do
        let last ← MemoryOperation.run (← PagedMemory.new 3) interruptedWrite
        return (last.npages, (last.permissions? 0).isSome)) = .ok (3, true) := by decide +kernel
    rw [hmade] at hseen
    simp only [ok_bind, hrun] at hseen
    exact Prod.mk.inj (Except.ok.inj hseen)
  obtain ⟨hnpages, hmapped⟩ := hpages
  obtain ⟨changed, hchanged, hkept⟩ := hchanges [(0, .none), (0, .readOnly)] (by simp [hmapped])
  have hzero : (0 : UInt64).toNat < last.npages := by
    rw [hnpages]
    decide
  obtain ⟨next, hunmap, _, _⟩ := last.unmap_of_lt hzero
  refine ⟨memory, last, hmade, hrun, ?_, ?_, ?_, ?_, ⟨changed, hchanged, hkept _⟩, next, hunmap,
    hframe (.unmap 0) next hunmap 2 (by simp [MemoryOperation.Touches])⟩
  · refine (hreads 0x0fff 0 rfl).2.2 (by decide) ?_
    rintro ⟨permissions, hpermissions, hread⟩
    cases hpermissions
    cases hread
  · exact (hreads 0x1000 1 rfl).1.mpr (.inr rfl)
  · exact (hreads 0x2000 2 rfl).2.1.mpr ⟨.writeOnly, rfl, rfl⟩
  · exact (hreads 0x3000 3 rfl).1.mpr (.inl (by decide))

end HostCalls
