import HostCalls.Call.ServiceId

/-!
# Service tables

Services by id, in ascending order of the ids. A table has one form for each assignment of
services to ids, so tables that hold the same services are equal.
-/
namespace HostCalls

/-- Services with their ids, ascending. -/
structure Table (σ : Type) where
  entries : List (ServiceId × σ)
  ascending : entries.Pairwise fun a b => a.1.raw.toNat < b.1.raw.toNat

namespace Table

variable {σ : Type}

/-- The table without services. -/
def empty : Table σ := ⟨[], .nil⟩

instance : Inhabited (Table σ) := ⟨empty⟩

/-- Puts an entry at its place in a list of entries. -/
def insertEntry (id : ServiceId) (service : σ) : List (ServiceId × σ) → List (ServiceId × σ)
  | [] => [(id, service)]
  | entry :: rest =>
    if entry.1.raw.toNat < id.raw.toNat then entry :: insertEntry id service rest
    else if entry.1 = id then (id, service) :: rest
    else (id, service) :: entry :: rest

theorem mem_insertEntry {id : ServiceId} {service : σ} {entries : List (ServiceId × σ)}
    {entry : ServiceId × σ} (h : entry ∈ insertEntry id service entries) :
    entry = (id, service) ∨ entry ∈ entries := by
  induction entries with
  | nil => exact .inl (List.mem_singleton.mp h)
  | cons first rest ih =>
    unfold insertEntry at h
    split at h
    · rcases List.mem_cons.mp h with rfl | hrest
      · exact .inr List.mem_cons_self
      · exact (ih hrest).imp_right (List.mem_cons_of_mem _)
    split at h
    · exact (List.mem_cons.mp h).imp_right (List.mem_cons_of_mem _)
    · exact List.mem_cons.mp h

theorem insertEntry_ascending (id : ServiceId) (service : σ) {entries : List (ServiceId × σ)}
    (h : entries.Pairwise fun a b => a.1.raw.toNat < b.1.raw.toNat) :
    (insertEntry id service entries).Pairwise fun a b => a.1.raw.toNat < b.1.raw.toNat := by
  induction entries with
  | nil => exact List.pairwise_singleton _ _
  | cons first rest ih =>
    obtain ⟨hbelow, hrest⟩ := List.pairwise_cons.mp h
    unfold insertEntry
    split
    · next hsmaller =>
      refine List.pairwise_cons.mpr ⟨fun entry hmem => ?_, ih hrest⟩
      rcases mem_insertEntry hmem with rfl | hmem
      · exact hsmaller
      · exact hbelow entry hmem
    split
    · next hsame =>
      refine List.pairwise_cons.mpr ⟨fun entry hmem => ?_, hrest⟩
      exact hsame ▸ hbelow entry hmem
    · next hge hother =>
      have hlarger : id.raw.toNat < first.1.raw.toNat := by
        have hne : first.1.raw.toNat ≠ id.raw.toNat := fun heq =>
          hother (ServiceId.ext_raw (UInt32.toNat_inj.mp heq))
        omega
      refine List.pairwise_cons.mpr ⟨fun entry hmem => ?_, h⟩
      rcases List.mem_cons.mp hmem with rfl | hmem
      · exact hlarger
      · exact Nat.lt_trans hlarger (hbelow entry hmem)

/-- Puts a service under an id, in place of the one that was there. -/
def insert (table : Table σ) (id : ServiceId) (service : σ) : Table σ :=
  ⟨insertEntry id service table.entries, insertEntry_ascending id service table.ascending⟩

/-- The service under an id. -/
def find? (table : Table σ) (id : ServiceId) : Option σ := table.entries.lookup id

/-- Whether there is a service under an id. -/
def contains (table : Table σ) (id : ServiceId) : Bool := (table.find? id).isSome

/-- The ids with a service, ascending. -/
def ids (table : Table σ) : List ServiceId := table.entries.map (·.1)

/-- Number of services. -/
def size (table : Table σ) : Nat := table.entries.length

end Table

end HostCalls
