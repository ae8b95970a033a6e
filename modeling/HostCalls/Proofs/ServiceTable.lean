import HostCalls.Service.Table
import Mathlib.Tactic.Common

/-!
# Lookups in service tables

A table gives back what was last put under an id, whatever happened under other ids. Putting a
service under an id that is taken keeps the ids. Changing the services one by one keeps them too
and commutes with both operations. Since its entries are in order, a table is determined by what it
gives back, so the order of insertions under different ids does not matter.
-/
namespace HostCalls.Table

variable {σ τ : Type}

lemma lookup_cons_ite (entry : ServiceId × σ) (rest : List (ServiceId × σ)) (id : ServiceId) :
    (entry :: rest).lookup id = if id = entry.1 then some entry.2 else rest.lookup id := by
  obtain ⟨key, service⟩ := entry
  by_cases h : id = key
  · simp [h]
  · have hbeq : (id == key) = false := beq_eq_false_iff_ne.mpr h
    simp only [List.lookup_cons, hbeq, if_neg h]

lemma lookup_insertEntry (id other : ServiceId) (service : σ) (entries : List (ServiceId × σ)) :
    (insertEntry id service entries).lookup other =
      if other = id then some service else entries.lookup other := by
  induction entries with
  | nil => simp only [insertEntry, lookup_cons_ite]
  | cons entry rest ih =>
    simp only [insertEntry]
    by_cases hsmaller : entry.1.raw.toNat < id.raw.toNat
    · -- the new entry comes later, after one with a smaller id
      have hne : id ≠ entry.1 := by
        intro heq
        rw [heq] at hsmaller
        omega
      rw [if_pos hsmaller, lookup_cons_ite, ih, lookup_cons_ite]
      by_cases h : other = id
      · rw [if_neg (h ▸ hne), if_pos h, if_pos h]
      · rw [if_neg h, if_neg h]
    · rw [if_neg hsmaller]
      by_cases hsame : entry.1 = id
      · rw [if_pos hsame, lookup_cons_ite, lookup_cons_ite, hsame]
        by_cases h : other = id
        · rw [if_pos h, if_pos h]
        · rw [if_neg h, if_neg h, if_neg h]
      · rw [if_neg hsame, lookup_cons_ite]

lemma find?_insert (table : Table σ) (id other : ServiceId) (service : σ) :
    (table.insert id service).find? other =
      if other = id then some service else table.find? other :=
  lookup_insertEntry id other service table.entries

@[simp] theorem find?_insert_self (table : Table σ) (id : ServiceId) (service : σ) :
    (table.insert id service).find? id = some service := by
  rw [find?_insert, if_pos rfl]

lemma find?_insert_of_ne (table : Table σ) {id other : ServiceId} (h : other ≠ id) (service : σ) :
    (table.insert id service).find? other = table.find? other := by
  rw [find?_insert, if_neg h]

lemma keys_insertEntry {id : ServiceId} (service : σ) {old : σ} {entries : List (ServiceId × σ)}
    (ascending : entries.Pairwise fun a b => a.1.raw.toNat < b.1.raw.toNat)
    (h : (id, old) ∈ entries) :
    (insertEntry id service entries).map (·.1) = entries.map (·.1) := by
  induction entries with
  | nil => cases h
  | cons entry rest ih =>
    obtain ⟨hbelow, hrest⟩ := List.pairwise_cons.mp ascending
    simp only [insertEntry]
    rcases List.mem_cons.mp h with rfl | hmem
    · simp
    · have hsmaller : entry.1.raw.toNat < id.raw.toNat := hbelow _ hmem
      rw [if_pos hsmaller, List.map_cons, List.map_cons, ih hrest hmem]

lemma mem_of_find? {table : Table σ} {id : ServiceId} {service : σ}
    (h : table.find? id = some service) : (id, service) ∈ table.entries := by
  obtain ⟨before, after, hentries, _⟩ := List.lookup_eq_some_iff.mp h
  rw [hentries]
  simp

/-- A service that takes the place of another keeps the ids as they are. -/
lemma ids_insert {table : Table σ} {id : ServiceId} {old : σ} (h : table.find? id = some old)
    (service : σ) : (table.insert id service).ids = table.ids :=
  keys_insertEntry service table.ascending (mem_of_find? h)

/-! ## Changing every service -/

/-- The table with every service changed by a function. -/
def map (f : σ → τ) (table : Table σ) : Table τ :=
  ⟨table.entries.map fun entry => (entry.1, f entry.2), List.pairwise_map.mpr table.ascending⟩

@[simp] theorem find?_map (f : σ → τ) (table : Table σ) (id : ServiceId) :
    (table.map f).find? id = (table.find? id).map f := by
  obtain ⟨entries, ascending⟩ := table
  simp only [find?, map]
  clear ascending
  induction entries with
  | nil => rfl
  | cons entry rest ih =>
    simp only [List.map_cons, lookup_cons_ite, ih]
    split_ifs <;> rfl

lemma insertEntry_map (f : σ → τ) (id : ServiceId) (service : σ)
    (entries : List (ServiceId × σ)) :
    insertEntry id (f service) (entries.map fun entry => (entry.1, f entry.2)) =
      (insertEntry id service entries).map fun entry => (entry.1, f entry.2) := by
  induction entries with
  | nil => rfl
  | cons entry rest ih =>
    simp only [List.map_cons, insertEntry]
    split_ifs
    · rw [ih, List.map_cons]
    · rfl
    · rfl

@[simp] theorem insert_map (f : σ → τ) (table : Table σ) (id : ServiceId) (service : σ) :
    (table.map f).insert id (f service) = (table.insert id service).map f := by
  simp only [insert, map, insertEntry_map]

@[simp] theorem contains_map (f : σ → τ) (table : Table σ) (id : ServiceId) :
    (table.map f).contains id = table.contains id := by
  simp [contains]

/-! ## One form for each assignment -/

lemma mem_ids_iff (table : Table σ) (id : ServiceId) :
    id ∈ table.ids ↔ (table.find? id).isSome = true := by
  rw [find?, List.lookup_isSome_iff, ids, List.mem_map]
  simp only [beq_iff_eq, @eq_comm _ id]

lemma ids_ascending (table : Table σ) :
    table.ids.Pairwise fun a b => a.raw.toNat < b.raw.toNat :=
  List.pairwise_map.mpr table.ascending

lemma nodup_ids (table : Table σ) : table.ids.Nodup :=
  table.ids_ascending.imp fun hlt heq => by rw [heq] at hlt; omega

lemma lookup_of_mem {entries : List (ServiceId × σ)} {id : ServiceId} {service : σ}
    (ascending : entries.Pairwise fun a b => a.1.raw.toNat < b.1.raw.toNat)
    (h : (id, service) ∈ entries) : entries.lookup id = some service := by
  induction entries with
  | nil => cases h
  | cons entry rest ih =>
    obtain ⟨hbelow, hrest⟩ := List.pairwise_cons.mp ascending
    rw [lookup_cons_ite]
    rcases List.mem_cons.mp h with rfl | hmem
    · rw [if_pos rfl]
    · have hsmaller : entry.1.raw.toNat < id.raw.toNat := hbelow _ hmem
      have hne : id ≠ entry.1 := by
        rintro rfl
        omega
      rw [if_neg hne, ih hrest hmem]

lemma mem_entries_iff (table : Table σ) (entry : ServiceId × σ) :
    entry ∈ table.entries ↔ table.find? entry.1 = some entry.2 :=
  ⟨lookup_of_mem table.ascending, mem_of_find?⟩

/-- Tables with the same services under the same ids are equal. -/
lemma ext_find? {table other : Table σ} (h : ∀ id, table.find? id = other.find? id) :
    table = other := by
  have hnodup (t : Table σ) : t.entries.Nodup :=
    t.ascending.imp fun hlt heq => by rw [heq] at hlt; omega
  have hperm : table.entries.Perm other.entries :=
    (List.perm_ext_iff_of_nodup (hnodup table) (hnodup other)).mpr fun entry => by
      rw [mem_entries_iff, mem_entries_iff, h]
  have hentries := hperm.eq_of_pairwise (fun a b _ _ hab hba => by omega) table.ascending
    other.ascending
  obtain ⟨entries, _⟩ := table
  obtain ⟨otherEntries, _⟩ := other
  cases hentries
  rfl

/-- Services under different ids can be put in place in either order. -/
lemma insert_comm (table : Table σ) {id other : ServiceId} (h : id ≠ other)
    (service replacement : σ) :
    (table.insert id service).insert other replacement =
      (table.insert other replacement).insert id service := by
  apply ext_find?
  intro wanted
  simp only [find?_insert]
  split_ifs with hother hid
  · exact absurd (hid.symm.trans hother) h
  · rfl
  · rfl
  · rfl

end HostCalls.Table
