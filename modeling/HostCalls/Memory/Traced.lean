import HostCalls.Memory.Guest

/-!
# Traced memory

A memory that keeps a record of every attempted access, those that fault included.
-/
namespace HostCalls

/-- An attempted access to guest memory. -/
inductive Access where
  | read (addr : UInt32)
  | write (addr : UInt32) (value : UInt8)
deriving DecidableEq, Repr

/-- `r ADDR` or `w ADDR VALUE`, in decimal. -/
def Access.text : Access → String
  | read addr => s!"r {addr.toNat}"
  | write addr value => s!"w {addr.toNat} {value.toNat}"

/-- A memory with the accesses made to it, newest first. -/
structure Traced (μ : Type) where
  memory : μ
  accesses : List Access

namespace Traced

variable {μ : Type}

/-- A memory to which no access has been made yet. -/
def start (memory : μ) : Traced μ := ⟨memory, []⟩

/-- The accesses in the order in which they were made. -/
def history (traced : Traced μ) : List Access := traced.accesses.reverse

@[simp] theorem history_start (memory : μ) : (start memory).history = [] := rfl

/-- Notes an access and makes it. -/
def perform (access : Access) (act : EStateM Fault μ α) : EStateM Fault (Traced μ) α :=
  fun traced =>
    match act traced.memory with
    | .ok a memory => .ok a ⟨memory, access :: traced.accesses⟩
    | .error fault memory => .error fault ⟨memory, access :: traced.accesses⟩

instance [GuestMemory μ] : GuestMemory (Traced μ) where
  readByte addr := perform (.read addr) (GuestMemory.readByte addr)
  writeByte addr value := perform (.write addr value) (GuestMemory.writeByte addr value)

end Traced

end HostCalls
