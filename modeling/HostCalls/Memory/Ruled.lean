import HostCalls.Memory.Guest
import Std.Data.TreeMap

/-!
# Rule-checked memory

A memory of all 32-bit addresses that faults where a list of rules says so. The first rule
that covers the address and fits the access decides; without one the access succeeds. Cells
that were never written read as zero.
-/
namespace HostCalls

/-- Faults for some accesses to a range of addresses, both ends included. -/
structure FaultRule where
  first : UInt32
  last : UInt32
  onRead : Bool
  onWrite : Bool
  kind : FaultKind

/-- Memory of all addresses with rules that make accesses fault. -/
structure RuledMemory where
  rules : List FaultRule
  cells : Std.TreeMap UInt32 UInt8

namespace RuledMemory

/-- The fault of an access, by the first rule that covers the address and fits the access. -/
def fault? (memory : RuledMemory) (fits : FaultRule → Bool) (addr : UInt32) : Option Fault :=
  (memory.rules.find? fun rule => rule.first ≤ addr && addr ≤ rule.last && fits rule).map
    fun rule => ⟨rule.kind, addr⟩

/-- The byte in a cell. -/
def get (memory : RuledMemory) (addr : UInt32) : UInt8 := memory.cells.getD addr 0

/-- The memory with one cell written. -/
def set (memory : RuledMemory) (addr : UInt32) (value : UInt8) : RuledMemory :=
  { memory with cells := memory.cells.insert addr value }

instance : GuestMemory RuledMemory where
  readByte addr := fun memory =>
    match memory.fault? (·.onRead) addr with
    | some fault => .error fault memory
    | none => .ok (memory.get addr) memory
  writeByte addr value := fun memory =>
    match memory.fault? (·.onWrite) addr with
    | some fault => .error fault memory
    | none => .ok () (memory.set addr value)

/-- Stores bytes whatever the rules say. Addresses wrap around. -/
def poke (memory : RuledMemory) (addr : UInt32) : Bytes → RuledMemory
  | [] => memory
  | b :: rest => (memory.set addr b).poke (addr + 1) rest

/-- Every cell that was ever written, ascending. -/
def written (memory : RuledMemory) : List (UInt32 × UInt8) := memory.cells.toList

end RuledMemory

end HostCalls
