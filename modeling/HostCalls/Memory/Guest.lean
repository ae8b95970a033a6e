import HostCalls.Bytes.Basic
import HostCalls.Memory.Fault

/-!
# Guest memory

Anything that can be read and written byte by byte at 32-bit addresses, where each access
may fault. Addresses never wrap around: a payload that would run past the end of the
address space faults at its own start address.

Payloads are copied one byte at a time, in ascending order. A copy that faults has done all
its earlier accesses and none of the later ones.
-/
namespace HostCalls

/-- Memory with checked byte accesses. A failed access may still change the memory. -/
class GuestMemory (μ : Type) where
  readByte : UInt32 → EStateM Fault μ UInt8
  writeByte : UInt32 → UInt8 → EStateM Fault μ Unit

/-- The address `index` bytes after `base`. -/
def addressAt (base : UInt32) (index : Nat) : Except Fault UInt32 :=
  if base.toNat + index < 0x100000000 then .ok (base + .ofNat index)
  else .error ⟨.outOfRange, base⟩

theorem addressAt_ok {base addr : UInt32} {index : Nat} (h : addressAt base index = .ok addr) :
    addr.toNat = base.toNat + index := by
  unfold addressAt at h
  split at h
  · next hsmall =>
    cases h
    rw [UInt32.toNat_add, UInt32.toNat_ofNat', Nat.mod_eq_of_lt (by omega : index < 2 ^ 32),
      Nat.mod_eq_of_lt hsmall]
  · cases h

namespace GuestMemory

variable {μ : Type} [GuestMemory μ]

/-- Reads the `count` bytes from index `i` on and puts them after those already copied, which are
kept newest first. -/
def copyInFrom (addr : UInt32) (copied : Bytes) (i : Nat) : Nat → EStateM Fault μ Bytes
  | 0 => pure copied.reverse
  | count + 1 =>
    match addressAt addr i with
    | .error fault => throw fault
    | .ok here => do
      let b ← readByte here
      copyInFrom addr (b :: copied) (i + 1) count

/-- Copies a payload out of guest memory. -/
def copyIn (addr len : UInt32) : EStateM Fault μ Bytes :=
  copyInFrom addr [] 0 len.toNat

/-- Writes bytes from index `i` on. -/
def copyOutFrom (addr : UInt32) (i : Nat) : Bytes → EStateM Fault μ Unit
  | [] => pure ()
  | b :: rest =>
    match addressAt addr i with
    | .error fault => throw fault
    | .ok here => do
      writeByte here b
      copyOutFrom addr (i + 1) rest

/-- Copies a payload into guest memory. -/
def copyOut (addr : UInt32) (data : Bytes) : EStateM Fault μ Unit :=
  copyOutFrom addr 0 data

end GuestMemory

end HostCalls
