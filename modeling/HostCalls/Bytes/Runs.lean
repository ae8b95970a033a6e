import HostCalls.Bytes.Basic

/-!
# Non-zero runs

The content of a mostly empty block of bytes, as the list of its maximal runs of
non-zero bytes, each with the address of its first byte.
-/
namespace HostCalls

/-- Consecutive non-zero bytes starting at an address. -/
structure Run where
  address : Nat
  bytes : Bytes
deriving DecidableEq, Repr

namespace Run

/-- The scan of a block: finished runs and the bytes of the open one, both newest first. -/
structure Scan where
  address : Nat
  done : List Run
  current : Bytes

/-- Closes the open run, which ends right before the current address. -/
def Scan.close (s : Scan) : List Run :=
  if s.current.isEmpty then s.done
  else ⟨s.address - s.current.length, s.current.reverse⟩ :: s.done

/-- Looks at the next byte. -/
def Scan.next (s : Scan) (b : UInt8) : Scan :=
  if b = 0 then ⟨s.address + 1, s.close, []⟩
  else ⟨s.address + 1, s.done, b :: s.current⟩

/-- Passes over bytes without content. -/
def Scan.skip (s : Scan) (count : Nat) : Scan :=
  ⟨s.address + count, s.close, []⟩

end Run

/-- The maximal non-zero runs of a block whose first byte has the given address, ascending. -/
def nonZeroRuns (address : Nat) (block : Bytes) : List Run :=
  (block.foldl Run.Scan.next ⟨address, [], []⟩).close.reverse

end HostCalls
