import HostCalls.Text.Hex

/-!
# Aborts

What stops the host. An abort is a mistake of the host itself: a rejected
configuration, an access outside of a fixed-size block or an offset that does not
fit into 64 bits. It is neither a fault of the guest nor an error of a service.
-/
namespace HostCalls

/-- Why the host stopped. -/
inductive Abort where
  /-- A 64-bit sum is too large. -/
  | overflow
  /-- An index or range lies outside of its block. -/
  | bounds
  /-- The register block at this offset reaches past its page. -/
  | registerBlock (offset : UInt64)
  /-- The largest payload length does not fit into a register. -/
  | payloadLimit
  /-- A gate was configured with a queue that can hold nothing. -/
  | gateCapacity
  /-- A queue was made that can hold nothing. -/
  | queueCapacity
  /-- A register window starts outside of the page. -/
  | windowOffset (offset : UInt64)
  /-- Guest memory exceeds the address space. -/
  | memorySize
  /-- A service was to be registered under the id of the control channel. -/
  | reservedService
deriving DecidableEq, Repr

namespace Abort

/-- The text of an abort that the host raises itself; sums and indices have none. -/
def message? : Abort → Option String
  | overflow => none
  | bounds => none
  | registerBlock offset =>
    some s!"register block at {Hex.ofNat offset.toNat} does not fit into its page"
  | payloadLimit => some "max_payload_len must be representable in a register"
  | gateCapacity => some "the message queue needs capacity"
  | queueCapacity => some "a message queue needs capacity"
  | windowOffset offset =>
    some s!"register window offset {Hex.ofNat offset.toNat} lies outside of the page"
  | memorySize => some "guest memory cannot be larger than the 32-bit address space"
  | reservedService => some "cannot register service 0"

end Abort

/-- A 64-bit sum that aborts instead of wrapping around. -/
def checkedAdd (a b : UInt64) : Except Abort UInt64 :=
  if a.toNat + b.toNat < 0x10000000000000000 then .ok (a + b) else .error .overflow

theorem checkedAdd_ok {a b c : UInt64} (h : checkedAdd a b = .ok c) :
    c.toNat = a.toNat + b.toNat := by
  unfold checkedAdd at h
  split at h
  · next hsmall =>
    cases h
    rw [UInt64.toNat_add, Nat.mod_eq_of_lt hsmall]
  · cases h

end HostCalls
