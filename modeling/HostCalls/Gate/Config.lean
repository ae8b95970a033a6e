import HostCalls.Call.Layout

/-!
# Gate configuration

Where the register block lies in its page, how long payloads may get and how many messages
may wait. A configuration is checked in that order before a gate is made from it.
-/
namespace HostCalls

/-- The settings of a gate. -/
structure Config where
  registerOffset : UInt64 := 0
  maxPayloadLen : UInt64 := Layout.maxPayloadLen
  queueCapacity : UInt64 := 256
deriving DecidableEq

namespace Config

/-- The register block lies inside its page, every payload length fits into a register, and the
queue can hold a message. -/
structure Usable (config : Config) : Prop where
  block_fits : config.registerOffset.toNat + 32 ≤ pageSize
  payload_fits : config.maxPayloadLen.toNat < 0x100000000
  queue_holds : 0 < config.queueCapacity.toNat

/-- Rejects a configuration that no gate can work with. -/
def check (config : Config) : Except Abort Unit :=
  match checkedAdd config.registerOffset Layout.blockSize with
  | .error abort => .error abort
  | .ok stop =>
    if pageSize < stop.toNat then .error (.registerBlock config.registerOffset)
    else if 0x100000000 ≤ config.maxPayloadLen.toNat then .error .payloadLimit
    else if config.queueCapacity.toNat = 0 then .error .gateCapacity
    else .ok ()

theorem usable_of_check {config : Config} (h : config.check = .ok ()) : config.Usable := by
  unfold check at h
  split at h
  · cases h
  · next stop hsum =>
    have hstop : stop.toNat = config.registerOffset.toNat + 32 := checkedAdd_ok hsum
    split at h
    · cases h
    split at h
    · cases h
    split at h
    · cases h
    exact ⟨by omega, by omega, by omega⟩

def inspect (config : Config) : String :=
  Inspect.record "GateConfig"
    [("register_offset", toString config.registerOffset.toNat),
      ("max_payload_len", toString config.maxPayloadLen.toNat),
      ("queue_capacity", toString config.queueCapacity.toNat)]

end Config

end HostCalls
