/-!
# Byte sequences

Payloads of requests, responses and messages.
-/
namespace HostCalls

/-- A payload, first byte first. -/
abbrev Bytes := List UInt8

namespace Bytes

/-- `count` bytes that start at `start` and grow by `step`, modulo 256. -/
def ramp (count start step : Nat) : Bytes :=
  (List.range count).map fun i => (start + step * i).toUInt8

/-- The bytes of a text in UTF-8. -/
def ofText (text : String) : Bytes :=
  text.toUTF8.toList

/-- A sequence written `count` times over. Nothing stays nothing, however large the count. -/
def repeated (bytes : Bytes) (count : Nat) : Bytes :=
  match bytes with
  | [] => []
  | _ :: _ => (List.replicate count bytes).flatten

theorem repeated_eq_flatten (bytes : Bytes) (count : Nat) :
    bytes.repeated count = (List.replicate count bytes).flatten := by
  cases bytes with
  | nil => simp [repeated]
  | cons first rest => rfl

end Bytes

end HostCalls
