import HostCalls.Text.Inspect
import HostCalls.Text.Pad

/-!
# Service ids

Services are named by non-zero words. Zero is the control channel and never names a
service.
-/
namespace HostCalls

/-- The id of a service. -/
structure ServiceId where
  raw : UInt32
  nonzero : raw ≠ 0
deriving DecidableEq

namespace ServiceId

/-- The id with a given register value. -/
def ofRaw? (raw : UInt32) : Option ServiceId :=
  if hraw : raw ≠ 0 then some ⟨raw, hraw⟩ else none

@[simp]
theorem ofRaw?_raw (id : ServiceId) : ofRaw? id.raw = some id := by
  simp [ofRaw?, id.nonzero]

theorem ofRaw?_eq_some {raw : UInt32} {id : ServiceId} : ofRaw? raw = some id ↔ raw = id.raw := by
  constructor
  · intro h
    unfold ofRaw? at h
    split at h
    · cases h; rfl
    · cases h
  · rintro rfl
    exact ofRaw?_raw id

theorem ofRaw?_eq_none {raw : UInt32} : ofRaw? raw = none ↔ raw = 0 := by
  simp [ofRaw?]

theorem ext_raw {a b : ServiceId} (h : a.raw = b.raw) : a = b := by
  cases a; cases b; congr

instance : Ord ServiceId := ⟨fun a b => compare a.raw b.raw⟩

/-- The id as a decimal number. -/
def text (id : ServiceId) : String := toString id.raw.toNat

def inspect (id : ServiceId) : String := Inspect.tuple "ServiceId" id.text

/-- The inspection text spread over lines. -/
def inspectLines (id : ServiceId) : String := "ServiceId(\n    " ++ id.text ++ ",\n)"

/-- The id in a column of twelve characters, aligned in every way, and with a sign. -/
def aligned (id : ServiceId) : String :=
  "|".intercalate
    [Pad.right 12 id.text, Pad.left 12 id.text, Pad.centre 12 id.text, Pad.zeros 12 id.text,
      "+" ++ id.text]

end ServiceId

end HostCalls
