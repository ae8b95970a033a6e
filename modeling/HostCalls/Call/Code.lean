import HostCalls.Bytes.Basic
import HostCalls.Text.Inspect

/-!
# Response codes

A call ends with a response or with a non-zero code. Codes 1 to 4 are those of the gate;
a service may answer with any non-zero code, these included.
-/
namespace HostCalls

/-- The codes that the gate itself reports. -/
inductive GateCode where
  | internalError
  | invalidArg
  | notFound
  | bufferTooSmall
deriving DecidableEq, Repr

namespace GateCode

/-- The value in the response code register. -/
def raw : GateCode → Int32
  | internalError => 1
  | invalidArg => 2
  | notFound => 3
  | bufferTooSmall => 4

/-- The gate's code with a given value. -/
def ofRaw? (raw : Int32) : Option GateCode :=
  if raw = 1 then some internalError
  else if raw = 2 then some invalidArg
  else if raw = 3 then some notFound
  else if raw = 4 then some bufferTooSmall
  else none

@[simp]
theorem ofRaw?_raw (code : GateCode) : ofRaw? code.raw = some code := by
  cases code <;> decide

theorem raw_ne_zero (code : GateCode) : code.raw ≠ 0 := by
  cases code <;> decide

def name : GateCode → String
  | internalError => "InternalError"
  | invalidArg => "InvalidArg"
  | notFound => "NotFound"
  | bufferTooSmall => "BufferTooSmall"

/-- What the code tells the guest. -/
def text : GateCode → String
  | internalError => "the response exceeds the maximum payload length"
  | invalidArg => "invalid argument"
  | notFound => "no such service"
  | bufferTooSmall => "the response buffer is too small"

end GateCode

/-- A code that reports an error. -/
structure ErrorCode where
  raw : Int32
  nonzero : raw ≠ 0
deriving DecidableEq

namespace ErrorCode

/-- The error with a given register value; zero reports success. -/
def ofRaw? (raw : Int32) : Option ErrorCode :=
  if hraw : raw ≠ 0 then some ⟨raw, hraw⟩ else none

@[simp]
theorem ofRaw?_raw (code : ErrorCode) : ofRaw? code.raw = some code := by
  simp [ofRaw?, code.nonzero]

@[simp]
theorem ofRaw?_zero : ofRaw? 0 = none := by simp [ofRaw?]

/-- The gate's code with the same value, if there is one. -/
def gateCode? (code : ErrorCode) : Option GateCode := GateCode.ofRaw? code.raw

def inspect (code : ErrorCode) : String :=
  Inspect.tuple "ErrorCode" <|
    match code.gateCode? with
    | some gate => gate.name
    | none => toString code.raw.toInt

/-- What the code tells the guest. -/
def text (code : ErrorCode) : String :=
  match code.gateCode? with
  | some gate => gate.text
  | none => "service error " ++ toString code.raw.toInt

end ErrorCode

/-- The error that reports one of the gate's codes. -/
def GateCode.error (code : GateCode) : ErrorCode := ⟨code.raw, code.raw_ne_zero⟩

@[simp]
theorem GateCode.gateCode?_error (code : GateCode) : code.error.gateCode? = some code :=
  code.ofRaw?_raw

/-- What a call ends with: the response or an error. -/
abbrev CallResult := Except ErrorCode Bytes

end HostCalls
