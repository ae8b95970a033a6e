import HostCalls.Call.ServiceId

/-!
# Call targets

Where a pending request goes. A non-zero service id always wins; otherwise the value of the
control register selects an operation of the control channel.
-/
namespace HostCalls

/-- Operations of the control channel. -/
inductive ControlOperation where
  /-- Take the oldest message. -/
  | pollMessage
  /-- List the services. Reserved. -/
  | listServices
  /-- Switch messages of a service on or off. Reserved. -/
  | setNotifications
deriving DecidableEq, Repr

namespace ControlOperation

/-- The value in the control register. -/
def raw : ControlOperation → UInt8
  | pollMessage => 1
  | listServices => 2
  | setNotifications => 3

/-- The operation that a value of the control register selects. -/
def ofRaw? (raw : UInt8) : Option ControlOperation :=
  if raw = 1 then some pollMessage
  else if raw = 2 then some listServices
  else if raw = 3 then some setNotifications
  else none

@[simp]
theorem ofRaw?_raw (operation : ControlOperation) : ofRaw? operation.raw = some operation := by
  cases operation <;> decide

def name : ControlOperation → String
  | pollMessage => "PollMessage"
  | listServices => "ListServices"
  | setNotifications => "SetNotifications"

end ControlOperation

/-- Where a request goes. -/
inductive Target where
  | control (operation : ControlOperation)
  | unknownControl (code : UInt8)
  | service (id : ServiceId)
deriving DecidableEq

namespace Target

/-- The target selected by the control and service registers. -/
def decode (control : UInt8) (service : UInt32) : Target :=
  match ServiceId.ofRaw? service with
  | some id => .service id
  | none =>
    match ControlOperation.ofRaw? control with
    | some operation => .control operation
    | none => .unknownControl control

def inspect : Target → String
  | control operation => Inspect.tuple "Control" operation.name
  | unknownControl code => Inspect.tuple "UnknownControl" (toString code.toNat)
  | service id => Inspect.tuple "Service" id.inspect

end Target

end HostCalls
