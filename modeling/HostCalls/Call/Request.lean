import HostCalls.Call.Code
import HostCalls.Call.Layout
import HostCalls.Call.Target

/-!
# Requests and status

What a guest stores into the register block to issue a call, and what it finds there
afterwards. A request is stored register by register and `control` comes last, so that it
becomes pending only when it is complete.
-/
namespace HostCalls

/-- A call as a guest issues it. -/
structure Request where
  control : UInt8
  service : UInt32
  requestAddr : UInt32
  requestLen : UInt32
  responseAddr : UInt32
  responseSize : UInt32
deriving DecidableEq, Repr

namespace Request

/-- A call of a service. -/
def toService (id : ServiceId) (requestAddr requestLen responseAddr responseSize : UInt32) :
    Request :=
  ⟨1, id.raw, requestAddr, requestLen, responseAddr, responseSize⟩

/-- An operation of the control channel, which has no request bytes. -/
def toControl (operation : ControlOperation) (responseAddr responseSize : UInt32) : Request :=
  ⟨operation.raw, 0, 0, 0, responseAddr, responseSize⟩

/-- The stores that issue the request, in order. -/
def stores (request : Request) : List (Window → PageM Unit) :=
  [Layout.service.write request.service,
    Layout.requestAddr.write request.requestAddr,
    Layout.requestLen.write request.requestLen,
    Layout.responseAddr.write request.responseAddr,
    Layout.responseSize.write request.responseSize,
    Layout.control.write request.control]

/-- Issues the request. -/
def write (request : Request) (window : Window) : PageM Unit :=
  request.stores.forM fun store => store window

/-- Reads back the request in the block. -/
def read (window : Window) : PageM Request := do
  let control ← Layout.control.read window
  let service ← Layout.service.read window
  let requestAddr ← Layout.requestAddr.read window
  let requestLen ← Layout.requestLen.read window
  let responseAddr ← Layout.responseAddr.read window
  let responseSize ← Layout.responseSize.read window
  return ⟨control, service, requestAddr, requestLen, responseAddr, responseSize⟩

def inspect (request : Request) : String :=
  Inspect.record "CallRequest"
    [("control", toString request.control.toNat),
      ("service", toString request.service.toNat),
      ("request_addr", toString request.requestAddr.toNat),
      ("request_len", toString request.requestLen.toNat),
      ("response_addr", toString request.responseAddr.toNat),
      ("response_size", toString request.responseSize.toNat)]

end Request

/-- What a guest sees in the block after a tick. -/
structure Status where
  control : UInt8
  service : UInt32
  responseCode : Int32
  responseLen : UInt32
deriving DecidableEq

namespace Status

/-- Reads the status from the block. -/
def read (window : Window) : PageM Status := do
  let control ← Layout.control.read window
  let service ← Layout.service.read window
  let responseCode ← Layout.responseCode.read window
  let responseLen ← Layout.responseLen.read window
  return ⟨control, service, responseCode, responseLen⟩

/-- Whether a new request may be issued. -/
def isIdle (status : Status) : Bool := status.control = 0

/-- The reported error, if any. -/
def error? (status : Status) : Option ErrorCode := ErrorCode.ofRaw? status.responseCode

def inspect (status : Status) : String :=
  Inspect.record "CallStatus"
    [("control", toString status.control.toNat),
      ("service", toString status.service.toNat),
      ("response_code", toString status.responseCode.toInt),
      ("response_len", toString status.responseLen.toNat)]

end Status

end HostCalls
