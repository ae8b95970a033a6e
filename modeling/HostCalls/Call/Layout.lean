import HostCalls.Page.Register

/-!
# Layout of the register block

The block through which a guest and the gate talk to each other takes 32 bytes. The three
bytes after `control` are unused.
-/
namespace HostCalls.Layout

/-- Zero while the gate is idle; any other value marks a pending request. -/
def control : Register UInt8 := ⟨0x00⟩

/-- The service that is called, zero for the control channel. A delivered message leaves its
origin here. -/
def service : Register UInt32 := ⟨0x04⟩

/-- Guest address of the request. -/
def requestAddr : Register UInt32 := ⟨0x08⟩

/-- Length of the request. -/
def requestLen : Register UInt32 := ⟨0x0c⟩

/-- Guest address of the response buffer. -/
def responseAddr : Register UInt32 := ⟨0x10⟩

/-- Size of the response buffer. -/
def responseSize : Register UInt32 := ⟨0x14⟩

/-- Zero after a success, otherwise an error code. -/
def responseCode : Register Int32 := ⟨0x18⟩

/-- Length of the response, also of one that did not fit. -/
def responseLen : Register UInt32 := ⟨0x1c⟩

/-- Number of bytes of the block. -/
def blockSize : UInt64 := 0x20

/-- The largest payload unless configured otherwise. -/
def maxPayloadLen : UInt64 := 4096

end HostCalls.Layout
