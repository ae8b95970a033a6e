import HostCalls.Text.Hex
import HostCalls.Text.Inspect

/-!
# Guest memory faults

A fault names the guest address that could not be accessed and why. It is the guest's
affair: the host only passes it on.
-/
namespace HostCalls

/-- Why an address cannot be accessed. -/
inductive FaultKind where
  /-- No page is mapped there. -/
  | outOfRange
  /-- The page there does not permit the access. -/
  | protection
deriving DecidableEq, Repr

/-- A failed access to guest memory. -/
structure Fault where
  kind : FaultKind
  addr : UInt32
deriving DecidableEq, Repr

def FaultKind.name : FaultKind → String
  | outOfRange => "OutOfRange"
  | protection => "Protection"

namespace Fault

/-- What the fault tells the host. -/
def message (fault : Fault) : String :=
  "guest address " ++ Hex.ofWord fault.addr ++
    match fault.kind with
    | .outOfRange => " is out of range"
    | .protection => " does not permit this access"

def inspect (fault : Fault) : String :=
  Inspect.record fault.kind.name [("addr", toString fault.addr.toNat)]

end Fault

end HostCalls
