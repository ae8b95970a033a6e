import HostCalls.Page.Basic

/-!
# Register windows

A window is a place inside a page from which registers are counted. Its base lies
inside the page, but nothing keeps an offset relative to it from leaving the page, so
every access is checked again.
-/
namespace HostCalls

/-- The place in a page where a group of registers starts. -/
structure Window where
  base : UInt64
  inside : base.toNat < pageSize
deriving DecidableEq

namespace Window

/-- The window at a base, which has to lie inside the page. -/
def ofBase (base : UInt64) : Except Abort Window :=
  if hbase : base.toNat < pageSize then .ok ⟨base, hbase⟩ else .error (.windowOffset base)

/-- The page offset of a place in the window. -/
def resolve (window : Window) (offset : UInt64) : PageM UInt64 :=
  PageM.ofExcept (checkedAdd window.base offset)

/-- Reads a byte of the window. -/
def readByte (window : Window) (offset : UInt64) : PageM UInt8 := do
  Page.readByte (← window.resolve offset)

/-- Stores a byte into the window. -/
def writeByte (window : Window) (offset : UInt64) (value : UInt8) : PageM Unit := do
  Page.writeByte (← window.resolve offset) value

/-- Reads a word of the window. -/
def readWord (window : Window) (offset : UInt64) : PageM UInt32 := do
  Page.readWord (← window.resolve offset)

/-- Stores a word into the window. -/
def writeWord (window : Window) (offset : UInt64) (value : UInt32) : PageM Unit := do
  Page.writeWord (← window.resolve offset) value

end Window

end HostCalls
