import HostCalls.Page.Window

/-!
# Typed registers

A register is a typed value at a fixed offset from the base of a window. Bytes take one
byte, words and signed words four bytes each, least significant byte first.
-/
namespace HostCalls

/-- Values that a register can hold. -/
class Stored (α : Type) where
  /-- Number of bytes a value takes. -/
  width : Nat
  load : Window → UInt64 → PageM α
  store : Window → UInt64 → α → PageM Unit

instance : Stored UInt8 where
  width := 1
  load := Window.readByte
  store := Window.writeByte

instance : Stored UInt32 where
  width := 4
  load := Window.readWord
  store := Window.writeWord

instance : Stored Int32 where
  width := 4
  load window offset := UInt32.toInt32 <$> window.readWord offset
  store window offset value := window.writeWord offset value.toUInt32

/-- A register with values in `α`, located by its offset in a window. -/
structure Register (α : Type) where
  offset : UInt64
deriving DecidableEq

namespace Register

variable {α : Type} [Stored α]

/-- Reads the register in a window. -/
def read (register : Register α) (window : Window) : PageM α :=
  Stored.load window register.offset

/-- Stores a value into the register in a window. -/
def write (register : Register α) (value : α) (window : Window) : PageM Unit :=
  Stored.store window register.offset value

/-- Replaces the value of the register by a function of it. -/
def modify (register : Register α) (f : α → α) (window : Window) : PageM Unit := do
  register.write (f (← register.read window)) window

end Register

end HostCalls
