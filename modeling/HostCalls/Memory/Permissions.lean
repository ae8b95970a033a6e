import HostCalls.Text.Inspect

/-!
# Page permissions

What a mapped page lets a guest do: read it, write it, both or neither. In their numeric
form reading is bit 0 and writing bit 1.
-/
namespace HostCalls

/-- The accesses that a page permits. -/
structure Permissions where
  read : Bool
  write : Bool
deriving DecidableEq, Repr

namespace Permissions

def none : Permissions := ⟨false, false⟩

def readOnly : Permissions := ⟨true, false⟩

def writeOnly : Permissions := ⟨false, true⟩

def all : Permissions := ⟨true, true⟩

/-- The numeric form. -/
def bits (p : Permissions) : UInt8 :=
  (if p.read then 1 else 0) + (if p.write then 2 else 0)

/-- The permissions among the bits of a number; other bits are dropped. -/
def ofBits (bits : UInt8) : Permissions :=
  ⟨bits &&& 1 != 0, bits &&& 2 != 0⟩

/-- The permissions with exactly these bits. -/
def ofBits? (bits : UInt8) : Option Permissions :=
  if bits ≤ 3 then some (ofBits bits) else Option.none

@[simp]
theorem ofBits_bits (p : Permissions) : ofBits p.bits = p := by
  obtain ⟨_ | _, _ | _⟩ := p <;> decide

/-- Whether everything that `q` permits is permitted. -/
def contains (p q : Permissions) : Bool :=
  (!q.read || p.read) && (!q.write || p.write)

@[simp]
theorem contains_readOnly (p : Permissions) : p.contains readOnly = p.read := by
  simp [contains, readOnly]

@[simp]
theorem contains_writeOnly (p : Permissions) : p.contains writeOnly = p.write := by
  simp [contains, writeOnly]

/-- Whether some access is permitted by both. -/
def intersects (p q : Permissions) : Bool :=
  (p.read && q.read) || (p.write && q.write)

/-- What either permits. -/
def union (p q : Permissions) : Permissions :=
  ⟨p.read || q.read, p.write || q.write⟩

/-- What `p` permits and `q` does not. -/
def difference (p q : Permissions) : Permissions :=
  ⟨p.read && !q.read, p.write && !q.write⟩

/-- What is not permitted. -/
def complement (p : Permissions) : Permissions :=
  ⟨!p.read, !p.write⟩

def inspect (p : Permissions) : String :=
  Inspect.tuple "PageFlags" <|
    match p.read, p.write with
    | true, true => "READ | WRITE"
    | true, false => "READ"
    | false, true => "WRITE"
    | false, false => "0x0"

end Permissions

end HostCalls
