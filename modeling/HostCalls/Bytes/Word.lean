import HostCalls.Bytes.Basic

/-!
# Little-endian words

A 32-bit word is stored as four bytes, least significant byte first. Splitting and
joining are inverse to each other.
-/
namespace HostCalls.Word

/-- Number of bytes of a word. -/
def size : Nat := 4

/-- Byte `i` of a word, counted from the least significant one. -/
def byte (w : UInt32) (i : Nat) : UInt8 :=
  UInt8.ofNat (w.toNat >>> (8 * i))

/-- The word with the given bytes, least significant first. -/
def ofBytes (b₀ b₁ b₂ b₃ : UInt8) : UInt32 :=
  UInt32.ofNat (b₀.toNat + 256 * (b₁.toNat + 256 * (b₂.toNat + 256 * b₃.toNat)))

/-- The number written by bytes, least significant first. -/
def value : Bytes → Nat
  | [] => 0
  | b :: rest => b.toNat + 256 * value rest

/-- The word written by bytes, least significant first; only the first four matter. -/
def ofList (bytes : Bytes) : UInt32 :=
  UInt32.ofNat (value bytes)

/-- The bytes of a word, least significant first. -/
def toBytes (w : UInt32) : Bytes :=
  [byte w 0, byte w 1, byte w 2, byte w 3]

@[simp]
theorem toNat_byte (w : UInt32) (i : Nat) : (byte w i).toNat = w.toNat >>> (8 * i) % 256 := by
  simp [byte]

theorem toNat_ofBytes (b₀ b₁ b₂ b₃ : UInt8) :
    (ofBytes b₀ b₁ b₂ b₃).toNat =
      b₀.toNat + 256 * (b₁.toNat + 256 * (b₂.toNat + 256 * b₃.toNat)) := by
  have h₀ := b₀.toNat_lt
  have h₁ := b₁.toNat_lt
  have h₂ := b₂.toNat_lt
  have h₃ := b₃.toNat_lt
  simp only [ofBytes, UInt32.toNat_ofNat']
  omega

/-- Joining the bytes of a word gives the word. -/
@[simp]
theorem ofBytes_byte (w : UInt32) :
    ofBytes (byte w 0) (byte w 1) (byte w 2) (byte w 3) = w := by
  have h := w.toNat_lt
  apply UInt32.toNat_inj.mp
  simp only [toNat_ofBytes, toNat_byte]
  omega

/-- The bytes of a joined word are the bytes that were joined. -/
theorem toBytes_ofBytes (b₀ b₁ b₂ b₃ : UInt8) :
    toBytes (ofBytes b₀ b₁ b₂ b₃) = [b₀, b₁, b₂, b₃] := by
  have h₀ := b₀.toNat_lt
  have h₁ := b₁.toNat_lt
  have h₂ := b₂.toNat_lt
  have h₃ := b₃.toNat_lt
  simp only [toBytes, List.cons.injEq, and_true, ← UInt8.toNat_inj, toNat_byte, toNat_ofBytes]
  omega

theorem ofList_four (b₀ b₁ b₂ b₃ : UInt8) : ofList [b₀, b₁, b₂, b₃] = ofBytes b₀ b₁ b₂ b₃ := rfl

@[simp]
theorem ofList_toBytes (w : UInt32) : ofList (toBytes w) = w := by
  rw [toBytes, ofList_four, ofBytes_byte]

@[simp]
theorem length_toBytes (w : UInt32) : (toBytes w).length = 4 := rfl

end HostCalls.Word
