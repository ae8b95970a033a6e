/-!
# Hexadecimal text

Bytes are written with two lower-case digits each. Numbers carry a `0x` mark and
either as many digits as they need or a fixed number of them, filled with zeros.
-/
namespace HostCalls.Hex

/-- The two digits of a byte. -/
def ofByte (b : UInt8) : String :=
  String.ofList [Nat.digitChar (b.toNat / 16), Nat.digitChar (b.toNat % 16)]

/-- The digits of all bytes, in order and without separators. -/
def ofBytes (bytes : List UInt8) : String :=
  String.join (bytes.map ofByte)

/-- A marked number with no leading zeros. -/
def ofNat (n : Nat) : String :=
  "0x" ++ String.ofList (Nat.toDigits 16 n)

/-- A marked 32-bit number, always eight digits long. -/
def ofWord (w : UInt32) : String :=
  let digits := Nat.toDigits 16 w.toNat
  "0x" ++ String.ofList (List.replicate (8 - digits.length) '0' ++ digits)

/-- The value of a lower-case or upper-case digit. -/
def digit? (c : Char) : Option UInt8 :=
  if '0' ≤ c ∧ c ≤ '9' then some (c.toNat - '0'.toNat).toUInt8
  else if 'a' ≤ c ∧ c ≤ 'f' then some (c.toNat - 'a'.toNat + 10).toUInt8
  else if 'A' ≤ c ∧ c ≤ 'F' then some (c.toNat - 'A'.toNat + 10).toUInt8
  else none

/-- Reads pairs of digits; an odd digit or a foreign character has no value. The bytes read so
far are kept in reverse. -/
def bytesFrom? (read : List UInt8) : List Char → Option (List UInt8)
  | [] => some read.reverse
  | [_] => none
  | high :: low :: rest =>
    match digit? high, digit? low with
    | some h, some l => bytesFrom? ((16 * h + l) :: read) rest
    | _, _ => none

/-- The bytes written by a string of digit pairs. -/
def toBytes? (text : String) : Option (List UInt8) :=
  bytesFrom? [] text.toList

end HostCalls.Hex
