/-!
# Padding

Text brought to a width. Text that is already wide enough is left alone.
-/
namespace HostCalls.Pad

/-- The number of characters missing to the width. -/
def missing (width : Nat) (text : String) : Nat :=
  width - text.length

/-- A character repeated. -/
def fill (c : Char) (count : Nat) : String :=
  String.ofList (List.replicate count c)

/-- Spaces before the text. -/
def right (width : Nat) (text : String) : String :=
  fill ' ' (missing width text) ++ text

/-- Spaces after the text. -/
def left (width : Nat) (text : String) : String :=
  text ++ fill ' ' (missing width text)

/-- Spaces on both sides; an odd one goes after the text. -/
def centre (width : Nat) (text : String) : String :=
  fill ' ' (missing width text / 2) ++ text
    ++ fill ' ' (missing width text - missing width text / 2)

/-- Zeros before the text. -/
def zeros (width : Nat) (text : String) : String :=
  fill '0' (missing width text) ++ text

end HostCalls.Pad
