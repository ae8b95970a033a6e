/-!
# Inspection text

The one-line text under which values appear in log lines and in diagnostic
answers: `Name`, `Name(value)` and `Name { field: value, field: value }`.
-/
namespace HostCalls.Inspect

/-- A field of a record: its name and the text of its value. -/
abbrev Field := String × String

/-- `Name(value)`. -/
def tuple (name value : String) : String :=
  name ++ "(" ++ value ++ ")"

/-- The text between the braces of a record. -/
def fieldList (fields : List Field) : String :=
  ", ".intercalate (fields.map fun field => field.1 ++ ": " ++ field.2)

/-- `Name { field: value, field: value }`. -/
def record (name : String) (fields : List Field) : String :=
  name ++ " \x7b " ++ fieldList fields ++ " \x7d"

/-- `Name { field: value, .. }`: a record some of whose fields are not shown. -/
def openRecord (name : String) (fields : List Field) : String :=
  name ++ " \x7b " ++ fieldList fields ++ ", .. \x7d"

/-- `[1, 2, 255]`. -/
def byteList (bytes : List UInt8) : String :=
  "[" ++ ", ".intercalate (bytes.map fun b => toString b.toNat) ++ "]"

/-- `Some(value)` or `None`. -/
def option (inspect : α → String) : Option α → String
  | some a => tuple "Some" (inspect a)
  | none => "None"

/-- `Ok(value)` or `Err(error)`. -/
def except (inspectError : ε → String) (inspect : α → String) : Except ε α → String
  | .ok a => tuple "Ok" (inspect a)
  | .error e => tuple "Err" (inspectError e)

end HostCalls.Inspect
