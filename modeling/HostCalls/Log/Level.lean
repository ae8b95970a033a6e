/-!
# Log levels

Levels from `error`, the most severe, to `trace`. A maximum level admits itself and
everything more severe.
-/
namespace HostCalls.Log

/-- The severity of a log line. -/
inductive Level where
  | error
  | warn
  | info
  | debug
  | trace
deriving DecidableEq, Repr

namespace Level

/-- Position in the order of verbosity. -/
def rank : Level → Nat
  | error => 1
  | warn => 2
  | info => 3
  | debug => 4
  | trace => 5

instance : LE Level := ⟨fun a b => a.rank ≤ b.rank⟩

instance (a b : Level) : Decidable (a ≤ b) := inferInstanceAs (Decidable (a.rank ≤ b.rank))

/-- The more severe of two levels. -/
instance : Min Level := ⟨fun a b => if a ≤ b then a else b⟩

def name : Level → String
  | error => "ERROR"
  | warn => "WARN"
  | info => "INFO"
  | debug => "DEBUG"
  | trace => "TRACE"

def ofName? (name : String) : Option Level :=
  [error, warn, info, debug, trace].find? fun level => level.name == name

/-- The sign in front of a line of this level. -/
def sign : Level → String
  | error => "❌"
  | warn => "⚠️"
  | info => "ℹ️"
  | debug => "🛠️"
  | trace => "👣"

end Level

end HostCalls.Log
