import HostCalls.Gate.Tick
import HostCalls.Memory.Paged

/-!
# The machine

Paged guest memory and a gate, driven cycle by cycle. Every cycle is one tick of the gate
and counts, whatever comes of it.
-/
namespace HostCalls

/-- Guest memory, a gate and the number of cycles so far. -/
structure Machine (σ : Type) where
  memory : PagedMemory
  gate : Gate σ
  cycles : UInt64

/-- The end of one or more cycles: the last result, the machine after it and what was caused. -/
structure Cycled (σ : Type) where
  machine : Machine σ
  result : Except Fault Outcome
  events : List Event

namespace Machine

variable {σ : Type}

/-- A machine with `npages` pages of zeros and an idle gate. -/
def new (npages : UInt64) (config : Config) : Except Abort (Logged (Machine σ)) := do
  let memory ← PagedMemory.new npages
  let gate ← Gate.new config
  return ⟨⟨memory, gate, 0⟩, [.creating npages config]⟩

/-- Sends by other contexts between cycles. -/
def perform (machine : Machine σ) (others : Activity Unit) : Logged (Machine σ) :=
  let performed := machine.gate.perform others
  ⟨{ machine with gate := performed.value.2 }, performed.events⟩

variable [Service σ]

/-- The event of a cycle that faulted. -/
def faultEvents (cycle : UInt64) : Except Fault Outcome → List Event
  | .ok _ => []
  | .error fault => [.cycleFaulted cycle fault]

/-- One cycle. -/
def tick (machine : Machine σ) : Except Abort (Cycled σ) := do
  let cycles ← checkedAdd machine.cycles 1
  let ticked ← machine.gate.tick machine.memory
  return ⟨⟨ticked.memory, ticked.gate, cycles⟩, ticked.result,
    ticked.events ++ faultEvents cycles ticked.result⟩

/-- Up to `max` cycles, until one does something other than retry. Before cycle `i` other contexts
do `others i`. The events so far are kept newest first. -/
def cyclesAmid (others : Nat → Activity Unit) (events : List Event) (i : Nat)
    (result : Except Fault Outcome) (machine : Machine σ) : Nat → Except Abort (Cycled σ)
  | 0 => .ok ⟨machine, result, events.reverse⟩
  | max + 1 => do
    let performed := machine.perform (others i)
    let cycled ← performed.value.tick
    let events := cycled.events.reverse ++ (performed.events.reverse ++ events)
    match cycled.result with
    | .ok .retry => cyclesAmid others events (i + 1) cycled.result cycled.machine max
    | _ => .ok ⟨cycled.machine, cycled.result, events.reverse⟩

/-- Runs while the gate retries, for `max` cycles at most, with sends by others before each cycle.
Without a cycle the result is idle. -/
def runAmid (machine : Machine σ) (others : Nat → Activity Unit) (max : UInt64) :
    Except Abort (Cycled σ) :=
  cyclesAmid others [] 0 (.ok .idle) machine max.toNat

/-- Runs while the gate retries, for `max` cycles at most. -/
def run (machine : Machine σ) (max : UInt64) : Except Abort (Cycled σ) :=
  machine.runAmid (fun _ => .done ()) max

end Machine

end HostCalls
