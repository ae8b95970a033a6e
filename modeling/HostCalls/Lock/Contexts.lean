import HostCalls.Lock.Basic

/-!
# Contexts that share a lock

Any number of contexts use one lock. Each does one step at a time: a swap of the flag, a
read or a write of the value, or the store that lets go of the guard. A schedule says whose
step is next. The types keep a context from touching the value without the guard and from
ending with it.
-/
namespace HostCalls

mutual
/-- What a context goes on to do while it does not hold the guard. -/
inductive Outside (α : Type) where
  | finished
  /-- One attempt to take the guard. -/
  | tryLock (granted : Inside α) (refused : Outside α)
  /-- Attempts until the guard is taken. -/
  | spinLock (granted : Inside α)

/-- What a context goes on to do while it holds the guard. -/
inductive Inside (α : Type) where
  | read (next : α → Inside α)
  | write (value : α) (next : Inside α)
  | release (after : Outside α)
end

/-- A context: what it goes on to do, with or without the guard. -/
inductive Context (α : Type) where
  | outside (rest : Outside α)
  | inside (rest : Inside α)

/-- A lock and the contexts that use it. -/
structure Sharing (α : Type) where
  lock : Lock α
  contexts : List (Context α)

variable {α : Type}

/-- Changes the value by a function, some number of times, each under the guard and as a read
followed by a write. -/
def Outside.updating (f : α → α) : Nat → Outside α
  | 0 => .finished
  | times + 1 => .spinLock (.read fun value => .write (f value) (.release (updating f times)))

/-- One step of a context. An attempt stores into the flag whether the guard is granted or not. -/
def Context.step (lock : Lock α) : Context α → Context α × Lock α
  | .outside .finished => (.outside .finished, lock)
  | .outside (.tryLock granted refused) =>
    let (wasLocked, swapped) := lock.swap
    (if wasLocked then .outside refused else .inside granted, swapped)
  | .outside (.spinLock granted) =>
    let (wasLocked, swapped) := lock.swap
    (if wasLocked then .outside (.spinLock granted) else .inside granted, swapped)
  | .inside (.read next) => (.inside (next lock.value), lock)
  | .inside (.write value next) => (.inside next, lock.update fun _ => value)
  | .inside (.release after) => (.outside after, lock.release)

namespace Sharing

/-- Lets a context take its next step. -/
def step (sharing : Sharing α) (i : Nat) : Sharing α :=
  match sharing.contexts[i]? with
  | none => sharing
  | some context =>
    let (context, lock) := context.step sharing.lock
    ⟨lock, sharing.contexts.set i context⟩

/-- Lets contexts take steps in the order of a schedule. -/
def run (sharing : Sharing α) (schedule : List Nat) : Sharing α :=
  schedule.foldl step sharing

end Sharing

/-- Every context in turn takes `slice` steps, for some number of rounds. -/
def turns (contexts slice rounds : Nat) : List Nat :=
  (List.replicate rounds ((List.range contexts).flatMap (List.replicate slice))).flatten

/-- The lock after contexts have changed its value in turns. Each is given by its change and how
often it makes it. A change takes four steps and a turn is that long, so nobody waits. -/
def Lock.updateInTurns (lock : Lock α) (changes : List ((α → α) × Nat)) : Lock α :=
  let contexts := changes.map fun change => Context.outside (.updating change.1 change.2)
  let rounds := changes.foldl (fun most change => max most change.2) 0
  (Sharing.run ⟨lock, contexts⟩ (turns contexts.length 4 rounds)).lock

/-- The lock after two contexts have changed its value once each, step by step in turns. The second
one finds the guard taken and waits until the first lets go of it. -/
def Lock.contend (lock : Lock α) (first second : α → α) : Lock α :=
  let contexts := [first, second].map fun change => Context.outside (.updating change 1)
  (Sharing.run ⟨lock, contexts⟩ (turns 2 1 8)).lock

end HostCalls
