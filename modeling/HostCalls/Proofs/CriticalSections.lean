import HostCalls.Lock.Contexts
import Mathlib.Tactic.Common

/-!
# Critical sections one after the other

Contexts that share a lock are compared with contexts that take turns: there, whoever is granted the
guard does all of its critical section at once, so that no guard is needed. At every point of a run
the two differ at most in the critical section of the one context that is inside of it. Where none
is, they are the same. A run is finite, so that a context which would go on for ever is one that has
not finished yet.
-/
namespace HostCalls

variable {α : Type}

/-! ## Contexts that take turns -/

/-- What is left of a critical section, done without interruption: the value it ends with, and what
its context goes on to do. -/
def Inside.alone : Inside α → α → α × Outside α
  | .read next, value => (next value).alone value
  | .write value next, _ => next.alone value
  | .release after, value => (value, after)

namespace Outside

/-- The critical section for which a context asks with its next step. -/
def asks? : Outside α → Option (Inside α)
  | .finished => none
  | .tryLock granted _ => some granted
  | .spinLock granted => some granted

/-- What a context goes on to do when it is refused. -/
def refused : Outside α → Outside α
  | .finished => .finished
  | .tryLock _ refused => refused
  | .spinLock granted => .spinLock granted

end Outside

/-- An attempt of a context to take the guard for a critical section, and what came of it. -/
structure Attempt (α : Type) where
  context : Nat
  body : Inside α
  granted : Bool

/-- A value and contexts of which none is inside of a critical section. -/
structure Serial (α : Type) where
  value : α
  contexts : List (Outside α)

namespace Serial

/-- The contexts around a lock that nobody holds. -/
def shared (serial : Serial α) : Sharing α :=
  ⟨.new serial.value, serial.contexts.map .outside⟩

/-- A context does all of a critical section. -/
def enter (serial : Serial α) (i : Nat) (body : Inside α) : Serial α :=
  ⟨(body.alone serial.value).1, serial.contexts.set i (body.alone serial.value).2⟩

/-- A context is told that somebody else holds the guard. -/
def refuse (serial : Serial α) (i : Nat) (context : Outside α) : Serial α :=
  ⟨serial.value, serial.contexts.set i context.refused⟩

/-- A context makes an attempt for the critical section that it has come to. -/
def attempt (serial : Serial α) (a : Attempt α) : Serial α :=
  match serial.contexts[a.context]? with
  | none => serial
  | some context =>
    match context.asks? with
    | none => serial
    | some body =>
      if a.granted then serial.enter a.context body else serial.refuse a.context context

section

variable {serial : Serial α} {i : Nat} {context : Outside α} {body : Inside α}
  (hi : serial.contexts[i]? = some context) (hasks : context.asks? = some body)

include hi hasks

lemma attempt_granted : serial.attempt ⟨i, body, true⟩ = serial.enter i body := by
  simp only [attempt, hi, hasks, if_true]

lemma attempt_refused : serial.attempt ⟨i, body, false⟩ = serial.refuse i context := by
  simp only [attempt, hi, hasks, Bool.false_eq_true, if_false]

end

end Serial

/-! ## Guards and attempts -/

lemma set_of_getElem? {β : Type} {xs : List β} {i : Nat} {x : β} (h : xs[i]? = some x) :
    xs.set i x = xs := by
  obtain ⟨hi, rfl⟩ := List.getElem?_eq_some_iff.mp h
  exact List.set_getElem_self hi

namespace Context

/-- The context holds the guard. -/
def holding : Context α → Bool
  | .outside _ => false
  | .inside _ => true

@[simp] theorem holding_outside (context : Outside α) : (outside context).holding = false := rfl

@[simp] theorem holding_inside (rest : Inside α) : (inside rest).holding = true := rfl

/-- The critical section for which a context asks with its next step. -/
def asks? : Context α → Option (Inside α)
  | .outside context => context.asks?
  | .inside _ => none

end Context

namespace Sharing

/-- Number of guards that exist. -/
def guards (sharing : Sharing α) : Nat :=
  sharing.contexts.countP Context.holding

/-- The attempt that a context makes with its next step, if it makes one. -/
def attempt? (sharing : Sharing α) (i : Nat) : Option (Attempt α) :=
  (sharing.contexts[i]?.bind Context.asks?).map fun body => ⟨i, body, !sharing.lock.isLocked⟩

/-- The attempts of a run, in the order of their swaps. -/
def attempts (sharing : Sharing α) : List Nat → List (Attempt α)
  | [] => []
  | i :: schedule => (sharing.attempt? i).toList ++ (sharing.step i).attempts schedule

lemma step_of_some {sharing : Sharing α} {i : Nat} {context : Context α}
    (h : sharing.contexts[i]? = some context) :
    sharing.step i = ⟨(context.step sharing.lock).2,
      sharing.contexts.set i (context.step sharing.lock).1⟩ := by
  simp only [step, h]

lemma step_of_finished {sharing : Sharing α} {i : Nat}
    (hi : sharing.contexts[i]? = some (.outside .finished)) : sharing.step i = sharing := by
  rw [step_of_some hi]
  simp only [Context.step, set_of_getElem? hi]

section

variable {sharing : Sharing α} {i : Nat} {context : Outside α} {body : Inside α}
  (hi : sharing.contexts[i]? = some (.outside context)) (hasks : context.asks? = some body)

include hi hasks

lemma attempt?_of_asks : sharing.attempt? i = some ⟨i, body, !sharing.lock.isLocked⟩ := by
  simp only [attempt?, hi, Option.bind_some, Context.asks?, hasks, Option.map_some]

/-- An attempt stores true into the flag in any case. Whether it is granted is decided by what the
flag was. -/
lemma step_of_asks :
    sharing.step i = ⟨⟨true, sharing.lock.value⟩, sharing.contexts.set i
      (if sharing.lock.isLocked then .outside context.refused else .inside body)⟩ := by
  rw [step_of_some hi]
  cases context with
  | finished => cases hasks
  | tryLock granted refused =>
    cases hasks
    rfl
  | spinLock granted =>
    cases hasks
    rfl

end

/-- What a step of a context can be: nothing, an attempt, or a step inside of a critical section. -/
inductive Steps (sharing : Sharing α) (i : Nat) : Prop
  | nothing (hstep : sharing.step i = sharing) (hattempt : sharing.attempt? i = none)
  | attempt (context : Outside α) (body : Inside α)
      (hi : sharing.contexts[i]? = some (.outside context)) (hasks : context.asks? = some body)
  | inside (rest : Inside α) (hi : sharing.contexts[i]? = some (.inside rest))
      (hattempt : sharing.attempt? i = none)

lemma steps (sharing : Sharing α) (i : Nat) : sharing.Steps i := by
  cases hi : sharing.contexts[i]? with
  | none => exact .nothing (by simp only [step, hi]) (by simp [attempt?, hi])
  | some context =>
    cases context with
    | inside rest => exact .inside rest hi (by simp [attempt?, hi, Context.asks?])
    | outside context =>
      cases context with
      | finished =>
        exact .nothing (step_of_finished hi) (by simp [attempt?, hi, Context.asks?, Outside.asks?])
      | tryLock granted refused => exact .attempt _ granted hi rfl
      | spinLock granted => exact .attempt _ granted hi rfl

end Sharing

/-! ## The comparison -/

/-- The contexts around a lock have come as far as the contexts that take turns, up to the rest of
the critical section of the one that holds the guard. -/
inductive Follows (sharing : Sharing α) (serial : Serial α) : Prop
  | free (hshared : sharing = serial.shared)
  | held (holder : Nat) (rest : Inside α) (hlocked : sharing.lock.isLocked = true)
      (hcontexts : sharing.contexts = (serial.contexts.map .outside).set holder (.inside rest))
      (hafter : serial.contexts[holder]? = some (rest.alone sharing.lock.value).2)
      (hvalue : serial.value = (rest.alone sharing.lock.value).1)

lemma Serial.follows (serial : Serial α) : Follows serial.shared serial := .free rfl

namespace Follows

variable {sharing : Sharing α} {serial : Serial α}

lemma guards_eq (h : Follows sharing serial) :
    sharing.guards = if sharing.lock.isLocked then 1 else 0 := by
  have hnone : (serial.contexts.map Context.outside).countP Context.holding = 0 := by simp
  cases h with
  | free hshared =>
    subst hshared
    exact hnone
  | held holder rest hlocked hcontexts hafter hvalue =>
    obtain ⟨hi, -⟩ := List.getElem?_eq_some_iff.mp hafter
    rw [if_pos hlocked, Sharing.guards, hcontexts,
      List.countP_set (by rw [List.length_map]; exact hi), hnone]
    simp

lemma isLocked_iff (h : Follows sharing serial) :
    sharing.lock.isLocked = true ↔ 0 < sharing.guards := by
  rw [h.guards_eq]
  split_ifs with hlocked <;> simp [hlocked]

lemma eq_shared (h : Follows sharing serial) (hfree : sharing.guards = 0) :
    sharing = serial.shared := by
  have hguards := h.guards_eq
  cases h with
  | free hshared => exact hshared
  | held holder rest hlocked hcontexts hafter hvalue =>
    rw [if_pos hlocked, hfree] at hguards
    cases hguards

section

variable {contexts : List (Context α)} {holder i : Nat} {rest : Inside α}
  (hcontexts : contexts = (serial.contexts.map .outside).set holder (.inside rest))

include hcontexts

/-- Whoever is outside while the guard is held is somebody else than its holder. -/
lemma outside_of_held {context : Outside α} (hholder : holder < serial.contexts.length)
    (hi : contexts[i]? = some (.outside context)) :
    holder ≠ i ∧ serial.contexts[i]? = some context := by
  have hne : holder ≠ i := by
    rintro rfl
    rw [hcontexts, List.getElem?_set_self (by rwa [List.length_map])] at hi
    cases hi
  rw [hcontexts, List.getElem?_set_ne hne, List.getElem?_map] at hi
  obtain ⟨_, hserial, heq⟩ := Option.map_eq_some_iff.mp hi
  cases heq
  exact ⟨hne, hserial⟩

/-- Whoever is inside is the holder. -/
lemma inside_of_held {rest' : Inside α} (hi : contexts[i]? = some (.inside rest')) :
    holder = i ∧ rest = rest' := by
  by_cases hne : holder = i
  · refine ⟨hne, ?_⟩
    simp only [hcontexts, hne, List.getElem?_set, if_true, Option.ite_none_right_eq_some,
      Option.some.injEq, Context.inside.injEq] at hi
    exact hi.2
  · rw [hcontexts, List.getElem?_set_ne hne, List.getElem?_map] at hi
    obtain ⟨_, -, heq⟩ := Option.map_eq_some_iff.mp hi
    cases heq

end

/-- Whoever is outside has come as far as in the contexts that take turns. -/
lemma outside (h : Follows sharing serial) {i : Nat} {context : Outside α}
    (hi : sharing.contexts[i]? = some (.outside context)) : serial.contexts[i]? = some context := by
  cases h with
  | free hshared =>
    subst hshared
    simpa [Serial.shared] using hi
  | held holder rest hlocked hcontexts hafter hvalue =>
    obtain ⟨hholder, -⟩ := List.getElem?_eq_some_iff.mp hafter
    exact (outside_of_held hcontexts hholder hi).2

/-- A granted attempt does the whole critical section in the contexts that take turns. -/
lemma grant {i : Nat} {context : Outside α} {body : Inside α}
    (hi : serial.contexts[i]? = some context) :
    Follows ⟨⟨true, serial.value⟩, serial.shared.contexts.set i (.inside body)⟩
      (serial.enter i body) := by
  obtain ⟨hlt, -⟩ := List.getElem?_eq_some_iff.mp hi
  refine .held i body rfl ?_ (List.getElem?_set_self hlt) rfl
  simp only [Serial.enter, Serial.shared, List.map_set, List.set_set]

/-- Steps inside of a critical section bring its context nearer to where it already is in the
contexts that take turns. -/
lemma proceed {holder : Nat} {rest : Inside α} (hlocked : sharing.lock.isLocked = true)
    (hcontexts : sharing.contexts = (serial.contexts.map .outside).set holder (.inside rest))
    (hafter : serial.contexts[holder]? = some (rest.alone sharing.lock.value).2)
    (hvalue : serial.value = (rest.alone sharing.lock.value).1) :
    Follows ⟨((Context.inside rest).step sharing.lock).2,
      sharing.contexts.set holder ((Context.inside rest).step sharing.lock).1⟩ serial := by
  cases rest with
  | read next =>
    exact .held holder (next sharing.lock.value) hlocked
      (by rw [hcontexts]; exact List.set_set _) hafter hvalue
  | write value next =>
    exact .held holder next hlocked (by rw [hcontexts]; exact List.set_set _) hafter hvalue
  | release after =>
    simp only [Inside.alone] at hafter hvalue
    have hset : (serial.contexts.map Context.outside).set holder (.outside after) =
        serial.contexts.map .outside := by
      rw [← List.map_set, set_of_getElem? hafter]
    refine .free ?_
    simp only [Context.step, Lock.release, Serial.shared, Lock.new, hcontexts, List.set_set, hset,
      hvalue]

/-- A step keeps the comparison: only attempts change the contexts that take turns. -/
lemma step (h : Follows sharing serial) (i : Nat) :
    Follows (sharing.step i) ((sharing.attempt? i).toList.foldl Serial.attempt serial) := by
  cases sharing.steps i with
  | nothing hstep hattempt =>
    rw [hstep, hattempt]
    exact h
  | attempt context body hi hasks =>
    have hserial := h.outside hi
    rw [Sharing.attempt?_of_asks hi hasks, Sharing.step_of_asks hi hasks]
    cases h with
    | free hshared =>
      subst hshared
      show Follows _ (serial.attempt ⟨i, body, true⟩)
      rw [Serial.attempt_granted hserial hasks]
      exact grant hserial
    | held holder rest hlocked hcontexts hafter hvalue =>
      -- the holder is somebody else, and neither its place nor the value is touched
      obtain ⟨hholder, -⟩ := List.getElem?_eq_some_iff.mp hafter
      obtain ⟨hne, -⟩ := outside_of_held hcontexts hholder hi
      rw [hlocked]
      show Follows _ (serial.attempt ⟨i, body, false⟩)
      rw [Serial.attempt_refused hserial hasks]
      refine .held holder rest rfl ?_ ?_ hvalue
      · simp only [Serial.refuse, List.map_set, hcontexts]
        exact List.set_comm _ _ hne
      · simpa only [Serial.refuse, List.getElem?_set_ne hne.symm] using hafter
  | inside rest hi hattempt =>
    rw [hattempt, Sharing.step_of_some hi]
    cases h with
    | free hshared =>
      subst hshared
      simp [Serial.shared] at hi
    | held holder rest' hlocked hcontexts hafter hvalue =>
      obtain ⟨rfl, rfl⟩ := inside_of_held hcontexts hi
      exact proceed hlocked hcontexts hafter hvalue

lemma run (h : Follows sharing serial) (schedule : List Nat) :
    Follows (sharing.run schedule) ((sharing.attempts schedule).foldl Serial.attempt serial) := by
  induction schedule generalizing sharing serial with
  | nil => exact h
  | cons i schedule ih =>
    rw [Sharing.attempts, List.foldl_append]
    exact ih (h.step i)

section

variable {i : Nat} {context : Outside α} {body : Inside α}

/-- Whoever is refused has changed nothing, although it has stored into the flag. -/
lemma step_of_held (h : Follows sharing serial) (hheld : 0 < sharing.guards)
    (hi : sharing.contexts[i]? = some (.outside context)) (hasks : context.asks? = some body) :
    sharing.step i =
      ⟨sharing.lock, sharing.contexts.set i (.outside context.refused)⟩ := by
  have hlocked := h.isLocked_iff.mpr hheld
  have hlock : (⟨true, sharing.lock.value⟩ : Lock α) = sharing.lock := by rw [← hlocked]
  rw [Sharing.step_of_asks hi hasks, if_pos hlocked, hlock]

lemma step_of_free (h : Follows sharing serial) (hfree : sharing.guards = 0)
    (hi : sharing.contexts[i]? = some (.outside context)) (hasks : context.asks? = some body) :
    sharing.step i =
      ⟨⟨true, sharing.lock.value⟩, sharing.contexts.set i (.inside body)⟩ := by
  have hunlocked : ¬ sharing.lock.isLocked = true := by
    rw [h.isLocked_iff, hfree]
    exact Nat.lt_irrefl 0
  rw [Sharing.step_of_asks hi hasks, if_neg hunlocked]

end

lemma value_attempt (h : Follows sharing serial) {i : Nat} {a : Attempt α}
    (ha : sharing.attempt? i = some a) :
    (serial.attempt a).value =
      if a.granted then (a.body.alone serial.value).1 else serial.value := by
  cases sharing.steps i with
  | nothing hstep hattempt => simp [hattempt] at ha
  | inside rest hi hattempt => simp [hattempt] at ha
  | attempt context body hi hasks =>
    rw [Sharing.attempt?_of_asks hi hasks] at ha
    cases ha
    cases sharing.lock.isLocked with
    | false =>
      show (serial.attempt ⟨i, body, true⟩).value = _
      rw [Serial.attempt_granted (h.outside hi) hasks]
      rfl
    | true =>
      show (serial.attempt ⟨i, body, false⟩).value = _
      rw [Serial.attempt_refused (h.outside hi) hasks]
      rfl

/-- The contexts that take turns apply the granted critical sections one after the other. -/
lemma value_run (h : Follows sharing serial) (schedule : List Nat) :
    ((sharing.attempts schedule).foldl Serial.attempt serial).value =
      ((sharing.attempts schedule).filter (·.granted)).foldl
        (fun value a => (a.body.alone value).1) serial.value := by
  induction schedule generalizing sharing serial with
  | nil => rfl
  | cons i schedule ih =>
    have hrest := ih (h.step i)
    rw [Sharing.attempts, List.foldl_append, hrest, List.filter_append, List.foldl_append]
    cases ha : sharing.attempt? i with
    | none => rfl
    | some a =>
      simp only [Option.toList_some, List.foldl_cons, List.foldl_nil, h.value_attempt ha,
        List.filter_cons, List.filter_nil]
      cases a.granted <;> rfl

end Follows

end HostCalls
