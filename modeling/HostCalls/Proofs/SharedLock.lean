import HostCalls.Proofs.CriticalSections
import Mathlib.Data.Nat.SuccPred

/-!
# The lock that contexts share

The guard is held by one context at a time and no change of the value is lost. Contexts that make
changes of one kind, each a load followed by a store, serve as the measure: the changes that they
have left lead from the value at any point to the same value in the end. They come to that end
because not all of them can wait. Where they do, one is inside of its critical section and has a
step that counts.
-/
namespace HostCalls

variable {α : Type}

/-! ## Changes of one kind -/

lemma sum_set_of_succ {xs : List Nat} {i k : Nat} (h : xs[i]? = some (k + 1)) :
    (xs.set i k).sum + 1 = xs.sum := by
  induction xs generalizing i with
  | nil => cases h
  | cons x xs ih =>
    cases i with
    | zero =>
      cases h
      simp only [List.set_cons_zero, List.sum_cons]
      omega
    | succ i =>
      have hrest := ih h
      simp only [List.set_cons_succ, List.sum_cons]
      omega

namespace Outside

lemma refused_updating (f : α → α) (times : Nat) :
    (updating f times).refused = updating f times := by
  cases times <;> rfl

/-- Whoever still has changes to make asks for a critical section that makes one of them. -/
lemma exists_of_asks?_updating {f : α → α} {times : Nat} {body : Inside α}
    (h : (updating f times).asks? = some body) :
    ∃ left, times = left + 1 ∧ ∀ value, body.alone value = (f value, updating f left) := by
  cases times with
  | zero => cases h
  | succ left =>
    cases h
    exact ⟨left, rfl, fun _ => rfl⟩

end Outside

namespace Serial

/-- What an attempt can do. -/
lemma attempt_cases (serial : Serial α) (a : Attempt α) :
    serial.attempt a = serial ∨
      ∃ context body, serial.contexts[a.context]? = some context ∧ context.asks? = some body ∧
        serial.attempt a =
          if a.granted then serial.enter a.context body else serial.refuse a.context context := by
  cases hi : serial.contexts[a.context]? with
  | none => exact .inl (by simp only [attempt, hi])
  | some context =>
    cases hasks : context.asks? with
    | none => exact .inl (by simp only [attempt, hi, hasks])
    | some body => exact .inr ⟨context, body, rfl, hasks, by simp only [attempt, hi, hasks]⟩

/-- Every context has some number of changes left to make, and all of them together lead to a
value. -/
def Leads (f : α → α) (target : α) (serial : Serial α) : Prop :=
  ∃ left : List Nat, serial.contexts = left.map (Outside.updating f) ∧
    f^[left.sum] serial.value = target

variable {f : α → α} {target : α} {serial : Serial α}

lemma Leads.attempt (h : serial.Leads f target) (a : Attempt α) :
    (serial.attempt a).Leads f target := by
  obtain ⟨left, hcontexts, htarget⟩ := h
  rcases serial.attempt_cases a with hsame | ⟨context, body, hi, hasks, hattempt⟩
  · rw [hsame]
    exact ⟨left, hcontexts, htarget⟩
  have hleft := hi
  rw [hcontexts, List.getElem?_map] at hleft
  obtain ⟨times, htimes, rfl⟩ := Option.map_eq_some_iff.mp hleft
  obtain ⟨rest, rfl, halone⟩ := Outside.exists_of_asks?_updating hasks
  rw [hattempt]
  split_ifs with hgranted
  · -- one change is made, so that one less is left
    refine ⟨left.set a.context rest, ?_, ?_⟩
    · simp only [enter, halone, hcontexts, List.map_set]
    · rw [← htarget, ← sum_set_of_succ htimes]
      simp only [enter, halone, Function.iterate_succ_apply]
  · refine ⟨left, ?_, htarget⟩
    simp only [refuse, Outside.refused_updating]
    exact (set_of_getElem? hi).trans hcontexts

lemma Leads.attempts (h : serial.Leads f target) (attempts : List (Attempt α)) :
    (attempts.foldl Serial.attempt serial).Leads f target := by
  induction attempts generalizing serial with
  | nil => exact h
  | cons a attempts ih => exact ih (h.attempt a)

lemma Leads.value_eq (h : serial.Leads f target)
    (hfinished : ∀ context ∈ serial.contexts, context = .finished) : serial.value = target := by
  obtain ⟨left, hcontexts, htarget⟩ := h
  have hzero : ∀ times ∈ left, times = 0 := by
    intro times hmem
    have hcontext := hfinished (.updating f times) (hcontexts ▸ List.mem_map_of_mem hmem)
    cases times with
    | zero => rfl
    | succ times => cases hcontext
  rw [← htarget, List.sum_eq_zero_iff_forall_eq_nat.mpr hzero]
  rfl

end Serial

/-! ## Progress -/

namespace Context

/-- A context that makes changes of one kind has this many steps left: four for each change that it
has not begun. -/
inductive Owes (f : α → α) : Context α → Nat → Prop
  | waiting (times : Nat) : Owes f (.outside (.updating f times)) (4 * times)
  | reading (times : Nat) :
      Owes f (.inside (.read fun value => .write (f value) (.release (.updating f times))))
        (4 * times + 3)
  | writing (times : Nat) (value : α) :
      Owes f (.inside (.write value (.release (.updating f times)))) (4 * times + 2)
  | releasing (times : Nat) : Owes f (.inside (.release (.updating f times))) (4 * times + 1)

/-- The context has finished, or it is outside while somebody holds the guard. -/
def Stays (lock : Lock α) (context : Context α) : Prop :=
  context = .outside .finished ∨ lock.isLocked = true ∧ context.holding = false

variable {f : α → α} {context : Context α} {steps : Nat}

lemma Owes.step (h : context.Owes f steps) (lock : Lock α) :
    context.Stays lock ∧ context.step lock = (context, lock) ∨
      ∃ fewer, steps = fewer + 1 ∧ (context.step lock).1.Owes f fewer := by
  cases h with
  | waiting times =>
    cases times with
    | zero => exact .inl ⟨.inl rfl, rfl⟩
    | succ times =>
      obtain ⟨isLocked, value⟩ := lock
      cases isLocked with
      | true => exact .inl ⟨.inr ⟨rfl, rfl⟩, rfl⟩
      | false => exact .inr ⟨4 * times + 3, by omega, .reading times⟩
  | reading times => exact .inr ⟨4 * times + 2, rfl, .writing times _⟩
  | writing times value => exact .inr ⟨4 * times + 1, rfl, .releasing times⟩
  | releasing times => exact .inr ⟨4 * times, rfl, .waiting times⟩

lemma Owes.finished (h : context.Owes f 0) : context = .outside .finished := by
  generalize hsteps : (0 : Nat) = steps at h
  cases h with
  | waiting times =>
    obtain rfl : times = 0 := by omega
    rfl
  | reading times => omega
  | writing times value => omega
  | releasing times => omega

end Context

namespace Sharing

/-- All contexts have finished. -/
def Finished (sharing : Sharing α) : Prop :=
  ∀ context ∈ sharing.contexts, context = .outside .finished

/-- The contexts make changes of one kind and have this many steps left, all together. -/
def Owes (f : α → α) (sharing : Sharing α) (total : Nat) : Prop :=
  ∃ accounts : List (Context α × Nat), sharing.contexts = accounts.map Prod.fst ∧
    (∀ account ∈ accounts, account.1.Owes f account.2) ∧ (accounts.map Prod.snd).sum = total

variable {f : α → α} {sharing : Sharing α} {total : Nat}

lemma Owes.step (h : sharing.Owes f total) (i : Nat) :
    (sharing.step i = sharing ∧
      ∀ context, sharing.contexts[i]? = some context → context.Stays sharing.lock) ∨
    ∃ fewer, total = fewer + 1 ∧ (sharing.step i).Owes f fewer := by
  obtain ⟨accounts, hcontexts, howes, rfl⟩ := h
  cases hi : accounts[i]? with
  | none =>
    have hnone : sharing.contexts[i]? = none := by
      rw [hcontexts, List.getElem?_map, hi]
      rfl
    exact .inl ⟨by simp only [Sharing.step, hnone], by simp [hnone]⟩
  | some account =>
    obtain ⟨context, steps⟩ := account
    have hsome : sharing.contexts[i]? = some context := by
      rw [hcontexts, List.getElem?_map, hi]
      rfl
    rw [step_of_some hsome]
    rcases (howes _ (List.mem_of_getElem? hi)).step sharing.lock with
      ⟨hstays, hstep⟩ | ⟨fewer, rfl, hfewer⟩
    · left
      simp only [hstep, set_of_getElem? hsome, hsome, Option.some.injEq, forall_eq']
      exact ⟨trivial, hstays⟩
    · right
      have hsum : (accounts.map Prod.snd)[i]? = some (fewer + 1) := by
        rw [List.getElem?_map, hi]
        rfl
      refine ⟨_, (sum_set_of_succ hsum).symm,
        accounts.set i ((context.step sharing.lock).1, fewer), ?_, ?_, ?_⟩
      · rw [List.map_set, ← hcontexts]
      · intro account hmem
        rcases List.mem_or_eq_of_mem_set hmem with hold | rfl
        · exact howes account hold
        · exact hfewer
      · rw [List.map_set]

lemma Owes.finished (h : sharing.Owes f 0) : sharing.Finished := by
  obtain ⟨accounts, hcontexts, howes, hsum⟩ := h
  rw [List.sum_eq_zero_iff_forall_eq_nat] at hsum
  intro context hmem
  rw [hcontexts, List.mem_map] at hmem
  obtain ⟨account, hmem, rfl⟩ := hmem
  have hzero := hsum account.2 (List.mem_map_of_mem hmem)
  exact (hzero ▸ howes account hmem).finished

/-- In a round somebody takes a step that counts, unless all who have a step stay where they are. -/
lemma Owes.round (h : sharing.Owes f total) (round : List Nat) :
    (sharing.run round = sharing ∧ ∀ i ∈ round, ∀ context, sharing.contexts[i]? = some context →
      context.Stays sharing.lock) ∨
    ∃ fewer < total, (sharing.run round).Owes f fewer := by
  induction round generalizing sharing total with
  | nil => exact .inl ⟨rfl, by simp⟩
  | cons i round ih =>
    have hrun : sharing.run (i :: round) = (sharing.step i).run round := rfl
    rw [hrun]
    rcases h.step i with ⟨hstep, hstays⟩ | ⟨fewer, rfl, hfewer⟩
    · rw [hstep]
      rcases ih h with ⟨hsame, hround⟩ | hprogress
      · exact .inl ⟨hsame, List.forall_mem_cons.mpr ⟨hstays, hround⟩⟩
      · exact .inr hprogress
    · right
      -- what the others do after this step cannot undo it
      rcases ih hfewer with ⟨hsame, -⟩ | ⟨less, hless, howes⟩
      · exact ⟨fewer, Nat.lt_succ_self fewer, by rwa [hsame]⟩
      · exact ⟨less, by omega, howes⟩

lemma length_step (sharing : Sharing α) (i : Nat) :
    (sharing.step i).contexts.length = sharing.contexts.length := by
  unfold step
  split
  · rfl
  · exact List.length_set

lemma length_run (sharing : Sharing α) (schedule : List Nat) :
    (sharing.run schedule).contexts.length = sharing.contexts.length := by
  induction schedule generalizing sharing with
  | nil => rfl
  | cons i schedule ih => exact (ih (sharing.step i)).trans (sharing.length_step i)

lemma run_append (sharing : Sharing α) (first second : List Nat) :
    sharing.run (first ++ second) = (sharing.run first).run second :=
  List.foldl_append

/-- Where all have finished nothing more happens. -/
lemma Finished.run (h : sharing.Finished) (schedule : List Nat) :
    sharing.run schedule = sharing := by
  induction schedule with
  | nil => rfl
  | cons i schedule ih =>
    have hstep : sharing.step i = sharing := by
      cases hi : sharing.contexts[i]? with
      | none => simp only [step, hi]
      | some context =>
        obtain rfl := h context (List.mem_of_getElem? hi)
        exact step_of_finished hi
    show (sharing.step i).run schedule = sharing
    rw [hstep, ih]

end Sharing

/-- Not all can wait: somebody holds the guard for which they wait. -/
lemma Follows.finished_of_stays {sharing : Sharing α} {serial : Serial α}
    (h : Follows sharing serial)
    (hstays : ∀ (i : Nat) (context : Context α), sharing.contexts[i]? = some context →
      context.Stays sharing.lock) :
    sharing.Finished := by
  intro context hmem
  obtain ⟨i, hi⟩ := List.getElem?_of_mem hmem
  rcases hstays i context hi with hfinished | ⟨hlocked, -⟩
  · exact hfinished
  -- the flag is set, so that somebody is inside, who does not stay
  cases h with
  | free hshared =>
    subst hshared
    cases hlocked
  | held holder rest hlocked hcontexts hafter hvalue =>
    obtain ⟨hholder, -⟩ := List.getElem?_eq_some_iff.mp hafter
    have hinside : sharing.contexts[holder]? = some (.inside rest) := by
      rw [hcontexts, List.getElem?_set_self (by rwa [List.length_map])]
    rcases hstays holder _ hinside with hout | ⟨-, hout⟩
    · cases hout
    · cases hout

/-- Enough rounds in which everybody has a step lead to the end. -/
lemma Follows.finished_of_rounds {f : α → α} {sharing : Sharing α} {serial : Serial α} {total : Nat}
    (h : Follows sharing serial) (howes : sharing.Owes f total) {rounds : List (List Nat)}
    (hlength : total ≤ rounds.length)
    (hfair : ∀ round ∈ rounds, ∀ i < sharing.contexts.length, i ∈ round) :
    (sharing.run rounds.flatten).Finished := by
  induction rounds generalizing sharing serial total with
  | nil =>
    obtain rfl : total = 0 := Nat.le_zero.mp hlength
    exact howes.finished
  | cons round rounds ih =>
    rw [List.flatten_cons, Sharing.run_append]
    rcases howes.round round with ⟨hsame, hstays⟩ | ⟨fewer, hfewer, howes⟩
    · have hfinished : sharing.Finished := h.finished_of_stays fun i context hi =>
        hstays i (hfair round List.mem_cons_self i (List.getElem?_eq_some_iff.mp hi).1) context hi
      rw [hsame, hfinished.run]
      exact hfinished
    · refine ih (h.run round) howes ?_ ?_
      · simp only [List.length_cons] at hlength
        omega
      · intro later hmem i hi
        rw [Sharing.length_run] at hi
        exact hfair later (List.mem_cons_of_mem round hmem) i hi

/-! ## The lock -/

lemma Lock.tryLock_eq_error_iff (lock : Lock α) :
    lock.tryLock = .error .wouldBlock ↔ lock.isLocked = true := by
  simp only [tryLock, swap]
  split_ifs with hlocked <;> simp [hlocked]

/-- Contexts that each change a value by the same function, some number of times. -/
def Serial.updating (f : α → α) (value : α) (contexts times : Nat) : Serial α :=
  ⟨value, List.replicate contexts (.updating f times)⟩

lemma Serial.leads_updating (f : α → α) (value : α) (contexts times : Nat) :
    (Serial.updating f value contexts times).Leads f (f^[contexts * times] value) := by
  refine ⟨List.replicate contexts times, List.map_replicate.symm, ?_⟩
  rw [List.sum_replicate_nat]
  rfl

lemma Serial.owes_updating (f : α → α) (value : α) (contexts times : Nat) :
    (Serial.updating f value contexts times).shared.Owes f (contexts * (4 * times)) := by
  refine ⟨List.replicate contexts (.outside (.updating f times), 4 * times), ?_, ?_, ?_⟩
  · simp only [Serial.shared, Serial.updating, List.map_replicate]
  · intro account hmem
    obtain rfl := List.eq_of_mem_replicate hmem
    exact .waiting times
  · rw [List.map_replicate, List.sum_replicate_nat]

lemma Sharing.Finished.guards_eq {sharing : Sharing α} (h : sharing.Finished) :
    sharing.guards = 0 := by
  apply List.countP_eq_zero.mpr
  intro context hmem
  rw [h context hmem, Context.holding_outside]
  exact Bool.false_ne_true

/-- No change is lost. -/
lemma Serial.value_of_finished {f : α → α} {value : α} {contexts times : Nat} {schedule : List Nat}
    (h : ((Serial.updating f value contexts times).shared.run schedule).Finished) :
    ((Serial.updating f value contexts times).shared.run schedule).lock.value =
      f^[contexts * times] value := by
  have hfollows := (Serial.updating f value contexts times).follows.run schedule
  have hleads := (Serial.leads_updating f value contexts times).attempts
    ((Serial.updating f value contexts times).shared.attempts schedule)
  have hshared := hfollows.eq_shared h.guards_eq
  rw [hshared] at h ⊢
  apply hleads.value_eq
  intro context hmem
  have houtside := h (.outside context) (List.mem_map_of_mem hmem)
  cases houtside
  rfl

/-- However the steps of contexts that share a lock are interleaved, at most one of them holds the
guard at a time, and the flag tells whether one does. An attempt is refused exactly while one does,
and then changes nothing but what its own context does next. Whenever nobody holds the guard,
everything is as if the granted critical sections had been done one after the other, each as a
whole, in the order in which the guard was taken. So contexts that each add one to a number some
times over do not lose an addition, and they come to an end if all of them go on taking steps. -/
theorem shared_lock_serializes (value : α) (programs : List (Outside α)) (schedule : List Nat) :
    let start : Sharing α := Serial.shared ⟨value, programs⟩
    let attempts := start.attempts schedule
    let now := start.run schedule
    now.guards ≤ 1 ∧
    (now.lock.isLocked = true ↔ 0 < now.guards) ∧
    (now.lock.tryLock = .error .wouldBlock ↔ 0 < now.guards) ∧
    (∀ i granted refused, now.contexts[i]? = some (.outside (.tryLock granted refused)) →
      (0 < now.guards → now.step i = ⟨now.lock, now.contexts.set i (.outside refused)⟩) ∧
      (now.guards = 0 →
        now.step i = ⟨⟨true, now.lock.value⟩, now.contexts.set i (.inside granted)⟩)) ∧
    (∀ i granted, now.contexts[i]? = some (.outside (.spinLock granted)) →
      (0 < now.guards → now.step i = now) ∧
      (now.guards = 0 →
        now.step i = ⟨⟨true, now.lock.value⟩, now.contexts.set i (.inside granted)⟩)) ∧
    (now.guards = 0 →
      now.lock.value = (attempts.filter (·.granted)).foldl
        (fun value a => (a.body.alone value).1) value ∧
      now = (attempts.foldl Serial.attempt ⟨value, programs⟩).shared) ∧
    ∀ initial n e : Nat,
      let adding := (Serial.updating (· + 1) initial n e).shared
      (∀ schedule, (adding.run schedule).Finished →
        (adding.run schedule).lock.value = initial + n * e) ∧
      ∀ rounds : List (List Nat), 4 * (n * e) ≤ rounds.length →
        (∀ round ∈ rounds, ∀ i < n, i ∈ round) → (adding.run rounds.flatten).Finished := by
  intro start attempts now
  have hfollows : Follows now (attempts.foldl Serial.attempt ⟨value, programs⟩) :=
    (Serial.follows ⟨value, programs⟩).run schedule
  refine ⟨?_, hfollows.isLocked_iff, (Lock.tryLock_eq_error_iff _).trans hfollows.isLocked_iff,
    fun i granted refused hi => ⟨fun hheld => hfollows.step_of_held hheld hi rfl,
      fun hfree => hfollows.step_of_free hfree hi rfl⟩,
    fun i granted hi => ⟨fun hheld => ?_, fun hfree => hfollows.step_of_free hfree hi rfl⟩,
    fun hfree => ⟨?_, hfollows.eq_shared hfree⟩, fun initial n e => ⟨fun schedule h => ?_, ?_⟩⟩
  · rw [hfollows.guards_eq]
    split_ifs <;> decide
  · rw [hfollows.step_of_held hheld hi rfl]
    simp only [Outside.refused, set_of_getElem? hi]
  · rw [congrArg (·.lock.value) (hfollows.eq_shared hfree)]
    exact (Serial.follows ⟨value, programs⟩).value_run schedule
  · exact (Serial.value_of_finished h).trans (Nat.succ_iterate initial (n * e))
  · intro rounds hlength hfair
    refine (Serial.follows _).finished_of_rounds (Serial.owes_updating (· + 1) initial n e) ?_ ?_
    · rwa [Nat.mul_left_comm]
    · intro round hmem i hi
      refine hfair round hmem i ?_
      simpa [Serial.shared, Serial.updating] using hi

/-- One context adds one to a number. The other doubles it if the guard is free, and otherwise adds
ten to it later. -/
def doublers : List (Outside Nat) :=
  [.updating (· + 1) 1,
    .tryLock (.read fun n => .write (2 * n) (.release .finished)) (.updating (· + 10) 1)]

/-- Whether five is doubled depends on who comes first. Two contexts that add one to a number twice
each add four to it, also if they take single steps in turns. -/
theorem doublers_serialized :
    (Sharing.run (Serial.shared ⟨5, doublers⟩) [0]).guards = 1 ∧
    (Sharing.run (Serial.shared ⟨5, doublers⟩) [0]).lock.tryLock = .error .wouldBlock ∧
    (Sharing.run (Serial.shared ⟨5, doublers⟩) [0, 1, 0, 1, 0, 0, 1, 1, 1, 1]).lock.value = 16 ∧
    (Sharing.run (Serial.shared ⟨5, doublers⟩) [1, 0, 1, 0, 1, 1, 0, 0, 0, 0]).lock.value = 11 ∧
    ((Serial.updating (· + 1) 38 2 2).shared.run (List.replicate 16 [1, 0]).flatten).lock.value =
      42 := by
  obtain ⟨-, -, hrefused, -⟩ := shared_lock_serializes 5 doublers [0]
  obtain ⟨-, -, -, -, -, hlate, -⟩ :=
    shared_lock_serializes 5 doublers [0, 1, 0, 1, 0, 0, 1, 1, 1, 1]
  obtain ⟨-, -, -, -, -, hearly, hadding⟩ :=
    shared_lock_serializes 5 doublers [1, 0, 1, 0, 1, 1, 0, 0, 0, 0]
  obtain ⟨hvalue, hrounds⟩ := hadding 38 2 2
  have hfinished := hrounds (List.replicate 16 [1, 0]) (by decide) (by decide)
  exact ⟨by decide, hrefused.mpr (by decide), (hlate (by decide)).1.trans (by decide),
    (hearly (by decide)).1.trans (by decide), hvalue _ hfinished⟩

end HostCalls
