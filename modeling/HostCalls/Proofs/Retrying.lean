import HostCalls.Machine
import HostCalls.Proofs.Confinement
import HostCalls.Service.Stock

/-!
# Running while the gate retries

The run is compared with cycles in a row, which go on whatever each of them comes to
(`iterateAmid`). It is as many of these cycles as it takes for one to do something other than
retry. A retry is a poll of an empty queue and leaves the whole machine as it found it, apart from
the count of cycles, so that with nobody else sending every cycle of a run is the same cycle.
-/
namespace HostCalls

variable {σ : Type}

/-- What is answered is not retried. -/
lemma Gate.Responded.result_ne_retry {gate : Gate σ} {memory : PagedMemory} {request : Request}
    {response : Bytes} {reported : Ticked σ PagedMemory}
    (h : gate.Responded memory request response reported) : reported.result ≠ .ok .retry := by
  intro hretry
  cases h <;> cases hretry

lemma InFlight.Finishes.result_ne_retry {call : InFlight σ PagedMemory}
    {ticked : Ticked σ PagedMemory} (h : call.Finishes ticked) : ticked.result ≠ .ok .retry := by
  cases h with
  | failed => exact fun hretry => by cases hretry
  | responded _ _ _ hreported => exact hreported.result_ne_retry
  | delivered message _ reported hreported =>
    rw [reported.settle_result message]
    exact hreported.result_ne_retry

variable [Service σ]

/-- A tick that retries leaves the gate and guest memory as it found them. -/
lemma Gate.Ticks.unchanged_of_retry {gate : Gate σ} {memory : PagedMemory}
    {ticked : Ticked σ PagedMemory} (h : gate.Ticks memory (.done ()) ticked)
    (hretry : ticked.result = .ok .retry) : ticked.gate = gate ∧ ticked.memory = memory := by
  cases h with
  | ended ended _ hdispatch =>
    cases hdispatch with
    | waiting _ _ _ read hcopy => exact ⟨rfl, PagedMemory.copyIn_ok hcopy⟩
    | idle => cases hretry
    | faulted => cases hretry
  | finished _ _ _ _ hfinish => exact absurd hretry hfinish.result_ne_retry

namespace Machine

variable {machine : Machine σ} {others : Nat → Activity Unit} {cycled : Cycled σ}

/-- Cycles in a row, whatever each of them comes to, with `others k` before cycle `k`. -/
def iterateAmid (machine : Machine σ) (others : Nat → Activity Unit) :
    Nat → Except Abort (Cycled σ)
  | 0 => .ok ⟨machine, .ok .idle, []⟩
  | k + 1 => do
    let sofar ← machine.iterateAmid others k
    let performed := sofar.machine.perform (others k)
    let cycled ← performed.value.tick
    return { cycled with events := sofar.events ++ (performed.events ++ cycled.events) }

/-- Cycle `k` retries, and does nothing else to the machine than count. -/
def RetriesAt (machine : Machine σ) (others : Nat → Activity Unit) (k : Nat) : Prop :=
  ∃ sofar found cycled, machine.iterateAmid others k = .ok sofar ∧
    (sofar.machine.perform (others k)).value = found ∧ found.tick = .ok cycled ∧
    cycled.result = .ok .retry ∧ cycled.machine = { found with cycles := found.cycles + 1 }

/-- A run of at most `max` cycles that comes to its end after `count` of them. -/
structure EndsAfter (machine : Machine σ) (others : Nat → Activity Unit) (max count : Nat)
    (ended : Cycled σ) : Prop where
  iterates : machine.iterateAmid others count = .ok ended
  bounded : count ≤ max
  starts : 0 < max → 0 < count
  /-- Only something other than a retry ends the run early. -/
  stops : count < max → ended.result ≠ .ok .retry
  retries : ∀ k, k + 1 < count → machine.RetriesAt others k
  /-- The last cycle counts too, whatever came of it. -/
  counts : ended.machine.cycles.toNat = machine.cycles.toNat + count

/-- A cycle is a tick of the gate that is counted. -/
lemma tick_spec (machine : Machine σ) (hcycles : machine.cycles.toNat + 1 < 0x10000000000000000) :
    ∃ cycled, machine.tick = .ok cycled ∧
      cycled.machine.cycles.toNat = machine.cycles.toNat + 1 ∧
      (cycled.result = .ok .retry →
        cycled.machine = { machine with cycles := machine.cycles + 1 }) := by
  obtain ⟨ticked, htick, hspec⟩ := machine.gate.tickAmid_spec machine.memory (.done ())
  have htick : machine.gate.tick machine.memory = .ok ticked := htick
  have hsum : checkedAdd machine.cycles 1 = .ok (machine.cycles + 1) := if_pos hcycles
  refine ⟨_, by rw [tick, hsum, ok_bind, htick]; rfl, checkedAdd_ok hsum, ?_⟩
  intro hretry
  obtain ⟨hgate, hmemory⟩ := hspec.unchanged_of_retry hretry
  rw [hgate, hmemory]

lemma iterateAmid_succ {sofar : Cycled σ} {k : Nat}
    (hsofar : machine.iterateAmid others k = .ok sofar)
    (htick : (sofar.machine.perform (others k)).value.tick = .ok cycled) :
    machine.iterateAmid others (k + 1) = .ok { cycled with
      events := sofar.events ++ ((sofar.machine.perform (others k)).events ++ cycled.events) } := by
  rw [iterateAmid, hsofar, ok_bind]
  simp only [htick, ok_bind]
  rfl

/-- From where `i` cycles in a row have led, all of them retries, the loop goes on to the end of the
run. -/
lemma cyclesAmid_spec {sofar : Cycled σ} {i : Nat} (max : Nat)
    (hsofar : machine.iterateAmid others i = .ok sofar)
    (hretries : ∀ k < i, machine.RetriesAt others k)
    (hcounts : sofar.machine.cycles.toNat = machine.cycles.toNat + i)
    (hcycles : machine.cycles.toNat + (i + max) < 0x10000000000000000) :
    ∃ count ended,
      cyclesAmid others sofar.events.reverse i sofar.result sofar.machine max = .ok ended ∧
      machine.EndsAfter others (i + max) count ended := by
  induction max generalizing i sofar with
  | zero =>
    refine ⟨i, sofar, by rw [cyclesAmid, List.reverse_reverse], hsofar, Nat.le_refl i, id, ?_, ?_,
      hcounts⟩
    · exact fun hlt => absurd hlt (Nat.lt_irrefl i)
    · exact fun k hk => hretries k (by omega)
  | succ max ih =>
    obtain ⟨found, hfound⟩ : ∃ found, (sofar.machine.perform (others i)).value = found := ⟨_, rfl⟩
    have hsame : found.cycles = sofar.machine.cycles := by rw [← hfound]; rfl
    have hlt : found.cycles.toNat + 1 < 0x10000000000000000 := by rw [hsame]; omega
    obtain ⟨cycled, htick, hcount, hunchanged⟩ := found.tick_spec hlt
    have hnext : cycled.machine.cycles.toNat = machine.cycles.toNat + (i + 1) := by
      rw [hcount, hsame, hcounts]
      omega
    have hiterate := iterateAmid_succ hsofar (hfound ▸ htick)
    rw [cyclesAmid, hfound, htick, ok_bind]
    split
    · next hretry =>
      have hat : machine.RetriesAt others i :=
        ⟨sofar, found, cycled, hsofar, hfound, htick, hretry, hunchanged hretry⟩
      obtain ⟨count, ended, hended, hends⟩ := ih hiterate
        (fun k hk => (Nat.lt_succ_iff_lt_or_eq.mp hk).elim (hretries k) fun h => h ▸ hat) hnext
        (by omega)
      refine ⟨count, ended, ?_, ?_⟩
      · rw [← hended]
        simp
      · rw [show i + (max + 1) = i + 1 + max by omega]
        exact hends
    · next hstops =>
      refine ⟨i + 1, _, ?_, hiterate, by omega, fun _ => i.succ_pos, fun _ => hstops,
        fun k hk => hretries k (by omega), hnext⟩
      simp

/-- A run comes to its end, as long as its cycles can be counted. -/
lemma runAmid_spec (machine : Machine σ) (others : Nat → Activity Unit) (max : UInt64)
    (hcycles : machine.cycles.toNat + max.toNat < 0x10000000000000000) :
    ∃ count ended, machine.runAmid others max = .ok ended ∧
      machine.EndsAfter others max.toNat count ended := by
  have hstart : machine.iterateAmid others 0 = .ok ⟨machine, .ok .idle, []⟩ := rfl
  obtain ⟨count, ended, hended, hends⟩ := cyclesAmid_spec max.toNat hstart
    (fun k hk => absurd hk k.not_lt_zero) rfl (by omega)
  rw [Nat.zero_add] at hends
  exact ⟨count, ended, hended, hends⟩

/-- What a cycle does, other than count, depends on the gate and guest memory only. -/
lemma tick_alike {other : Machine σ} {cycled' : Cycled σ} (hgate : other.gate = machine.gate)
    (hmemory : other.memory = machine.memory) (htick : machine.tick = .ok cycled)
    (hother : other.tick = .ok cycled') :
    cycled'.result = cycled.result ∧ cycled'.machine.gate = cycled.machine.gate ∧
      cycled'.machine.memory = cycled.machine.memory := by
  obtain ⟨_, _, htick⟩ := exists_of_bind_ok htick
  obtain ⟨ticked, hticked, htick⟩ := exists_of_bind_ok htick
  obtain ⟨_, _, hother⟩ := exists_of_bind_ok hother
  obtain ⟨ticked', hticked', hother⟩ := exists_of_bind_ok hother
  rw [hgate, hmemory, hticked] at hticked'
  cases hticked'
  cases htick
  cases hother
  exact ⟨rfl, rfl, rfl⟩

/-- Retries that nobody sends between leave the gate and guest memory as they were. -/
lemma unchanged_of_retries {k : Nat}
    (hcycled : machine.iterateAmid (fun _ => .done ()) k = .ok cycled)
    (hretries : ∀ j < k, machine.RetriesAt (fun _ => .done ()) j) :
    cycled.machine.gate = machine.gate ∧ cycled.machine.memory = machine.memory := by
  induction k generalizing cycled with
  | zero =>
    cases hcycled
    exact ⟨rfl, rfl⟩
  | succ k ih =>
    obtain ⟨sofar, found, last, hsofar, hfound, htick, _, hlast⟩ := hretries k k.lt_succ_self
    cases hcycled.symm.trans (iterateAmid_succ hsofar (hfound ▸ htick))
    rw [hlast, ← hfound]
    exact ih hsofar fun j hj => hretries j (by omega)

/-- With nobody else sending, every cycle of a run does what the first does. -/
lemma EndsAfter.alone {max count : Nat} {ended single : Cycled σ}
    (h : machine.EndsAfter (fun _ => .done ()) max count ended) (hmax : 0 < max)
    (htick : machine.tick = .ok single) :
    ended.result = single.result ∧ ended.machine.gate = single.machine.gate ∧
      ended.machine.memory = single.machine.memory ∧
      (single.result = .ok .retry → count = max) ∧ (single.result ≠ .ok .retry → count = 1) := by
  obtain ⟨last, rfl⟩ := Nat.exists_eq_succ_of_ne_zero (Nat.ne_of_gt (h.starts hmax))
  obtain ⟨sofar, hsofar, hlast⟩ := exists_of_bind_ok h.iterates
  obtain ⟨cycled, hcycled, hended⟩ := exists_of_bind_ok hlast
  cases hended
  obtain ⟨hgate, hmemory⟩ := unchanged_of_retries hsofar fun k hk => h.retries k (by omega)
  obtain ⟨hresult, hgate, hmemory⟩ := tick_alike hgate hmemory htick hcycled
  refine ⟨hresult, hgate, hmemory, ?_, ?_⟩
  · intro hretry
    by_contra hne
    exact h.stops (Nat.lt_of_le_of_ne h.bounded hne) (hresult.trans hretry)
  · intro hother
    by_contra hne
    obtain ⟨start, found, first, hstart, hfound, hfirst, hretry, _⟩ := h.retries 0 (by omega)
    -- Nothing comes before the first cycle, so that it is the single one.
    cases hstart
    cases hfound
    cases htick.symm.trans hfirst
    exact hother hretry

end Machine

/-- A run is as many cycles in a row as it takes for one to do something other than retry, or `max`
if none does. It ends with the result of the last one, a fault included, and all of them count.
Those before the last leave the gate and guest memory as they find them. Without a cycle the
result is idle. With nobody else sending, one cycle has the result of the run and leads to the same
gate and memory. -/
theorem run_is_least_iteration (machine : Machine σ) (others : Nat → Activity Unit)
    (max : UInt64) (hcycles : machine.cycles.toNat + max.toNat < 0x10000000000000000) :
    (∃ count ended, machine.runAmid others max = .ok ended ∧
      machine.EndsAfter others max.toNat count ended ∧
      (max = 0 → count = 0 ∧ ended = ⟨machine, .ok .idle, []⟩)) ∧
    (0 < max → ∃ ended single, machine.run max = .ok ended ∧ machine.tick = .ok single ∧
      ended.result = single.result ∧ ended.machine.gate = single.machine.gate ∧
      ended.machine.memory = single.machine.memory ∧
      (single.result = .ok .retry →
        ended.machine.cycles.toNat = machine.cycles.toNat + max.toNat) ∧
      (single.result ≠ .ok .retry →
        ended.machine.cycles.toNat = machine.cycles.toNat + 1)) := by
  constructor
  · obtain ⟨count, ended, hended, hends⟩ := machine.runAmid_spec others max hcycles
    refine ⟨count, ended, hended, hends, ?_⟩
    rintro rfl
    obtain rfl : count = 0 := Nat.le_zero.mp hends.bounded
    cases hends.iterates
    exact ⟨rfl, rfl⟩
  · intro hmax
    have hpos : 0 < max.toNat := UInt64.lt_iff_toNat_lt.mp hmax
    obtain ⟨count, ended, hended, hends⟩ :=
      machine.runAmid_spec (fun _ => .done ()) max hcycles
    obtain ⟨single, htick, _⟩ := machine.tick_spec (by omega)
    obtain ⟨hresult, hgate, hmemory, hall, hone⟩ := hends.alone hpos htick
    refine ⟨ended, single, hended, htick, hresult, hgate, hmemory, ?_, ?_⟩
    · intro hretry
      rw [hends.counts, hall hretry]
    · intro hother
      rw [hends.counts, hone hother]

/-- A machine whose guest polls for a message with a request of four bytes. -/
def Machine.polling : Except Abort (Machine Stock) := do
  let machine := (← Machine.new 1 {}).value
  let request :=
    { Request.toControl .pollMessage 0x100 8 with requestAddr := 0x10, requestLen := 4 }
  return { machine with gate := ← machine.gate.writeRegisters request.write }

/-- One message, sent before the third cycle. -/
def Machine.lateMessage (k : Nat) : Activity Unit :=
  if k = 2 then .send ⟨⟨48, by decide⟩⟩ [1, 2, 3] fun _ => .done () else .done ()

/-- Two cycles retry, and the third delivers the message. Without it every cycle retries. -/
theorem polling_ends_after_three :
    ∃ machine ended alone, Machine.polling = .ok machine ∧
      machine.runAmid Machine.lateMessage 5 = .ok ended ∧
      machine.EndsAfter Machine.lateMessage 5 3 ended ∧
      ended.result = .ok .completed ∧ machine.run 5 = .ok alone ∧ alone.result = .ok .retry ∧
      alone.machine.cycles = 5 := by
  have hseen : (do
      let machine ← Machine.polling
      let ended ← machine.runAmid Machine.lateMessage 5
      let single ← machine.tick
      return (machine.cycles, (ended.machine.cycles, ended.result), single.result)) =
      .ok (0, (3, .ok .completed), .ok .retry) := by decide +kernel
  obtain ⟨machine, hmachine, hseen⟩ := exists_of_bind_ok hseen
  obtain ⟨ended, hended, hseen⟩ := exists_of_bind_ok hseen
  obtain ⟨single, hsingle, hseen⟩ := exists_of_bind_ok hseen
  simp only [pure, Except.pure, Except.ok.injEq, Prod.mk.injEq] at hseen
  obtain ⟨hstart, ⟨hend, hresult⟩, hretry⟩ := hseen
  obtain ⟨⟨count, ended', hended', hends, _⟩, halone⟩ :=
    run_is_least_iteration machine Machine.lateMessage 5 (by rw [hstart]; decide)
  cases hended.symm.trans hended'
  obtain ⟨alone, single', hrun, hsingle', hsame, _, _, hall, _⟩ := halone (by decide)
  cases hsingle.symm.trans hsingle'
  have hcount : count = 3 := by
    have hcounts := hends.counts
    rw [hstart, hend] at hcounts
    exact (hcounts.trans (Nat.zero_add count)).symm
  have hcycles := hall hretry
  rw [hstart] at hcycles
  exact ⟨machine, ended, alone, hmachine, hended, hcount ▸ hends, hresult, hrun, hsame.trans hretry,
    UInt64.toNat_inj.mp hcycles⟩

end HostCalls
