import HostCalls.Proofs.TickCases

/-!
# Outcome and status

What a tick tells the host and what the guest finds in the registers are two reports of the
same thing. A pending request ends in one of three ways: it is completed and `control` is
zero, it failed and the code is reported, or it did not get that far and both registers are
as they were. Only the first one makes the gate idle.
-/
namespace HostCalls

variable {σ μ : Type}

/-- The end of a tick on a pending request, given `control` and the response code before it. -/
inductive Ticked.Reported (control : UInt8) (code : Int32) (ticked : Ticked σ μ) : Prop
  | completed (hresult : ticked.result = .ok .completed)
      (hcontrol : ticked.gate.value Layout.control = 0)
      (hcode : ticked.gate.value Layout.responseCode = 0)
  | failed (error : ErrorCode) (hresult : ticked.result = .ok (.failed error))
      (hcontrol : ticked.gate.value Layout.control = control)
      (hcode : ticked.gate.value Layout.responseCode = error.raw)
  | stopped (hresult : ticked.result = .ok .retry ∨ ∃ fault, ticked.result = .error fault)
      (hcontrol : ticked.gate.value Layout.control = control)
      (hcode : ticked.gate.value Layout.responseCode = code)

/-- The report is in the result and two registers. -/
lemma Ticked.Reported.congr {control : UInt8} {code : Int32} {ticked other : Ticked σ μ}
    (h : ticked.Reported control code) (hresult : other.result = ticked.result)
    (hcontrol : other.gate.value Layout.control = ticked.gate.value Layout.control)
    (hcode : other.gate.value Layout.responseCode = ticked.gate.value Layout.responseCode) :
    other.Reported control code := by
  cases h with
  | completed hresult' hcontrol' hcode' =>
    exact .completed (hresult.trans hresult') (hcontrol.trans hcontrol') (hcode.trans hcode')
  | failed error hresult' hcontrol' hcode' =>
    exact .failed error (hresult.trans hresult') (hcontrol.trans hcontrol') (hcode.trans hcode')
  | stopped hresult' hcontrol' hcode' =>
    rw [← hresult] at hresult'
    exact .stopped hresult' (hcontrol.trans hcontrol') (hcode.trans hcode')

lemma Gate.Responded.reported [GuestMemory μ] {gate : Gate σ} {memory : μ} {request : Request}
    {response : Bytes} {ticked : Ticked σ μ}
    (h : gate.Responded memory request response ticked) :
    ticked.Reported (gate.value Layout.control) (gate.value Layout.responseCode) := by
  cases h with
  | tooLong hlong =>
    refine .failed _ rfl ?_ ?_
    · exact Gate.value_assign_apart _ (by decide) _
    · exact Gate.value_assign _ (by decide) _
  | tooSmall hlen hsmall =>
    refine .failed _ rfl ?_ ?_
    · rw [Gate.value_assign_apart _ (by decide), Gate.value_assign_apart _ (by decide)]
    · exact Gate.value_assign _ (by decide) _
  | faulted hlen hsize fault written hcopy =>
    refine .stopped (.inr ⟨fault, rfl⟩) ?_ ?_
    · exact Gate.value_assign_apart _ (by decide) _
    · exact Gate.value_assign_apart _ (by decide) _
  | completed hlen hsize written hcopy =>
    refine .completed rfl ?_ ?_
    · exact Gate.value_assign _ (by decide) _
    · rw [Gate.value_assign_apart _ (by decide), Gate.value_assign _ (by decide)]

lemma InFlight.Finishes.reported [GuestMemory μ] {call : InFlight σ μ} {ticked : Ticked σ μ}
    (h : call.Finishes ticked) :
    ticked.Reported (call.gate.value Layout.control) (call.gate.value Layout.responseCode) := by
  cases h with
  | failed code hanswer =>
    refine .failed code rfl ?_ ?_
    · exact Gate.value_assign_apart _ (by decide) _
    · exact Gate.value_assign _ (by decide) _
  | responded response hanswer reported hreported =>
    -- the events are the only difference
    exact hreported.reported.congr rfl rfl rfl
  | delivered message hanswer reported hreported =>
    exact hreported.reported.congr (reported.settle_result message)
      (reported.settle_value message _) (reported.settle_value message _)

/-- A dispatched call has the registers of its gate, but for the origin of a polled message. -/
lemma Gate.Dispatches.value_inFlight [Service σ] [GuestMemory μ] {α : Type} [Stored α]
    [LawfulStored α] {gate : Gate σ} {memory : μ} {call : InFlight σ μ}
    (h : gate.Dispatches memory (.inFlight call)) (register : Register α)
    (hother : register.Apart Layout.service) :
    call.gate.value register = gate.value register := by
  cases h with
  | called hpending payload read hcopy id hservice => rfl
  | polled hcontrol hservice payload read hcopy message rest hqueue =>
    exact Gate.value_assign_apart _ hother _
  | refused hpending hcontrol hservice payload read hcopy target htarget event => rfl

lemma Gate.Dispatches.pending_inFlight [Service σ] [GuestMemory μ] {gate : Gate σ} {memory : μ}
    {call : InFlight σ μ} (h : gate.Dispatches memory (.inFlight call)) :
    gate.value Layout.control ≠ 0 := by
  cases h with
  | called hpending => exact hpending
  | polled hcontrol => rw [hcontrol]; decide
  | refused hpending => exact hpending

/-- A tick is idle if nothing is pending, and otherwise it is reported. -/
lemma Gate.Ticks.reported [Service σ] [GuestMemory μ] {gate : Gate σ} {memory : μ}
    {others : Activity Unit} {ticked : Ticked σ μ} (h : gate.Ticks memory others ticked) :
    (gate.value Layout.control = 0 ∧ ticked.result = .ok .idle ∧
      ticked.gate.value Layout.control = 0) ∨
    (gate.value Layout.control ≠ 0 ∧
      ticked.Reported (gate.value Layout.control) (gate.value Layout.responseCode)) := by
  cases h with
  | ended ended _ hdispatch =>
    cases hdispatch with
    | idle hidle => exact .inl ⟨hidle, rfl, hidle⟩
    | faulted hpending fault read hcopy =>
      exact .inr ⟨hpending, .stopped (.inr ⟨fault, rfl⟩) rfl rfl⟩
    | waiting hcontrol hservice payload read hcopy hqueue =>
      exact .inr ⟨by rw [hcontrol]; decide, .stopped (.inl rfl) rfl rfl⟩
  | finished call _ hdispatch _ hfinish =>
    have hreported := hfinish.reported
    rw [InFlight.value_amid, InFlight.value_amid,
      hdispatch.value_inFlight Layout.control (by decide),
      hdispatch.value_inFlight Layout.responseCode (by decide)] at hreported
    exact .inr ⟨hdispatch.pending_inFlight, hreported⟩

section

variable [Service σ] [GuestMemory μ] {gate : Gate σ} {memory : μ} {others : Activity Unit}
  {ticked : Ticked σ μ}

lemma Gate.Ticks.idle_iff (h : gate.Ticks memory others ticked) :
    ticked.result = .ok .idle ↔ gate.value Layout.control = 0 := by
  obtain ⟨hzero, hresult, _⟩ | ⟨hpending, hreported⟩ := h.reported
  · simp [hzero, hresult]
  · cases hreported with
    | completed hresult => simp [hpending, hresult]
    | failed error hresult => simp [hpending, hresult]
    | stopped hresult => rcases hresult with hresult | ⟨fault, hresult⟩ <;> simp [hpending, hresult]

/-- Only a completed request clears `control`. -/
lemma Gate.Ticks.control_of_completed (h : gate.Ticks memory others ticked)
    (hdone : ticked.result = .ok .completed) : ticked.gate.value Layout.control = 0 := by
  obtain ⟨_, _, hcontrol⟩ | ⟨_, hreported⟩ := h.reported
  · exact hcontrol
  · cases hreported with
    | completed _ hcontrol => exact hcontrol
    | failed error hresult => rw [hresult] at hdone; cases hdone
    | stopped hresult =>
      rcases hresult with hresult | ⟨fault, hresult⟩ <;> rw [hresult] at hdone <;> cases hdone

lemma Gate.Ticks.control_of_not_completed (h : gate.Ticks memory others ticked)
    (hopen : ticked.result ≠ .ok .completed) :
    ticked.gate.value Layout.control = gate.value Layout.control := by
  obtain ⟨hzero, _, hcontrol⟩ | ⟨_, hreported⟩ := h.reported
  · rw [hzero, hcontrol]
  · cases hreported with
    | completed hresult => exact absurd hresult hopen
    | failed error hresult hcontrol => exact hcontrol
    | stopped hresult hcontrol => exact hcontrol

end

/-- The outcome that the host sees and the status that the guest sees agree on every tick. The
status before it is `before`, the one after it `after`; a tick always comes to an end. -/
theorem tick_outcome_agrees_with_status [Service σ] [GuestMemory μ] (gate : Gate σ) (memory : μ)
    (others : Activity Unit) :
    ∃ before ticked after, gate.readRegisters Status.read = .ok before ∧
      gate.tickAmid memory others = .ok ticked ∧
      ticked.gate.readRegisters Status.read = .ok after ∧
      (ticked.result = .ok .idle ↔ before.control = 0) ∧
      (ticked.result = .ok .completed →
        after.control = 0 ∧ after.isIdle = true ∧ after.error? = none) ∧
      (∀ code, ticked.result = .ok (.failed code) →
        before.control ≠ 0 ∧ after.control = before.control ∧ after.error? = some code) ∧
      (ticked.result = .ok .retry ∨ (∃ fault, ticked.result = .error fault) →
        before.control ≠ 0 ∧ after.control = before.control ∧
          after.responseCode = before.responseCode) ∧
      (before.control ≠ 0 ∧ after.control = 0 ↔ ticked.result = .ok .completed) := by
  obtain ⟨ticked, htick, hspec⟩ := gate.tickAmid_spec memory others
  refine ⟨gate.status, ticked, ticked.gate.status, gate.readRegisters_status, htick,
    ticked.gate.readRegisters_status, ?_⟩
  simp only [Gate.status, Status.isIdle, Status.error?]
  obtain ⟨hzero, hresult, hcontrol⟩ | ⟨hpending, hreported⟩ := hspec.reported
  · simp [hzero, hresult]
  · cases hreported with
    | completed hresult hcontrol hcode => simp [hpending, hresult, hcontrol, hcode]
    | failed error hresult hcontrol hcode => simp [hpending, hresult, hcontrol, hcode]
    | stopped hresult hcontrol hcode =>
      rcases hresult with hresult | ⟨fault, hresult⟩
      · simp [hpending, hresult, hcontrol, hcode]
      · simp [hpending, hresult, hcontrol, hcode]

end HostCalls
