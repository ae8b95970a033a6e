import HostCalls.Proofs.Overshoot

/-!
# Every message can be delivered

The limit for messages stands in the queue, where sends are checked against it, and in the
configuration of the gate, where responses are. Both are the same in every session, and whatever is
in the queue or out of it passed the first check. So the second one never turns a message away:
a poll finds nothing, is completed, or ends for a reason that the guest can mend, and the
message goes back.
-/
namespace HostCalls

variable {σ : Type}

namespace Session

variable [Service σ] {config : Config} {gate : Gate σ} {session : Session σ}

/-- No message of a session, queued or in flight, is longer than the configuration permits. -/
lemma messages_short (hnew : Gate.new config = .ok gate) (memory : PagedMemory)
    (actions : List (Action σ)) (hrun : (start gate memory).run actions = .ok session) :
    session.phase.gate.config.maxPayloadLen = config.maxPayloadLen ∧
    ∀ message ∈ session.phase.inFlight ++ session.phase.gate.queue.messages,
      message.payload.length ≤ config.maxPayloadLen.toNat := by
  have hstart : (start gate memory).Sound := sound_resting (gate.new_flow hnew)
  have hflow := (hstart.run actions hrun).flow
  have hleads := run_leads actions (sendsWithin_one _ actions) hrun
  -- the limit in the queue never changes, and the one in the gate is always the same
  have hqueue : gate.queue = ⟨[], config.queueCapacity, config.maxPayloadLen⟩ :=
    congrArg Registry.queue (Gate.new_eq hnew).2.2
  have hlimit : session.phase.gate.config.maxPayloadLen = config.maxPayloadLen := by
    calc session.phase.gate.config.maxPayloadLen
        = session.phase.gate.queue.maxPayloadLen := hflow.limit.symm
      _ = gate.queue.maxPayloadLen := (Custody.Leads.limits hleads).2
      _ = config.maxPayloadLen := by rw [hqueue]
  refine ⟨hlimit, ?_⟩
  rw [← hlimit]
  exact hflow.short

end Session

/-! ## The end of a poll -/

section

variable {μ : Type} [GuestMemory μ] {gate : Gate σ} {memory : μ} {request : Request}
  {ticked : Ticked σ μ}

/-- The report of a response within the limit. -/
lemma Gate.Responded.result_of_short {response : Bytes}
    (h : gate.Responded memory request response ticked)
    (hshort : response.length ≤ gate.config.maxPayloadLen.toNat) :
    ticked.result = .ok .completed ∨
    ticked.result = .ok (.failed GateCode.bufferTooSmall.error) ∨
    ∃ fault written, GuestMemory.copyOut request.responseAddr response memory =
      .error fault written ∧ ticked.result = .error fault := by
  cases h with
  | tooLong hlong => exact absurd hlong (Nat.not_lt.mpr hshort)
  | tooSmall hlen hsmall => exact .inr (.inl rfl)
  | faulted hlen hsize fault written hcopy => exact .inr (.inr ⟨fault, written, hcopy, rfl⟩)
  | completed hlen hsize written hcopy => exact .inl rfl

/-- A message within the limit was delivered or goes back; it is not dropped. -/
lemma Gate.Responded.settle_of_short {message : Message}
    (h : gate.Responded memory request message.payload ticked)
    (hshort : message.payload.length ≤ gate.config.maxPayloadLen.toNat) :
    (ticked.result = .ok .completed ∧ ticked.settle message = ticked) ∨
      (ticked.result ≠ .ok .completed ∧ ticked.settle message = ticked.putBack message) := by
  obtain hdone | hsmall | ⟨fault, _, _, hfault⟩ := h.result_of_short hshort
  · exact .inl ⟨hdone, by simp only [Ticked.settle, hdone]⟩
  · exact .inr ⟨by simp [hsmall], by simp [Ticked.settle, hsmall]⟩
  · exact .inr ⟨by simp [hfault], by simp only [Ticked.settle, hfault]⟩

variable [Service σ] {others : Activity Unit}

/-- A poll waits exactly on an empty queue. Otherwise it is about the oldest message, and ends as
the report of it does. -/
lemma Gate.Ticks.poll_result {payload : Bytes} {read : μ} (h : gate.Ticks memory others ticked)
    (hcontrol : gate.value Layout.control = 1) (hservice : gate.value Layout.service = 0)
    (hcopy : GuestMemory.copyIn gate.request.requestAddr gate.request.requestLen memory =
      .ok payload read)
    (hshort : ∀ message ∈ gate.queue.messages,
      message.payload.length ≤ gate.config.maxPayloadLen.toNat) :
    (gate.queue.messages = [] ∧ ticked.result = .ok .retry) ∨
    ∃ message rest, gate.queue.messages = message :: rest ∧
      (ticked.result = .ok .completed ∨
        ticked.result = .ok (.failed GateCode.bufferTooSmall.error) ∨
        ∃ fault written, GuestMemory.copyOut gate.request.responseAddr message.payload read =
          .error fault written ∧ ticked.result = .error fault) := by
  cases h with
  | ended ended _ hdispatch =>
    cases hdispatch with
    | idle hidle => rw [hcontrol] at hidle; cases hidle
    | faulted _ fault read' hcopy' => cases hcopy.symm.trans hcopy'
    | waiting _ _ _ _ _ hqueue => exact .inl ⟨hqueue, rfl⟩
  | finished call _ hdispatch _ hfinish =>
    -- the service register is zero, so no service was called, and control is one, so it is a poll
    cases hdispatch with
    | called _ _ _ _ id hid => exact absurd (hid.symm.trans hservice) id.nonzero
    | refused _ hother => exact absurd hcontrol hother
    | polled _ _ _ _ hcopy' message rest hqueue =>
      cases hcopy.symm.trans hcopy'
      refine .inr ⟨message, rest, hqueue, ?_⟩
      cases hfinish with
      | failed code hanswer => cases hanswer
      | responded response hanswer => cases hanswer
      | delivered polled hanswer reported hreported =>
        cases hanswer
        rw [reported.settle_result message]
        exact hreported.result_of_short (hshort message (by rw [hqueue]; exact List.mem_cons_self))

end

/-- At every point of every session all queued messages are within the limit of the configuration. A
poll whose request can be read ends in a retry, exactly if the queue is empty, is completed, finds
the buffer too small, or faults on the copy of the oldest message, and in no other way. A message
that is out for a poll is never dropped: unless it was delivered, it goes back. -/
theorem queued_messages_deliverable [Service σ] {config : Config} {gate : Gate σ}
    (hnew : Gate.new config = .ok gate) (memory : PagedMemory) (actions : List (Action σ))
    {session : Session σ} (hrun : (Session.start gate memory).run actions = .ok session) :
    (∀ message ∈ session.phase.gate.queue.messages,
      message.payload.length ≤ config.maxPayloadLen.toNat) ∧
    (∀ polled found request payload read, session.phase = .resting polled found →
      polled.readRegisters Request.read = .ok request → request.control = 1 →
      request.service = 0 →
      GuestMemory.copyIn request.requestAddr request.requestLen found = .ok payload read →
      ∀ others, ∃ ticked, polled.tickAmid found others = .ok ticked ∧
        (ticked.result = .ok .retry ↔ polled.queue.messages = []) ∧
        (ticked.result = .ok .retry ∨ ticked.result = .ok .completed ∨
          ticked.result = .ok (.failed GateCode.bufferTooSmall.error) ∨
          ∃ message fault written, polled.queue.messages.head? = some message ∧
            GuestMemory.copyOut request.responseAddr message.payload read =
              .error fault written ∧ ticked.result = .error fault)) ∧
    ∀ call message, session.phase = .ticking call → call.answer = .delivery message →
      ∃ reported, call.gate.respond call.memory call.request message.payload = .ok reported ∧
        ((reported.result = .ok .completed ∧ reported.settle message = reported) ∨
          (reported.result ≠ .ok .completed ∧
            reported.settle message = reported.putBack message)) := by
  obtain ⟨hlimit, hshort⟩ := Session.messages_short hnew memory actions hrun
  refine ⟨fun message hmem => hshort message (List.mem_append_right _ hmem), ?_, ?_⟩
  · intro polled found request payload read hphase hread hcontrol hservice hcopy others
    cases polled.readRegisters_request.symm.trans hread
    rw [hphase] at hlimit hshort
    rw [← hlimit] at hshort
    obtain ⟨ticked, htick, hspec⟩ := polled.tickAmid_spec found others
    refine ⟨ticked, htick, ?_⟩
    obtain ⟨hempty, hretry⟩ | ⟨message, rest, hqueue, hend⟩ :=
      hspec.poll_result hcontrol hservice hcopy hshort
    · simp [hempty, hretry]
    · rw [hqueue]
      obtain hdone | hsmall | ⟨fault, written, hcopyOut, hfault⟩ := hend
      · simp [hdone]
      · simp [hsmall]
      · refine ⟨by simp [hfault], .inr (.inr (.inr ?_))⟩
        exact ⟨message, fault, written, rfl, hcopyOut, hfault⟩
  · intro call message hphase hanswer
    rw [hphase] at hlimit hshort
    have hmem : message ∈ call.answer.messages ++ call.gate.queue.messages := by
      rw [hanswer]
      exact List.mem_cons_self
    have hlen := hshort message hmem
    rw [← hlimit] at hlen
    obtain ⟨reported, hrespond, hreported⟩ :=
      call.gate.respond_spec call.memory call.request message.payload
    exact ⟨reported, hrespond, hreported.settle_of_short hlen⟩

/-- A message one byte too long, one of the greatest length, and a poll with room for one byte. -/
def crampedPoll (later : List (Action Stock)) : List (Action Stock) :=
  [.send ⟨⟨14, by decide⟩⟩ [1, 2, 3], .send ⟨⟨14, by decide⟩⟩ [1, 2],
    .store (Request.toControl .pollMessage 0 1).write] ++ later

/-- The longest message that a gate permits finds the buffer too small. It goes back also if another
one has taken its place in the queue meanwhile. -/
theorem crampedPoll_deliverable :
    ∃ gate, Gate.new { maxPayloadLen := 2, queueCapacity := 1 } = .ok gate ∧
    (∃ session polled found ticked,
      (Session.start gate .onePage).run (crampedPoll []) = .ok session ∧
      (∀ message ∈ session.phase.gate.queue.messages, message.payload.length ≤ 2) ∧
      session.phase = .resting polled found ∧ polled.pending = 1 ∧
      polled.tickAmid found (.done ()) = .ok ticked ∧ ticked.result ≠ .ok .retry ∧
      ticked.result = .ok (.failed GateCode.bufferTooSmall.error)) ∧
    ∃ session call message reported, (Session.start gate .onePage).run
        (crampedPoll [.beginTick, .send ⟨⟨8, by decide⟩⟩ [3, 4]]) = .ok session ∧
      session.phase = .ticking call ∧ call.answer = .delivery message ∧
      call.gate.pending = 1 ∧
      call.gate.respond call.memory call.request message.payload = .ok reported ∧
      reported.settle message = reported.putBack message := by
  have hseen : (do
      let gate ← Gate.new { maxPayloadLen := 2, queueCapacity := 1 }
      let session ← (Session.start gate .onePage).run (crampedPoll [])
      let crossed ← (Session.start gate .onePage).run
        (crampedPoll [.beginTick, .send ⟨⟨8, by decide⟩⟩ [3, 4]])
      match session.phase, crossed.phase with
      | .resting polled found, .ticking call =>
        let request ← polled.readRegisters Request.read
        let ticked ← polled.tickAmid found (.done ())
        let reported ← call.gate.respond call.memory call.request [1, 2]
        return ((request, polled.pending, ticked.result),
          (call.answer.messages, call.gate.pending, reported.result))
      | _, _ => .error .bounds) =
        .ok ((Request.toControl .pollMessage 0 1, 1,
            .ok (.failed GateCode.bufferTooSmall.error)),
          ([⟨⟨14, by decide⟩, [1, 2]⟩], 1, .ok (.failed GateCode.bufferTooSmall.error))) := by
    decide +kernel
  obtain ⟨gate, hgate, hseen⟩ := exists_of_bind_ok hseen
  obtain ⟨session, hsession, hseen⟩ := exists_of_bind_ok hseen
  obtain ⟨crossed, hcrossed, hseen⟩ := exists_of_bind_ok hseen
  split at hseen
  · next polled found call hresting hticking =>
    obtain ⟨request, hrequest, hseen⟩ := exists_of_bind_ok hseen
    obtain ⟨ticked, hticked, hseen⟩ := exists_of_bind_ok hseen
    obtain ⟨reported, hreported, hseen⟩ := exists_of_bind_ok hseen
    simp only [pure, Except.pure, Except.ok.injEq, Prod.mk.injEq] at hseen
    obtain ⟨⟨rfl, hpending, hresult⟩, hmessages, hcrossing, hreport⟩ := hseen
    refine ⟨gate, hgate, ?_, ?_⟩
    · obtain ⟨hshort, hpoll, _⟩ := queued_messages_deliverable hgate .onePage _ hsession
      obtain ⟨ticked', hticked', hretry, _⟩ :=
        hpoll polled found _ [] found hresting hrequest rfl rfl rfl (.done ())
      cases hticked.symm.trans hticked'
      have hsome : polled.queue.messages ≠ [] := by
        intro hempty
        simp [Gate.pending, MessageQueue.length, hempty] at hpending
      exact ⟨session, polled, found, ticked, hsession, hshort, hresting, hpending, hticked,
        mt hretry.mp hsome, hresult⟩
    · obtain ⟨_, _, hcall⟩ := queued_messages_deliverable hgate .onePage _ hcrossed
      have hanswer : call.answer = .delivery ⟨⟨14, by decide⟩, [1, 2]⟩ := by
        cases hcase : call.answer with
        | reply result => simp [hcase, Answer.messages] at hmessages
        | delivery message => simpa [hcase, Answer.messages] using hmessages
      obtain ⟨reported', hreported', hsettled⟩ := hcall call _ hticking hanswer
      cases hreported.symm.trans hreported'
      rw [hreport] at hsettled
      simp only [reduceCtorEq, Except.ok.injEq, false_and, false_or] at hsettled
      exact ⟨crossed, call, _, reported, hcrossed, hticking, hanswer, hcrossing, hreported,
        hsettled.2⟩
  · cases hseen

end HostCalls
