import HostCalls.Proofs.Confinement
import HostCalls.Proofs.Session
import HostCalls.Proofs.TickStatus
import HostCalls.Service.Stock

/-!
# Messages are delivered once and in order

At every point of a session the accepted messages are, in order, those that the guest found, the
one that a tick is about to deliver, and those in the queue. The invariant also says that nothing
in the queue is too long to be delivered. This is why no message is ever dropped: a polled message
is found by the guest or goes back to the place it was taken from.
-/
namespace HostCalls

variable {σ : Type}

/-- The flow of messages through a gate, one of which may be out of the queue. -/
structure Gate.Flow (gate : Gate σ) (inFlight accepted : List Message)
    (delivered : List (UInt32 × List (Option UInt8))) : Prop where
  order : delivered ++ (inFlight ++ gate.queue.messages).map Message.parcel =
    accepted.map Message.parcel
  limit : gate.queue.maxPayloadLen = gate.config.maxPayloadLen
  short : ∀ message ∈ inFlight ++ gate.queue.messages,
    message.payload.length ≤ gate.config.maxPayloadLen.toNat

namespace Gate.Flow

variable {gate other : Gate σ} {inFlight accepted : List Message} {message : Message}
  {delivered : List (UInt32 × List (Option UInt8))}

/-- Registers and services have no part in the flow. -/
lemma congr (h : gate.Flow inFlight accepted delivered) (hqueue : other.queue = gate.queue)
    (hconfig : other.config = gate.config) : other.Flow inFlight accepted delivered := by
  obtain ⟨horder, hlimit, hshort⟩ := h
  exact ⟨by rwa [hqueue], by rwa [hqueue, hconfig], by rwa [hqueue, hconfig]⟩

/-- Whoever sends, the accepted messages join at the back. -/
lemma perform {α : Type} (h : gate.Flow inFlight accepted delivered) (activity : Activity α)
    (hqueue : other.queue = (activity.perform gate.queue).queue)
    (hconfig : other.config = gate.config) :
    other.Flow inFlight (accepted ++ activity.accepted gate.queue) delivered := by
  obtain ⟨horder, hlimit, hshort⟩ := h
  rw [activity.perform_queue] at hqueue
  have hmessages : other.queue.messages = gate.queue.messages ++ activity.accepted gate.queue := by
    rw [hqueue]
  have hmax : other.queue.maxPayloadLen = gate.queue.maxPayloadLen := by rw [hqueue]
  refine ⟨?_, ?_, ?_⟩
  · simp only [List.map_append] at horder
    simp only [hmessages, List.map_append, ← horder, List.append_assoc]
  · rw [hmax, hconfig, hlimit]
  · intro message hmem
    rw [hmessages, ← List.append_assoc] at hmem
    rw [hconfig]
    rcases List.mem_append.mp hmem with hold | hnew
    · exact hshort message hold
    · rw [← hlimit]
      exact activity.accepted_short gate.queue message hnew

/-- A poll takes the oldest message. -/
lemma pop {rest : List Message} (h : gate.Flow [] accepted delivered)
    (hfront : gate.queue.messages = message :: rest) (hmessages : other.queue.messages = rest)
    (hmax : other.queue.maxPayloadLen = gate.queue.maxPayloadLen)
    (hconfig : other.config = gate.config) : other.Flow [message] accepted delivered := by
  obtain ⟨horder, hlimit, hshort⟩ := h
  rw [hfront] at horder hshort
  refine ⟨?_, ?_, ?_⟩
  · rw [hmessages]
    exact horder
  · rw [hmax, hconfig, hlimit]
  · rw [hmessages, hconfig]
    exact hshort

/-- A message that was not delivered goes back to where it came from. -/
lemma putBack (h : gate.Flow [message] accepted delivered)
    (hmessages : other.queue.messages = message :: gate.queue.messages)
    (hmax : other.queue.maxPayloadLen = gate.queue.maxPayloadLen)
    (hconfig : other.config = gate.config) : other.Flow [] accepted delivered := by
  obtain ⟨horder, hlimit, hshort⟩ := h
  refine ⟨?_, ?_, ?_⟩
  · rw [hmessages]
    exact horder
  · rw [hmax, hconfig, hlimit]
  · rw [hmessages, hconfig]
    exact hshort

/-- A message that the guest found is no longer in flight. -/
lemma deliver (h : gate.Flow [message] accepted delivered) (hqueue : other.queue = gate.queue)
    (hconfig : other.config = gate.config) :
    other.Flow [] accepted (delivered ++ [message.parcel]) := by
  obtain ⟨horder, hlimit, hshort⟩ := h
  refine ⟨?_, ?_, ?_⟩
  · rw [hqueue, ← horder]
    simp only [List.map_append, List.map_cons, List.map_nil, List.nil_append, List.append_assoc]
  · rwa [hqueue, hconfig]
  · intro message hmem
    rw [hqueue] at hmem
    rw [hconfig]
    exact hshort message (List.mem_append_right _ hmem)

end Gate.Flow

/-- A call between its halves is about a message exactly if it is a poll, and the registers name
the origin of the message and the response buffer. -/
structure InFlight.Faithful (call : InFlight σ PagedMemory) : Prop where
  addr : call.gate.value Layout.responseAddr = call.request.responseAddr
  polled : ∀ message, call.answer = .delivery message →
    call.target = .control .pollMessage ∧ call.gate.value Layout.service = message.origin.raw
  replied : ∀ result, call.answer = .reply result → call.target ≠ .control .pollMessage

lemma InFlight.Faithful.amid {call : InFlight σ PagedMemory} (h : call.Faithful)
    (others : Activity Unit) : (call.amid others).Faithful :=
  ⟨h.addr, h.polled, h.replied⟩

/-! ## The end of a tick -/

lemma InFlight.delivers_of_target {call : InFlight σ PagedMemory}
    (h : call.target ≠ .control .pollMessage) (ticked : Ticked σ PagedMemory) :
    call.delivers ticked = [] := by
  unfold delivers
  split
  · next htarget hresult => exact absurd htarget h
  · rfl

lemma InFlight.delivers_of_result (call : InFlight σ PagedMemory) {ticked : Ticked σ PagedMemory}
    (h : ticked.result ≠ .ok .completed) : call.delivers ticked = [] := by
  unfold delivers
  split
  · next htarget hresult => exact absurd hresult h
  · rfl

/-- A message that fits is settled by putting it back, unless it was delivered. -/
lemma Gate.Responded.settle_queue {gate : Gate σ} {memory : PagedMemory} {request : Request}
    {message : Message} {ticked : Ticked σ PagedMemory}
    (h : gate.Responded memory request message.payload ticked)
    (hshort : message.payload.length ≤ gate.config.maxPayloadLen.toNat)
    (hopen : ticked.result ≠ .ok .completed) :
    (ticked.settle message).gate.queue = gate.queue.pushFront message := by
  cases h with
  | tooLong hlong => exact absurd hlong (Nat.not_lt.mpr hshort)
  | tooSmall hlen hsmall => simp [Ticked.settle, Ticked.putBack]
  | faulted hlen hsize fault written hcopy => simp [Ticked.settle, Ticked.putBack]
  | completed hlen hsize written hcopy => exact absurd rfl hopen

/-- After a completed report the guest finds the response, with the service register as before. -/
lemma Gate.Responded.found {gate : Gate σ} {memory : PagedMemory} {request : Request}
    {response : Bytes} {ticked : Ticked σ PagedMemory}
    (h : gate.Responded memory request response ticked)
    (haddr : gate.value Layout.responseAddr = request.responseAddr)
    (hdone : ticked.result = .ok .completed) :
    ticked.found = (gate.value Layout.service, response.map some) := by
  cases h with
  | tooLong hlong => cases hdone
  | tooSmall hlen hsmall => cases hdone
  | faulted hlen hsize fault written hcopy => cases hdone
  | completed hlen hsize written hcopy =>
    have hlength := gate.toNat_length hlen
    have hpeek := (PagedMemory.copyOut_ok hcopy).peekRange
    simp (disch := decide) only [Ticked.found, value_assign_apart, value_assign, haddr, hlength,
      hpeek]

lemma InFlight.Finishes.flow {call : InFlight σ PagedMemory} {ticked : Ticked σ PagedMemory}
    {accepted : List Message} {delivered : List (UInt32 × List (Option UInt8))}
    (h : call.Finishes ticked) (hcall : call.Faithful)
    (hflow : call.gate.Flow call.answer.messages accepted delivered) :
    ticked.gate.Flow [] accepted (delivered ++ call.delivers ticked) := by
  have hconfig := h.config
  cases h with
  | failed code hanswer =>
    rw [call.delivers_of_target (hcall.replied _ hanswer), List.append_nil delivered]
    rw [hanswer] at hflow
    exact hflow.congr rfl rfl
  | responded response hanswer reported hreported =>
    rw [call.delivers_of_target (hcall.replied _ hanswer), List.append_nil delivered]
    rw [hanswer] at hflow
    exact hflow.congr (congrArg Registry.queue hreported.config_registry.2) hconfig
  | delivered message hanswer reported hreported =>
    obtain ⟨htarget, hservice⟩ := hcall.polled message hanswer
    rw [hanswer] at hflow
    have hshort := hflow.short message (by simp [Answer.messages])
    by_cases hdone : reported.result = .ok .completed
    · have hfound := hreported.found hcall.addr hdone
      rw [hservice] at hfound
      have hsettle : reported.settle message = reported := by simp only [Ticked.settle, hdone]
      simp only [hsettle] at hconfig ⊢
      have hdelivers : call.delivers { reported with
          events := call.events ++ reported.events ++ [.finished call.target reported.result] } =
          [message.parcel] := by
        simp only [delivers, htarget, hdone]
        exact congrArg (fun parcel => [parcel]) hfound
      rw [hdelivers]
      exact hflow.deliver (congrArg Registry.queue hreported.config_registry.2) hconfig
    · have hqueue := hreported.settle_queue hshort hdone
      have hmessages : (reported.settle message).gate.queue.messages =
          message :: call.gate.queue.messages := by rw [hqueue]; rfl
      have hmax : (reported.settle message).gate.queue.maxPayloadLen =
          call.gate.queue.maxPayloadLen := by rw [hqueue]; rfl
      rw [call.delivers_of_result (by simpa using hdone), List.append_nil delivered]
      exact hflow.putBack hmessages hmax hconfig

/-! ## The beginning of a tick -/

lemma Gate.invocation?_called {μ : Type} [GuestMemory μ] {gate : Gate σ} {memory read : μ}
    {payload : Bytes} {id : ServiceId} (hpending : gate.value Layout.control ≠ 0)
    (hcopy : GuestMemory.copyIn gate.request.requestAddr gate.request.requestLen memory =
      .ok payload read) (hservice : gate.value Layout.service = id.raw) :
    gate.invocation? memory =
      (gate.registry.services.find? id).map fun service => (id, service, payload) := by
  unfold invocation?
  rw [if_neg hpending, hcopy, ServiceId.ofRaw?_eq_some.mpr hservice]
  cases hfind : gate.registry.services.find? id <;> simp [hfind]

/-- The control channel asks no service. -/
lemma Gate.invocation?_control {μ : Type} [GuestMemory μ] {gate : Gate σ} (memory : μ)
    (hservice : gate.value Layout.service = 0) : gate.invocation? memory = none := by
  unfold invocation?
  split_ifs
  · rfl
  · rw [ServiceId.ofRaw?_eq_none.mpr hservice]
    split <;> rfl

section

variable [Service σ] {gate : Gate σ} {memory : PagedMemory}

lemma Gate.acceptedInside_control (hservice : gate.value Layout.service = 0) :
    gate.acceptedInside memory = [] := by
  simp only [acceptedInside, invocation?_control memory hservice]

lemma Gate.Dispatches.acceptedInside_ended {ticked : Ticked σ PagedMemory}
    (h : gate.Dispatches memory (.ended ticked)) : gate.acceptedInside memory = [] := by
  cases h with
  | idle hidle => simp only [acceptedInside, invocation?, if_pos hidle]
  | faulted hpending fault read hcopy =>
    simp only [acceptedInside, invocation?, if_neg hpending, hcopy]
  | waiting hcontrol hservice payload read hcopy hqueue => exact acceptedInside_control hservice

lemma Gate.Dispatches.faithful {call : InFlight σ PagedMemory}
    (h : gate.Dispatches memory (.inFlight call)) : call.Faithful := by
  have haddr := h.value_inFlight Layout.responseAddr (by decide)
  cases h with
  | called hpending payload read hcopy id hservice =>
    refine ⟨haddr, ?_, ?_⟩
    · intro message hanswer
      cases hanswer
    · intro result hanswer htarget
      cases htarget
  | polled hcontrol hservice payload read hcopy message rest hqueue =>
    refine ⟨haddr, ?_, ?_⟩
    · intro other hanswer
      cases hanswer
      exact ⟨rfl, value_assign _ (by decide) _⟩
    · intro result hanswer
      cases hanswer
  | refused hpending hcontrol hservice payload read hcopy target htarget event =>
    refine ⟨haddr, ?_, ?_⟩
    · intro message hanswer
      cases hanswer
    · intro result hanswer
      exact htarget

/-- The first half of a tick lets a service send, or takes the oldest message. -/
lemma Gate.Dispatches.flow {call : InFlight σ PagedMemory} {accepted : List Message}
    {delivered : List (UInt32 × List (Option UInt8))}
    (h : gate.Dispatches memory (.inFlight call)) (hflow : gate.Flow [] accepted delivered) :
    call.gate.Flow call.answer.messages (accepted ++ gate.acceptedInside memory) delivered := by
  cases h with
  | called hpending payload read hcopy id hservice =>
    simp only [acceptedInside, invocation?_called hpending hcopy hservice]
    cases hfind : gate.registry.services.find? id with
    | none =>
      rw [gate.registry.call_of_not_find hfind, Option.map_none, List.append_nil]
      exact hflow.congr rfl rfl
    | some service =>
      rw [gate.registry.call_of_find hfind]
      exact hflow.perform (Service.handle service payload) rfl rfl
  | polled hcontrol hservice payload read hcopy message rest hqueue =>
    rw [acceptedInside_control hservice, List.append_nil]
    exact hflow.pop hqueue rfl rfl rfl
  | refused hpending hcontrol hservice payload read hcopy target htarget event =>
    rw [acceptedInside_control hservice, List.append_nil]
    exact hflow

end

/-! ## Sessions -/

/-- A send by another context, at any point. -/
lemma Gate.Flow.send {gate : Gate σ} {inFlight accepted : List Message}
    {delivered : List (UInt32 × List (Option UInt8))} (h : gate.Flow inFlight accepted delivered)
    (sender : Sender) (payload : Bytes) :
    (gate.perform (.single sender payload)).value.2.Flow inFlight
      (accepted ++ gate.queue.accepted sender payload) delivered := by
  have haccepted : (Activity.single sender payload).accepted gate.queue =
      gate.queue.accepted sender payload := List.append_nil _
  rw [← haccepted]
  exact h.perform (.single sender payload) rfl rfl

lemma Gate.new_flow {config : Config} {gate : Gate σ} (h : Gate.new config = .ok gate) :
    gate.Flow [] [] [] := by
  unfold Gate.new MessageQueue.withLimits at h
  split at h
  · cases h
  · split_ifs at h with hcapacity
    cases h
    exact ⟨rfl, rfl, by simp [queue, Registry.new]⟩

namespace Session

/-- The invariant of a session: its messages flow, and a call that is on will report to the place
from which the guest reads. -/
structure Sound (session : Session σ) : Prop where
  flow : session.phase.gate.Flow session.phase.inFlight session.accepted session.delivered
  faithful : ∀ call, session.phase = .ticking call → call.Faithful

lemma sound_resting {gate : Gate σ} {memory : PagedMemory} {accepted : List Message}
    {delivered : List (UInt32 × List (Option UInt8))} (hflow : gate.Flow [] accepted delivered) :
    Sound ⟨.resting gate memory, accepted, delivered⟩ := by
  refine ⟨hflow, ?_⟩
  intro call hphase
  cases hphase

lemma sound_ticking {call : InFlight σ PagedMemory} {accepted : List Message}
    {delivered : List (UInt32 × List (Option UInt8))}
    (hflow : call.gate.Flow call.answer.messages accepted delivered) (hcall : call.Faithful) :
    Sound ⟨.ticking call, accepted, delivered⟩ := by
  refine ⟨hflow, ?_⟩
  intro other hphase
  cases hphase
  exact hcall

variable [Service σ]

/-- A tick begins, whatever gate and memory hold. -/
lemma step_beginTick (gate : Gate σ) (memory : PagedMemory) (accepted : List Message)
    (delivered : List (UInt32 × List (Option UInt8))) :
    ∃ dispatched, gate.Dispatches memory dispatched ∧
      step ⟨.resting gate memory, accepted, delivered⟩ .beginTick =
        .ok ⟨match dispatched with
          | .ended ticked => .resting ticked.gate ticked.memory
          | .inFlight call => .ticking call,
          accepted ++ gate.acceptedInside memory, delivered⟩ := by
  obtain ⟨dispatched, heq, hdispatch⟩ := gate.dispatch_spec memory
  refine ⟨dispatched, hdispatch, ?_⟩
  simp only [step, heq, ok_bind]
  cases dispatched <;> rfl

/-- A tick that is on can end. -/
lemma step_endTick (call : InFlight σ PagedMemory) (accepted : List Message)
    (delivered : List (UInt32 × List (Option UInt8))) :
    ∃ ticked, call.Finishes ticked ∧
      step ⟨.ticking call, accepted, delivered⟩ .endTick =
        .ok ⟨.resting ticked.gate ticked.memory, accepted, delivered ++ call.delivers ticked⟩ := by
  obtain ⟨ticked, heq, hfinish⟩ := call.finish_spec
  refine ⟨ticked, hfinish, ?_⟩
  simp only [step, heq, ok_bind]
  rfl

variable {session next : Session σ} {action : Action σ}

lemma Sound.step (h : session.Sound) (hstep : session.step action = .ok next) : next.Sound := by
  obtain ⟨phase, accepted, delivered⟩ := session
  have hflow := h.flow
  cases phase with
  | resting gate memory =>
    cases action with
    | store act =>
      cases hstored : gate.writeRegisters act with
      | error abort =>
        simp only [Session.step, hstored] at hstep
        cases hstep
      | ok stored =>
        simp only [Session.step, hstored, ok_bind] at hstep
        cases hstep
        obtain ⟨hregistry, hconfig⟩ := gate.writeRegisters_frame hstored
        exact sound_resting (hflow.congr (congrArg Registry.queue hregistry) hconfig)
    | memory operation =>
      cases happly : operation.apply memory with
      | error abort =>
        simp only [Session.step, happly] at hstep
        cases hstep
      | ok changed =>
        simp only [Session.step, happly, ok_bind] at hstep
        cases hstep
        exact sound_resting hflow
    | register id service =>
      cases hstep
      exact sound_resting (hflow.congr rfl rfl)
    | send sender payload =>
      cases hstep
      exact sound_resting (hflow.send sender payload)
    | beginTick =>
      obtain ⟨dispatched, hdispatch, heq⟩ := step_beginTick gate memory accepted delivered
      cases heq.symm.trans hstep
      cases dispatched with
      | ended ticked =>
        -- a tick that is over at once has not touched the gate
        rw [hdispatch.acceptedInside_ended, List.append_nil]
        apply sound_resting
        cases hdispatch <;> exact hflow
      | inFlight call => exact sound_ticking (hdispatch.flow hflow) hdispatch.faithful
    | endTick =>
      cases hstep
      exact h
  | ticking call =>
    have hcall := h.faithful call rfl
    cases action with
    | send sender payload =>
      cases hstep
      exact sound_ticking (hflow.send sender payload) (hcall.amid _)
    | endTick =>
      obtain ⟨ticked, hfinish, heq⟩ := step_endTick call accepted delivered
      cases heq.symm.trans hstep
      exact sound_resting (hfinish.flow hcall hflow)
    | _ =>
      -- gate and memory are taken
      cases hstep
      exact h

lemma Sound.run (actions : List (Action σ)) {session : Session σ} (h : session.Sound)
    (hrun : session.run actions = .ok next) : next.Sound := by
  induction actions generalizing session with
  | nil =>
    cases hrun
    exact h
  | cons action rest ih =>
    cases hstep : session.step action with
    | error abort =>
      simp only [Session.run, hstep] at hrun
      cases hrun
    | ok after =>
      simp only [Session.run, hstep, ok_bind] at hrun
      exact ih (h.step hstep) hrun

end Session

/-- At every point of every session the accepted messages are, in order, those that the guest
found after its polls, the one that is out of the queue for a tick, and those in the queue; and
a tick can begin there, or the one that is on can end. -/
theorem delivered_inFlight_queued_eq_accepted [Service σ] {config : Config} {gate : Gate σ}
    (hnew : Gate.new config = .ok gate) (memory : PagedMemory) (actions : List (Action σ))
    {session : Session σ} (hrun : (Session.start gate memory).run actions = .ok session) :
    session.delivered ++ (session.phase.inFlight ++ session.phase.gate.queue.messages).map
        Message.parcel = session.accepted.map Message.parcel ∧
      (∃ next, session.step .beginTick = .ok next) ∧ ∃ next, session.step .endTick = .ok next := by
  have hstart : (Session.start gate memory).Sound := Session.sound_resting (gate.new_flow hnew)
  refine ⟨(hstart.run actions hrun).flow.order, ?_⟩
  obtain ⟨phase, accepted, delivered⟩ := session
  cases phase with
  | resting gate memory =>
    obtain ⟨dispatched, hdispatch, heq⟩ := Session.step_beginTick gate memory accepted delivered
    exact ⟨⟨_, heq⟩, ⟨_, rfl⟩⟩
  | ticking call =>
    obtain ⟨ticked, hfinish, heq⟩ := Session.step_endTick call accepted delivered
    exact ⟨⟨_, rfl⟩, ⟨_, heq⟩⟩

/-- A poll into a buffer that is too small, a service that sends, and two more polls, with sends by
others while the polls are on. The last poll is not over. -/
def busyActions : List (Action Stock) :=
  let poll (size : UInt32) := Action.store (Request.toControl .pollMessage 0 size).write
  let sends (id : ServiceId) (payload : Bytes) := Action.send ⟨id⟩ payload
  [.register ⟨5, by decide⟩ (.push ⟨⟨5, by decide⟩⟩ 1), sends ⟨7, by decide⟩ [1, 2],
    poll 1, .beginTick, sends ⟨8, by decide⟩ [3], .endTick,
    .store (Request.toService ⟨5, by decide⟩ 0 1 64 16).write, .beginTick, .endTick,
    poll 16, .beginTick, sends ⟨8, by decide⟩ [4], .endTick,
    poll 16, .beginTick]

/-- The message of service 7 is delivered first, though it had to go back to the queue. -/
theorem busyActions_accepted :
    ∃ gate memory session, Gate.new {} = .ok gate ∧ PagedMemory.new 1 = .ok memory ∧
      (Session.start gate memory).run busyActions = .ok session ∧
      session.delivered = [(7, [some 1, some 2])] ∧
      session.phase.inFlight = [⟨⟨8, by decide⟩, [3]⟩] ∧
      session.phase.gate.queue.messages = [⟨⟨5, by decide⟩, [0]⟩, ⟨⟨8, by decide⟩, [4]⟩] ∧
      session.delivered ++ (session.phase.inFlight ++ session.phase.gate.queue.messages).map
          Message.parcel = session.accepted.map Message.parcel ∧
      (∃ next, session.step .beginTick = .ok next) ∧
      ∃ next, session.step .endTick = .ok next := by
  have hseen : (do
      let session ← (Session.start (← Gate.new {}) (← PagedMemory.new 1)).run busyActions
      return (session.delivered, session.phase.inFlight, session.phase.gate.queue.messages)) =
        .ok ([(7, [some 1, some 2])], [⟨⟨8, by decide⟩, [3]⟩],
          [⟨⟨5, by decide⟩, [0]⟩, ⟨⟨8, by decide⟩, [4]⟩]) := by decide +kernel
  cases hgate : (Gate.new {} : Except Abort (Gate Stock)) with
  | error abort => rw [hgate] at hseen; cases hseen
  | ok gate =>
    cases hmemory : PagedMemory.new 1 with
    | error abort => rw [hgate, hmemory] at hseen; cases hseen
    | ok memory =>
      rw [hgate, hmemory, ok_bind, ok_bind] at hseen
      cases hrun : (Session.start gate memory).run busyActions with
      | error abort => rw [hrun] at hseen; cases hseen
      | ok session =>
        rw [hrun, ok_bind] at hseen
        obtain ⟨hdelivered, hinFlight, hqueue⟩ := by simpa using Except.ok.inj hseen
        exact ⟨gate, memory, session, rfl, rfl, hrun, hdelivered, hinFlight, hqueue,
          delivered_inFlight_queued_eq_accepted hgate memory busyActions hrun⟩

end HostCalls
