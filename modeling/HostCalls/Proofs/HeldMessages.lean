import HostCalls.Proofs.Deliverable
import HostCalls.Proofs.PendingErrors
import HostCalls.Proofs.Polling

/-!
# Messages that were not delivered

A poll that fails leaves its message at the front of the queue and the origin of the message in the
service register. As long as the guest does not store into the registers, that register
is never zero again, so every further tick is a call and not a poll. Such ticks may come to
anything, but they take no message. Once the guest polls with a buffer for it, it gets the
message.
-/
namespace HostCalls

variable {σ : Type}

/-- The guest stores into the register page. -/
def Action.storesRegisters : Action σ → Bool
  | .store _ => true
  | _ => false

/-- The memory changes from outside of the gate. -/
def Action.changesMemory : Action σ → Bool
  | .memory _ => true
  | _ => false

/-! ## The failed poll -/

/-- A report that the guest does not get still tells it the length. -/
lemma Gate.Responded.responseLen_of_open {μ : Type} [GuestMemory μ] {gate : Gate σ} {memory : μ}
    {request : Request} {response : Bytes} {ticked : Ticked σ μ}
    (h : gate.Responded memory request response ticked)
    (hshort : response.length ≤ gate.config.maxPayloadLen.toNat)
    (hopen : ticked.result ≠ .ok .completed) :
    (ticked.gate.value Layout.responseLen).toNat = response.length := by
  have hlength := gate.toNat_length hshort
  cases h with
  | tooLong hlong => exact absurd hlong (Nat.not_lt.mpr hshort)
  | tooSmall hlen hsmall =>
    rw [Gate.value_assign_apart _ (by decide), Gate.value_assign _ (by decide), hlength]
  | faulted hlen hsize fault written hcopy => rw [Gate.value_assign _ (by decide), hlength]
  | completed hlen hsize written hcopy => exact absurd rfl hopen

/-- Reporting leaves the service register alone. -/
lemma Gate.Responded.service {μ : Type} [GuestMemory μ] {gate : Gate σ} {memory : μ}
    {request : Request} {response : Bytes} {ticked : Ticked σ μ}
    (h : gate.Responded memory request response ticked) :
    ticked.gate.value Layout.service = gate.value Layout.service := by
  cases h <;> simp (disch := decide) only [Gate.value_assign_apart]

lemma InFlight.Finishes.service {μ : Type} [GuestMemory μ] {call : InFlight σ μ}
    {ticked : Ticked σ μ} (h : call.Finishes ticked) :
    ticked.gate.value Layout.service = call.gate.value Layout.service := by
  cases h with
  | failed code hanswer => exact Gate.value_assign_apart _ (by decide) _
  | responded response hanswer reported hreported => exact hreported.service
  | delivered message hanswer reported hreported =>
    exact (reported.settle_value message _).trans hreported.service

namespace Gate

variable [Service σ]

/-- A tick that works on a request and does not fault has read it. -/
lemma Ticks.exists_copyIn {μ : Type} [GuestMemory μ] {gate : Gate σ} {memory : μ}
    {others : Activity Unit} {ticked : Ticked σ μ} (h : gate.Ticks memory others ticked)
    (hpending : gate.value Layout.control ≠ 0) (hresult : ∀ fault, ticked.result ≠ .error fault) :
    ∃ payload read, GuestMemory.copyIn gate.request.requestAddr gate.request.requestLen memory =
      .ok payload read := by
  cases h with
  | ended ended _ hdispatch =>
    cases hdispatch with
    | idle hidle => exact absurd hidle hpending
    | faulted _ fault read hcopy => exact absurd rfl (hresult fault)
    | waiting _ _ payload read hcopy => exact ⟨payload, read, hcopy⟩
  | finished call _ hdispatch _ hfinish =>
    cases hdispatch with
    | called _ payload read hcopy => exact ⟨payload, read, hcopy⟩
    | polled _ _ payload read hcopy => exact ⟨payload, read, hcopy⟩
    | refused _ _ _ payload read hcopy => exact ⟨payload, read, hcopy⟩

variable {gate : Gate σ} {memory read : PagedMemory} {others : Activity Unit}
  {ticked : Ticked σ PagedMemory} {payload : Bytes} {message : Message} {rest : List Message}

/-- A poll that is not completed puts the message back, before those that others have sent
meanwhile, and names its origin and length. -/
lemma Ticks.held_of_open (h : gate.Ticks memory others ticked)
    (hcontrol : gate.value Layout.control = 1) (hservice : gate.value Layout.service = 0)
    (hcopy : GuestMemory.copyIn gate.request.requestAddr gate.request.requestLen memory =
      .ok payload read) (hqueue : gate.queue.messages = message :: rest)
    (hshort : message.payload.length ≤ gate.config.maxPayloadLen.toNat)
    (hopen : ticked.result ≠ .ok .completed) :
    ticked.gate.value Layout.control = 1 ∧
    ticked.gate.value Layout.service = message.origin.raw ∧
    (ticked.gate.value Layout.responseLen).toNat = message.payload.length ∧
    ticked.gate.queue.messages =
      message :: (rest ++ others.accepted { gate.queue with messages := rest }) := by
  obtain ⟨hempty, _⟩ | ⟨_, _, reported, hqueue', hreported, hgate, _, hresult⟩ :=
    h.poll hcontrol hservice hcopy
  · cases hempty.symm.trans hqueue
  · cases hqueue.symm.trans hqueue'
    rw [hresult] at hopen
    have hstays := h.control_of_not_completed (by rwa [hresult])
    have horigin := hreported.service.trans (gate.service_without message _)
    have hback := hreported.settle_queue hshort hopen
    refine ⟨hstays.trans hcontrol, ?_, ?_, ?_⟩
    · rw [hgate, Ticked.settle_value, horigin]
    · rw [hgate, Ticked.settle_value, hreported.responseLen_of_open hshort hopen]
    · rw [hgate, hback, queue_without, others.perform_queue]
      rfl

end Gate

/-! ## Ticks that are no polls -/

/-- A tick with an id in the service register takes no message. Its service may send some. -/
lemma Gate.Dispatches.of_service [Service σ] {gate : Gate σ} {memory : PagedMemory}
    {call : InFlight σ PagedMemory} (h : gate.Dispatches memory (.inFlight call))
    (hservice : gate.value Layout.service ≠ 0) :
    call.gate.value Layout.service = gate.value Layout.service ∧ call.answer.messages = [] ∧
      call.gate.queue.messages = gate.queue.messages ++ gate.acceptedInside memory := by
  cases h with
  | polled _ hzero => exact absurd hzero hservice
  | refused _ _ hzero => exact absurd hzero hservice
  | called hpending payload read hcopy id hid =>
    refine ⟨rfl, rfl, ?_⟩
    simp only [acceptedInside, invocation?_called hpending hcopy hid, queue]
    cases hfind : gate.registry.services.find? id with
    | none =>
      rw [gate.registry.call_of_not_find hfind]
      exact (List.append_nil _).symm
    | some service =>
      rw [gate.registry.call_of_find hfind]
      simp only [Activity.perform_queue, Option.map_some]

/-- A send by another context, at any point. -/
lemma Gate.messages_send (gate : Gate σ) {held accepted : List Message}
    (h : gate.queue.messages = held ++ accepted) (sender : Sender) (payload : Bytes) :
    (gate.perform (.single sender payload)).value.2.queue.messages =
      held ++ (accepted ++ gate.queue.accepted sender payload) := by
  rw [← List.append_assoc, ← h]
  exact congrArg MessageQueue.messages (gate.queue.send_queue sender payload)

namespace Session

/-- Messages are held: they stay where they are in the queue, and what is accepted comes behind
them. No tick is about a message, now or as long as the service register is left alone. -/
structure Holds (session : Session σ) (config : Config) (held : List Message) : Prop where
  config : session.phase.gate.config = config
  service : session.phase.gate.value Layout.service ≠ 0
  inFlight : session.phase.inFlight = []
  queue : session.phase.gate.queue.messages = held ++ session.accepted

variable [Service σ] {session next : Session σ} {config : Config} {held : List Message}
  {action : Action σ}

lemma Holds.step (h : session.Holds config held) (hstores : action.storesRegisters = false)
    (hstep : session.step action = .ok next) : next.Holds config held := by
  obtain ⟨phase, accepted, delivered⟩ := session
  obtain ⟨hconfig, hservice, hinFlight, hqueue⟩ := h
  cases phase with
  | resting gate memory =>
    cases action with
    | store act => cases hstores
    | memory operation =>
      obtain ⟨changed, _, hstep⟩ := exists_of_bind_ok hstep
      cases hstep
      exact ⟨hconfig, hservice, rfl, hqueue⟩
    | register id service =>
      cases hstep
      exact ⟨hconfig, hservice, rfl, hqueue⟩
    | send sender payload =>
      cases hstep
      exact ⟨hconfig, hservice, rfl, gate.messages_send hqueue sender payload⟩
    | endTick =>
      cases hstep
      exact ⟨hconfig, hservice, rfl, hqueue⟩
    | beginTick =>
      obtain ⟨dispatched, hdispatch, heq⟩ := step_beginTick gate memory accepted delivered
      cases heq.symm.trans hstep
      cases dispatched with
      | ended ticked =>
        rw [hdispatch.acceptedInside_ended, List.append_nil]
        cases hdispatch <;> exact ⟨hconfig, hservice, rfl, hqueue⟩
      | inFlight call =>
        obtain ⟨hsame, hnone, hmessages⟩ := hdispatch.of_service hservice
        refine ⟨hdispatch.config.trans hconfig, ?_, hnone, ?_⟩
        · show call.gate.value Layout.service ≠ 0
          rwa [hsame]
        · show call.gate.queue.messages = held ++ (accepted ++ gate.acceptedInside memory)
          rw [hmessages, ← List.append_assoc]
          exact congrArg (· ++ gate.acceptedInside memory) hqueue
  | ticking call =>
    cases action with
    | store act => cases hstores
    | send sender payload =>
      cases hstep
      exact ⟨hconfig, hservice, hinFlight, call.gate.messages_send hqueue sender payload⟩
    | endTick =>
      obtain ⟨ticked, hfinish, heq⟩ := step_endTick call accepted delivered
      cases heq.symm.trans hstep
      -- nothing is in flight, so the answer to be reported is no message
      cases hanswer : call.answer with
      | delivery message =>
        rw [Phase.inFlight, hanswer] at hinFlight
        cases hinFlight
      | reply result =>
        have hregistry := hfinish.registry_of_reply hanswer
        refine ⟨hfinish.config.trans hconfig, ?_, rfl, ?_⟩
        · show ticked.gate.value Layout.service ≠ 0
          rwa [hfinish.service]
        · show ticked.gate.registry.queue.messages = held ++ accepted
          rw [hregistry]
          exact hqueue
    | _ =>
      cases hstep
      exact ⟨hconfig, hservice, hinFlight, hqueue⟩

lemma Holds.run (actions : List (Action σ)) {session : Session σ} (h : session.Holds config held)
    (hstores : ∀ action ∈ actions, action.storesRegisters = false)
    (hrun : session.run actions = .ok next) : next.Holds config held := by
  induction actions generalizing session with
  | nil =>
    cases hrun
    exact h
  | cons action rest ih =>
    obtain ⟨after, hstep, hrun⟩ := exists_of_bind_ok hrun
    obtain ⟨hfirst, hrest⟩ := List.forall_mem_cons.mp hstores
    exact ih (h.step hfirst hstep) hrest hrun

/-- Whatever happens, except in the registers and in memory, happens without an abort. -/
lemma step_ok (session : Session σ) (hstores : action.storesRegisters = false)
    (hmemory : action.changesMemory = false) : ∃ next, session.step action = .ok next := by
  obtain ⟨phase, accepted, delivered⟩ := session
  cases phase with
  | resting gate memory =>
    cases action with
    | store act => cases hstores
    | memory operation => cases hmemory
    | beginTick =>
      obtain ⟨dispatched, _, heq⟩ := step_beginTick gate memory accepted delivered
      exact ⟨_, heq⟩
    | _ => exact ⟨_, rfl⟩
  | ticking call =>
    cases action with
    | endTick =>
      obtain ⟨ticked, _, heq⟩ := step_endTick call accepted delivered
      exact ⟨_, heq⟩
    | _ => exact ⟨_, rfl⟩

lemma run_ok (session : Session σ) {actions : List (Action σ)}
    (hstores : ∀ action ∈ actions, action.storesRegisters = false)
    (hmemory : ∀ action ∈ actions, action.changesMemory = false) :
    ∃ last, session.run actions = .ok last := by
  induction actions generalizing session with
  | nil => exact ⟨session, rfl⟩
  | cons action rest ih =>
    obtain ⟨hstores, hstoresRest⟩ := List.forall_mem_cons.mp hstores
    obtain ⟨hmemory, hmemoryRest⟩ := List.forall_mem_cons.mp hmemory
    obtain ⟨next, hstep⟩ := session.step_ok hstores hmemory
    obtain ⟨last, hlast⟩ := ih next hstoresRest hmemoryRest
    refine ⟨last, ?_⟩
    rw [run, hstep]
    exact hlast

end Session

/-- A poll in a session that finds the buffer too small, or faults although the request could be
read, leaves the message at the front of the queue and its origin and length in the registers. From
there on, as long as the guest does not store into the registers, ticks and sends go on
without an abort and no tick takes a message: the queue grows at its back only. At any
point between two ticks a poll with a buffer for the message is completed and delivers it. -/
theorem undelivered_message_held [Service σ] {config : Config} {gate : Gate σ}
    (hnew : Gate.new config = .ok gate) (memory : PagedMemory) (actions : List (Action σ))
    {session : Session σ} (hrun : (Session.start gate memory).run actions = .ok session)
    {polled : Gate σ} {found : PagedMemory} (hphase : session.phase = .resting polled found)
    {request : Request} (hread : polled.readRegisters Request.read = .ok request)
    (hcontrol : request.control = 1) (hservice : request.service = 0)
    {message : Message} {rest : List Message} (hqueue : polled.queue.messages = message :: rest)
    (others : Activity Unit) {ticked : Ticked σ PagedMemory}
    (htick : polled.tickAmid found others = .ok ticked)
    (hends : ticked.result = .ok (.failed GateCode.bufferTooSmall.error) ∨
      ∃ payload read fault, ticked.result = .error fault ∧
        GuestMemory.copyIn request.requestAddr request.requestLen found = .ok payload read) :
    ∃ status behind, ticked.gate.readRegisters Status.read = .ok status ∧ status.control = 1 ∧
      status.service = message.origin.raw ∧
      status.responseLen.toNat = message.payload.length ∧
      behind = rest ++ others.accepted { polled.queue with messages := rest } ∧
      ticked.gate.queue.messages = message :: behind ∧
      ∀ later : List (Action σ), (∀ action ∈ later, action.storesRegisters = false) →
        ((∀ action ∈ later, action.changesMemory = false) →
          ∃ after, (Session.start ticked.gate ticked.memory).run later = .ok after) ∧
        ∀ after, (Session.start ticked.gate ticked.memory).run later = .ok after →
          after.phase.inFlight = [] ∧
          after.phase.gate.queue.messages = message :: (behind ++ after.accepted) ∧
          ∀ waiting now, after.phase = .resting waiting now →
            ∀ buffer : Buffer, buffer.Fits now message → ∀ amid : Activity Unit,
              ∃ delivered, waiting.poll now buffer amid = .ok delivered ∧
                delivered.Delivers buffer message ∧
                delivered.gate.queue = (amid.perform
                  { waiting.queue with messages := behind ++ after.accepted }).queue := by
  cases polled.readRegisters_request.symm.trans hread
  have hspec := polled.ticks_of_tickAmid htick
  obtain ⟨hlimit, hmessages⟩ := Session.messages_short hnew memory actions hrun
  rw [hphase] at hlimit hmessages
  have hshort : message.payload.length ≤ polled.config.maxPayloadLen.toNat := by
    have hmem : message ∈ polled.queue.messages := by rw [hqueue]; exact List.mem_cons_self
    have hlen := hmessages message hmem
    rwa [← hlimit] at hlen
  have hopen : ticked.result ≠ .ok .completed := by
    rcases hends with hsmall | ⟨_, _, _, hfault, _⟩
    · simp [hsmall]
    · simp [hfault]
  have hcopied : ∃ payload read, GuestMemory.copyIn polled.request.requestAddr
      polled.request.requestLen found = .ok payload read := by
    rcases hends with hsmall | ⟨payload, read, _, _, hcopy⟩
    · have hpending : polled.value Layout.control ≠ 0 := by
        rw [show polled.value Layout.control = 1 from hcontrol]
        decide
      exact hspec.exists_copyIn hpending (by simp [hsmall])
    · exact ⟨payload, read, hcopy⟩
  obtain ⟨payload, read, hcopy⟩ := hcopied
  obtain ⟨hpending, horigin, hlength, hheld⟩ :=
    hspec.held_of_open hcontrol hservice hcopy hqueue hshort hopen
  refine ⟨_, _, Gate.readRegisters_status _, hpending, horigin, hlength, rfl, hheld, ?_⟩
  intro later hstores
  have hstart : (Session.start ticked.gate ticked.memory).Holds polled.config
      (message :: (rest ++ others.accepted { polled.queue with messages := rest })) := by
    refine ⟨hspec.config, ?_, rfl, ?_⟩
    · show ticked.gate.value Layout.service ≠ 0
      rw [horigin]
      exact message.origin.nonzero
    · exact hheld.trans (List.append_nil _).symm
  refine ⟨fun hmemory => Session.run_ok _ hstores hmemory, ?_⟩
  intro after hafter
  obtain ⟨hconfig, _, hinFlight, hkept⟩ := hstart.run later hstores hafter
  refine ⟨hinFlight, hkept, ?_⟩
  intro waiting now hresting buffer hfits amid
  rw [hresting] at hconfig hkept
  rw [← hconfig] at hshort
  obtain ⟨delivered, hpoll, hdelivers, _, _, hregistry⟩ :=
    waiting.poll_delivers now buffer amid hkept hshort hfits
  exact ⟨delivered, hpoll, hdelivers, congrArg Registry.queue hregistry⟩

/-- A message of a service, and a poll into a place that is not mapped. -/
def misplacedPoll : List (Action Stock) :=
  [.register ⟨32, by decide⟩ (.push ⟨⟨32, by decide⟩⟩ 1), .send ⟨⟨32, by decide⟩⟩ [1, 2],
    .store (Request.toControl .pollMessage 4096 2).write]

/-- The next tick calls the origin of the message, which sends another one. Both are in the queue
when the guest polls again, and it gets the first. -/
theorem misplacedPoll_held :
    ∃ gate session polled found ticked status after waiting now delivered,
      Gate.new {} = .ok gate ∧
      (Session.start gate .onePage).run misplacedPoll = .ok session ∧
      session.phase = .resting polled found ∧
      polled.tickAmid found (.done ()) = .ok ticked ∧
      ticked.result = .error ⟨.outOfRange, 4096⟩ ∧
      ticked.gate.readRegisters Status.read = .ok status ∧ status.service = 32 ∧
      status.responseLen.toNat = 2 ∧
      (Session.start ticked.gate ticked.memory).run
        [.beginTick, .send ⟨⟨34, by decide⟩⟩ [3], .endTick] = .ok after ∧
      after.phase = .resting waiting now ∧
      waiting.queue.messages = [⟨⟨32, by decide⟩, [1, 2]⟩, ⟨⟨32, by decide⟩, []⟩,
        ⟨⟨34, by decide⟩, [3]⟩] ∧
      waiting.poll now ⟨0, 2⟩ (.done ()) = .ok delivered ∧
      delivered.Delivers ⟨0, 2⟩ ⟨⟨32, by decide⟩, [1, 2]⟩ := by
  have hseen : (do
      let gate ← Gate.new {}
      let session ← (Session.start gate .onePage).run misplacedPoll
      match session.phase with
      | .ticking _ => .error .bounds
      | .resting polled found => do
        let ticked ← polled.tickAmid found (.done ())
        let after ← (Session.start ticked.gate ticked.memory).run
          [.beginTick, .send ⟨⟨34, by decide⟩⟩ [3], .endTick]
        match after.phase with
        | .ticking _ => .error .bounds
        | .resting waiting now =>
          return ((← polled.readRegisters Request.read, polled.queue.messages, ticked.result),
            (after.accepted, decide (now.Permits .writeOnly 0 2)))) =
        .ok ((Request.toControl .pollMessage 4096 2, [⟨⟨32, by decide⟩, [1, 2]⟩],
            .error ⟨.outOfRange, 4096⟩),
          ([⟨⟨32, by decide⟩, []⟩, ⟨⟨34, by decide⟩, [3]⟩], true)) := by
    decide +kernel
  obtain ⟨gate, hgate, hseen⟩ := exists_of_bind_ok hseen
  obtain ⟨session, hsession, hseen⟩ := exists_of_bind_ok hseen
  split at hseen
  · cases hseen
  · next polled found hresting =>
    obtain ⟨ticked, hticked, hseen⟩ := exists_of_bind_ok hseen
    obtain ⟨after, hafter, hseen⟩ := exists_of_bind_ok hseen
    split at hseen
    · cases hseen
    · next waiting now hwaiting =>
      obtain ⟨request, hrequest, hseen⟩ := exists_of_bind_ok hseen
      simp only [pure, Except.pure, Except.ok.injEq, Prod.mk.injEq, decide_eq_true_eq] at hseen
      obtain ⟨⟨rfl, hqueue, hresult⟩, haccepted, hwritable⟩ := hseen
      obtain ⟨status, behind, hstatus, _, hservice, hlength, hbehind, _, hlater⟩ :=
        undelivered_message_held hgate .onePage _ hsession hresting hrequest rfl rfl hqueue
          (.done ()) hticked (.inr ⟨[], found, _, hresult, rfl⟩)
      obtain ⟨_, hheld⟩ := hlater [.beginTick, .send ⟨⟨34, by decide⟩⟩ [3], .endTick] (by decide)
      obtain ⟨_, hkept, hpoll⟩ := hheld after hafter
      obtain ⟨delivered, hdelivered, hdelivers, _⟩ :=
        hpoll waiting now hwaiting ⟨0, 2⟩ ⟨by decide, hwritable⟩ (.done ())
      rw [hwaiting, hbehind, haccepted] at hkept
      exact ⟨gate, session, polled, found, ticked, status, after, waiting, now, delivered, hgate,
        hsession, hresting, hticked, hresult, hstatus, hservice, hlength, hafter, hwaiting, hkept,
        hdelivered, hdelivers⟩

end HostCalls
