import HostCalls.Proofs.Deliverable
import HostCalls.Proofs.Invocations
import HostCalls.Proofs.Polling
import Mathlib.Data.List.Forall2

/-!
# Draining the queue

A guest that polls once for each message, with a buffer for each, gets them all in their order.
What a round needs is left by the round before it: the limits and the permissions are what they
were, and the next message is the oldest one. The buffers may overlap, since a message only has
to be there right after its own round. No round asks a service, which is seen by polling with all
services under watch.
-/
namespace HostCalls

variable {σ τ : Type}

/-- A gate and a memory after some polls, and what each of the polls came to. -/
structure Drained (σ : Type) where
  gate : Gate σ
  memory : PagedMemory
  rounds : List (Ticked σ PagedMemory)

/-- The drained gate with every service changed. -/
def Drained.map (f : σ → τ) (drained : Drained σ) : Drained τ :=
  ⟨drained.gate.map f, drained.memory, drained.rounds.map (·.map f)⟩

namespace Gate

variable [Service σ]

/-- A poll for each of the buffers, while nobody sends. -/
def drain (gate : Gate σ) (memory : PagedMemory) : List Buffer → Except Abort (Drained σ)
  | [] => .ok ⟨gate, memory, []⟩
  | buffer :: rest => do
    let ticked ← gate.poll memory buffer (.done ())
    let drained ← ticked.gate.drain ticked.memory rest
    return { drained with rounds := ticked :: drained.rounds }

/-- One more poll. -/
lemma drain_concat {gate : Gate σ} {memory : PagedMemory} {buffers : List Buffer}
    {drained : Drained σ} (h : gate.drain memory buffers = .ok drained) {buffer : Buffer}
    {ticked : Ticked σ PagedMemory}
    (hpoll : drained.gate.poll drained.memory buffer (.done ()) = .ok ticked) :
    gate.drain memory (buffers ++ [buffer]) =
      .ok ⟨ticked.gate, ticked.memory, drained.rounds ++ [ticked]⟩ := by
  induction buffers generalizing gate memory drained with
  | nil =>
    cases h
    simp only [List.nil_append, drain, hpoll, ok_bind]
    rfl
  | cons first rest ih =>
    obtain ⟨round, hround, h⟩ := exists_of_bind_ok h
    obtain ⟨later, hlater, h⟩ := exists_of_bind_ok h
    cases h
    simp only [List.cons_append, drain, hround, ok_bind, ih hlater hpoll]
    rfl

lemma poll_map [Service τ] {f : σ → τ} (hf : Service.Respects f) (gate : Gate σ)
    (memory : PagedMemory) (buffer : Buffer) (others : Activity Unit) :
    (gate.map f).poll memory buffer others = (gate.poll memory buffer others).map (·.map f) := by
  simp only [poll, writeRegisters_issue, ok_bind]
  exact tickAmid_map hf (gate.issue _) memory others

/-- Polls go the same whatever the states of the services are. -/
lemma drain_map [Service τ] {f : σ → τ} (hf : Service.Respects f) (gate : Gate σ)
    (memory : PagedMemory) (buffers : List Buffer) :
    (gate.map f).drain memory buffers = (gate.drain memory buffers).map (·.map f) := by
  induction buffers generalizing gate memory with
  | nil => rfl
  | cons buffer rest ih =>
    simp only [drain, poll_map hf]
    cases gate.poll memory buffer (.done ()) with
    | error abort => rfl
    | ok ticked =>
      have hrest := ih ticked.gate ticked.memory
      simp only [Except.map, ok_bind, Ticked.map, hrest]
      cases ticked.gate.drain ticked.memory rest <;> rfl

/-- As many polls as there are messages, each with a buffer for its message. -/
lemma drain_delivers (gate : Gate σ) (memory : PagedMemory) {buffers : List Buffer}
    (hshort : ∀ message ∈ gate.queue.messages,
      message.payload.length ≤ gate.config.maxPayloadLen.toNat)
    (hfits : List.Forall₂ (fun message buffer => Buffer.Fits buffer memory message)
      gate.queue.messages buffers) :
    ∃ drained, gate.drain memory buffers = .ok drained ∧
      List.Forall₂ (fun posted round => Ticked.Delivers round posted.2 posted.1)
        (gate.queue.messages.zip buffers) drained.rounds ∧
      drained.gate.queue.messages = [] ∧
      drained.gate.registry.services = gate.registry.services ∧
      ∀ round ∈ drained.rounds, round.gate.registry.services = gate.registry.services := by
  generalize hqueue : gate.queue.messages = messages at hshort hfits
  induction messages generalizing gate memory buffers with
  | nil =>
    cases hfits
    exact ⟨_, rfl, .nil, hqueue, rfl, fun _ hmem => absurd hmem List.not_mem_nil⟩
  | cons message rest ih =>
    cases hfits with
    | @cons _ buffer _ buffers hfirst hrest =>
      obtain ⟨hlen, hshortRest⟩ := List.forall_mem_cons.mp hshort
      obtain ⟨ticked, hpoll, hdelivers, hpatched, hconfig, hregistry⟩ :=
        gate.poll_delivers memory buffer (.done ()) hqueue hlen hfirst
      have hservices : ticked.gate.registry.services = gate.registry.services := by rw [hregistry]
      have hleft : ticked.gate.queue.messages = rest := by rw [queue, hregistry]; rfl
      -- storing a message changes no permission, so the later buffers are as good as before
      have hfits : List.Forall₂ (fun message buffer => Buffer.Fits buffer ticked.memory message)
          rest buffers := by
        refine hrest.imp ?_
        intro later buffer hfits
        refine ⟨hfits.size, ?_⟩
        exact (PagedMemory.permits_congr hpatched.permissions _ _ _).mpr hfits.writable
      obtain ⟨drained, hdrain, hrounds, hempty, hlast, hall⟩ :=
        ih ticked.gate ticked.memory hleft (by rwa [hconfig]) hfits
      refine ⟨{ drained with rounds := ticked :: drained.rounds }, ?_, .cons hdelivers hrounds,
        hempty, hlast.trans hservices, ?_⟩
      · simp only [drain, hpoll, ok_bind, hdrain]
        rfl
      · refine List.forall_mem_cons.mpr ⟨hservices, ?_⟩
        intro round hmem
        exact (hall round hmem).trans hservices

/-- After the last message one more poll has nothing to deliver. -/
lemma drain_waits (gate : Gate σ) (memory : PagedMemory) {buffers : List Buffer}
    (hshort : ∀ message ∈ gate.queue.messages,
      message.payload.length ≤ gate.config.maxPayloadLen.toNat)
    (hfits : List.Forall₂ (fun message buffer => Buffer.Fits buffer memory message)
      gate.queue.messages buffers) (extra : Buffer) :
    ∃ drained further, gate.drain memory buffers = .ok drained ∧
      List.Forall₂ (fun posted round => Ticked.Delivers round posted.2 posted.1)
        (gate.queue.messages.zip buffers) drained.rounds ∧
      drained.gate.queue.messages = [] ∧
      drained.gate.poll drained.memory extra (.done ()) = .ok further ∧
      further.result = .ok .retry ∧ further.memory = drained.memory ∧
      further.gate = drained.gate.issue (.toControl .pollMessage extra.addr extra.size) ∧
      gate.drain memory (buffers ++ [extra]) =
        .ok ⟨further.gate, further.memory, drained.rounds ++ [further]⟩ ∧
      ∀ round ∈ drained.rounds ++ [further],
        round.gate.registry.services = gate.registry.services := by
  obtain ⟨drained, hdrain, hrounds, hempty, hlast, hall⟩ :=
    gate.drain_delivers memory hshort hfits
  obtain ⟨further, hpoll, hretry, hmemory, hgate⟩ :=
    drained.gate.poll_waits drained.memory extra hempty
  refine ⟨drained, further, hdrain, hrounds, hempty, hpoll, hretry, hmemory, hgate,
    drain_concat hdrain hpoll, ?_⟩
  intro round hmem
  rcases List.mem_append.mp hmem with hearlier | hfurther
  · exact hall round hearlier
  · rw [List.mem_singleton.mp hfurther, hgate]
    exact hlast

end Gate

/-- In a session, let the queue hold any number of messages and let there be a buffer in guest
memory for each of them. Then polling once for each message is completed in every round and
delivers the messages in order, with the gate idle after each round and the queue empty after the
last. A further poll is to be retried, and all that it changes is the request in the registers. No
round asks a service: with the services under watch the rounds are the same, and every record
stays empty. -/
theorem queue_drained_in_order [Service σ] {config : Config} {gate : Gate σ}
    (hnew : Gate.new config = .ok gate) (memory : PagedMemory) (actions : List (Action σ))
    {session : Session σ} (hrun : (Session.start gate memory).run actions = .ok session)
    {polled : Gate σ} {found : PagedMemory} (hphase : session.phase = .resting polled found)
    (guest : PagedMemory) (buffers : List Buffer)
    (hfits : List.Forall₂ (fun message buffer => Buffer.Fits buffer guest message)
      polled.queue.messages buffers) (extra : Buffer) :
    ∃ drained further watched, polled.drain guest buffers = .ok drained ∧
      List.Forall₂ (fun posted round => Ticked.Delivers round posted.2 posted.1)
        (polled.queue.messages.zip buffers) drained.rounds ∧
      drained.gate.queue.messages = [] ∧
      drained.gate.poll drained.memory extra (.done ()) = .ok further ∧
      further.result = .ok .retry ∧ further.memory = drained.memory ∧
      further.gate.queue = drained.gate.queue ∧
      drained.gate.writeRegisters (Request.toControl .pollMessage extra.addr extra.size).write =
        .ok further.gate ∧
      (polled.map Watched.fresh).drain guest (buffers ++ [extra]) = .ok watched ∧
      watched.rounds.map (·.map Watched.service) = drained.rounds ++ [further] ∧
      ∀ round ∈ watched.rounds, ∀ id, round.gate.asked id = [] := by
  obtain ⟨hlimit, hmessages⟩ := Session.messages_short hnew memory actions hrun
  rw [hphase] at hlimit hmessages
  have hshort : ∀ message ∈ polled.queue.messages,
      message.payload.length ≤ polled.config.maxPayloadLen.toNat := by
    rw [← hlimit] at hmessages
    exact hmessages
  obtain ⟨drained, further, hdrain, hrounds, hempty, hpoll, hretry, hmemory, hgate, hall, _⟩ :=
    polled.drain_waits guest hshort hfits extra
  obtain ⟨drainedWatched, furtherWatched, _, _, _, _, _, _, _, hwatch, hservices⟩ :=
    (polled.map Watched.fresh).drain_waits guest hshort hfits extra
  have hplain := (polled.map Watched.fresh).drain_map Watched.respects guest (buffers ++ [extra])
  rw [polled.map_fresh_service, hall, hwatch] at hplain
  refine ⟨drained, further, _, hdrain, hrounds, hempty, hpoll, hretry, hmemory, ?_, ?_, hwatch,
    ?_, ?_⟩
  · rw [hgate, Gate.queue_issue]
  · rw [hgate, Gate.writeRegisters_issue]
  · exact (congrArg Drained.rounds (Except.ok.inj hplain)).symm
  · intro round hmem id
    rw [Gate.asked, hservices round hmem]
    exact polled.asked_fresh id

/-- Messages of a service and of a stranger. -/
def twoPosted : List (Action Stock) :=
  [.register ⟨35, by decide⟩ .echo, .send ⟨⟨35, by decide⟩⟩ [1, 2], .send ⟨⟨36, by decide⟩⟩ [3]]

/-- Both messages are read from the same buffer, one after the other. -/
theorem twoPosted_drained :
    ∃ gate session polled found drained further watched, Gate.new {} = .ok gate ∧
      (Session.start gate .onePage).run twoPosted = .ok session ∧
      session.phase = .resting polled found ∧
      polled.drain .onePage [⟨0, 2⟩, ⟨0, 2⟩] = .ok drained ∧
      List.Forall₂ (fun posted round => Ticked.Delivers round posted.2 posted.1)
        [(⟨⟨35, by decide⟩, [1, 2]⟩, ⟨0, 2⟩), (⟨⟨36, by decide⟩, [3]⟩, ⟨0, 2⟩)]
        drained.rounds ∧
      drained.gate.poll drained.memory ⟨0, 2⟩ (.done ()) = .ok further ∧
      further.result = .ok .retry ∧
      (polled.map Watched.fresh).drain .onePage [⟨0, 2⟩, ⟨0, 2⟩, ⟨0, 2⟩] = .ok watched ∧
      ∀ round ∈ watched.rounds, round.gate.asked ⟨35, by decide⟩ = [] := by
  have hseen : (do
      let gate ← Gate.new {}
      let session ← (Session.start gate .onePage).run twoPosted
      match session.phase with
      | .ticking _ => .error .bounds
      | .resting polled _ => return polled.queue.messages) =
        .ok [⟨⟨35, by decide⟩, [1, 2]⟩, ⟨⟨36, by decide⟩, [3]⟩] := by decide +kernel
  obtain ⟨gate, hgate, hseen⟩ := exists_of_bind_ok hseen
  obtain ⟨session, hsession, hseen⟩ := exists_of_bind_ok hseen
  split at hseen
  · cases hseen
  · next polled found hresting =>
    have hqueue := Except.ok.inj hseen
    have hfits : List.Forall₂ (fun message buffer => Buffer.Fits buffer .onePage message)
        polled.queue.messages [⟨0, 2⟩, ⟨0, 2⟩] := by
      rw [hqueue]
      exact .cons ⟨by decide, by decide +kernel⟩ (.cons ⟨by decide, by decide +kernel⟩ .nil)
    obtain ⟨drained, further, watched, hdrain, hrounds, _, hpoll, hretry, _, _, _, hwatch, _,
        hasked⟩ :=
      queue_drained_in_order hgate .onePage _ hsession hresting .onePage _ hfits ⟨0, 2⟩
    rw [hqueue] at hrounds
    exact ⟨gate, session, polled, found, drained, further, watched, hgate, hsession, hresting,
      hdrain, hrounds, hpoll, hretry, hwatch, fun round hmem => hasked round hmem _⟩

end HostCalls
