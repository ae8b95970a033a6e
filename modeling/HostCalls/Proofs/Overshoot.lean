import HostCalls.Proofs.Delivery
import HostCalls.Proofs.QueueTraffic
import HostCalls.Proofs.SafeConfig

/-!
# How far the queue of a gate overshoots

Whatever happens in a session is traffic on the queue of its gate: sends, by other contexts or by a
service at work, and one message that a poll takes and puts back or delivers. At most this one
message is out, so the queue holds at most one message more than its capacity, and no more than its
capacity if nobody sends while the message is out.
-/
namespace HostCalls

variable {σ : Type}

/-- The queue of a gate with the message that is out of it for a tick. -/
def Phase.custody (phase : Phase σ) : Custody := ⟨phase.gate.queue, phase.inFlight⟩

lemma Phase.inFlight_length_le (phase : Phase σ) : phase.inFlight.length ≤ 1 := by
  cases phase with
  | resting gate memory => exact Nat.zero_le 1
  | ticking call =>
    simp only [inFlight]
    cases call.answer with
    | reply result => exact Nat.zero_le 1
    | delivery message => exact Nat.le_refl 1

/-- Whether another context sends. -/
def Action.isSend : Action σ → Bool
  | .send _ _ => true
  | _ => false

/-! ## Ticks as traffic -/

lemma Ticked.settle_queue {μ : Type} (ticked : Ticked σ μ) (message : Message) :
    (ticked.settle message).gate.queue = ticked.gate.queue ∨
      (ticked.settle message).gate.queue = ticked.gate.queue.pushFront message := by
  unfold settle putBack
  split
  · exact .inl rfl
  · split
    · exact .inr rfl
    · exact .inl rfl
  · exact .inr rfl
  · exact .inr rfl
  · exact .inr rfl

/-- The end of a tick puts back the message that is out, or it is out no longer. -/
lemma InFlight.Finishes.leads {μ : Type} [GuestMemory μ] {call : InFlight σ μ}
    {ticked : Ticked σ μ} (h : call.Finishes ticked) (limit : Nat) :
    (Custody.mk call.gate.queue call.answer.messages).Leads limit ⟨ticked.gate.queue, []⟩ := by
  cases h with
  | failed code hanswer =>
    rw [hanswer]
    exact .refl
  | responded response hanswer reported hreported =>
    have hqueue : reported.gate.queue = call.gate.queue :=
      congrArg Registry.queue hreported.config_registry.2
    rw [hanswer, ← hqueue]
    exact .refl
  | delivered message hanswer reported hreported =>
    have hqueue : reported.gate.queue = call.gate.queue :=
      congrArg Registry.queue hreported.config_registry.2
    rw [hanswer, ← hqueue]
    apply Relation.ReflTransGen.single
    obtain hkept | hback := reported.settle_queue message
    · have hstep : (Custody.mk reported.gate.queue [message]).step (.giveUp message) =
          ⟨(reported.settle message).gate.queue, []⟩ := by
        simp only [Custody.step, List.erase_cons_head, hkept]
      exact hstep ▸ .giveUp message
    · have hstep : (Custody.mk reported.gate.queue [message]).step (.restore message) =
          ⟨(reported.settle message).gate.queue, []⟩ := by
        rw [Custody.step_restore List.mem_cons_self, hback, List.erase_cons_head]
      exact hstep ▸ .restore message

/-- The beginning of a tick lets a service send, or takes the oldest message. -/
lemma Gate.Dispatches.leads {μ : Type} [Service σ] [GuestMemory μ] {gate : Gate σ} {memory : μ}
    {call : InFlight σ μ} (h : gate.Dispatches memory (.inFlight call)) (limit : Nat) :
    (Custody.mk gate.queue []).Leads limit ⟨call.gate.queue, call.answer.messages⟩ := by
  cases h with
  | called hpending payload read hcopy id hservice =>
    cases hfind : gate.registry.services.find? id with
    | none =>
      rw [gate.registry.call_of_not_find hfind]
      exact .refl
    | some service =>
      rw [gate.registry.call_of_find hfind]
      exact Custody.leads_perform (Nat.zero_le limit) (Service.handle service payload) gate.queue
  | polled hcontrol hservice payload read hcopy message rest hqueue =>
    have hpop : (Custody.mk gate.queue []).step .pop =
        ⟨{ gate.queue with messages := rest }, [message]⟩ := Custody.step_pop hqueue
    exact .single (hpop ▸ .pop)
  | refused hpending hcontrol hservice payload read hcopy target htarget event => exact .refl

/-! ## Sessions as traffic -/

namespace Session

variable [Service σ] {session next : Session σ}

/-- Whether sends by other contexts fall only where at most `limit` messages are out. -/
def sendsWithin (limit : Nat) (session : Session σ) : List (Action σ) → Bool
  | [] => true
  | action :: rest =>
    (!action.isSend || session.phase.inFlight.length ≤ limit) &&
      match session.step action with
      | .ok next => next.sendsWithin limit rest
      | .error _ => true

/-- At most one message is out at any point. -/
lemma sendsWithin_one (session : Session σ) (actions : List (Action σ)) :
    session.sendsWithin 1 actions = true := by
  induction actions generalizing session with
  | nil => rfl
  | cons action rest ih =>
    have hout := session.phase.inFlight_length_le
    simp only [sendsWithin, hout, decide_true, Bool.or_true, Bool.true_and]
    split
    · exact ih _
    · rfl

/-- What one action does to the queue. -/
lemma step_leads {limit : Nat} {action : Action σ} (hstep : session.step action = .ok next)
    (hsend : action.isSend = true → session.phase.inFlight.length ≤ limit) :
    session.phase.custody.Leads limit next.phase.custody := by
  obtain ⟨phase, accepted, delivered⟩ := session
  cases phase with
  | resting gate memory =>
    cases action with
    | store act =>
      obtain ⟨stored, hstored, hnext⟩ := exists_of_bind_ok hstep
      cases hnext
      have hqueue : stored.queue = gate.queue :=
        congrArg Registry.queue (gate.writeRegisters_frame hstored).1
      show (Custody.mk gate.queue []).Leads limit ⟨stored.queue, []⟩
      rw [hqueue]
    | memory operation =>
      obtain ⟨changed, happly, hnext⟩ := exists_of_bind_ok hstep
      cases hnext
      exact .refl
    | register id service =>
      cases hstep
      exact .refl
    | send sender payload =>
      cases hstep
      exact Custody.leads_perform (Nat.zero_le limit) (.single sender payload) gate.queue
    | beginTick =>
      obtain ⟨dispatched, hdispatch, heq⟩ := step_beginTick gate memory accepted delivered
      cases heq.symm.trans hstep
      cases dispatched with
      | ended ticked => cases hdispatch <;> exact .refl
      | inFlight call => exact hdispatch.leads limit
    | endTick =>
      cases hstep
      exact .refl
  | ticking call =>
    cases action with
    | send sender payload =>
      cases hstep
      exact Custody.leads_perform (hsend rfl) (.single sender payload) call.gate.queue
    | endTick =>
      obtain ⟨ticked, hfinish, heq⟩ := step_endTick call accepted delivered
      cases heq.symm.trans hstep
      exact hfinish.leads limit
    | _ =>
      cases hstep
      exact .refl

lemma run_leads {limit : Nat} (actions : List (Action σ)) {session : Session σ}
    (hsends : session.sendsWithin limit actions = true) (hrun : session.run actions = .ok next) :
    session.phase.custody.Leads limit next.phase.custody := by
  induction actions generalizing session with
  | nil =>
    cases hrun
    exact .refl
  | cons action rest ih =>
    obtain ⟨after, hstep, hafter⟩ := exists_of_bind_ok hrun
    simp only [sendsWithin, hstep, Bool.and_eq_true, Bool.or_eq_true, Bool.not_eq_true',
      decide_eq_true_eq] at hsends
    obtain ⟨hfirst, hrest⟩ := hsends
    have hsend : action.isSend = true → session.phase.inFlight.length ≤ limit := by
      intro hsend
      rcases hfirst with hnot | hout
      · rw [hsend] at hnot; cases hnot
      · exact hout
    exact (step_leads hstep hsend).trans (ih hrest hafter)

/-- The queue of a gate holds at most as many messages more than its capacity as are out when
another context sends. -/
lemma pending_le {limit : Nat} {config : Config} {gate : Gate σ} (hnew : Gate.new config = .ok gate)
    (memory : PagedMemory) (actions : List (Action σ))
    (hsends : (start gate memory).sendsWithin limit actions = true)
    (hrun : (start gate memory).run actions = .ok session) :
    session.phase.gate.pending ≤ config.queueCapacity.toNat + limit := by
  have hqueue : gate.queue = ⟨[], config.queueCapacity, config.maxPayloadLen⟩ :=
    congrArg Registry.queue (Gate.new_eq hnew).2.2
  have hcustody : (start gate memory).phase.custody =
      ⟨⟨[], config.queueCapacity, config.maxPayloadLen⟩, []⟩ := by rw [← hqueue]; rfl
  have hleads := run_leads actions hsends hrun
  rw [hcustody] at hleads
  have htotal : session.phase.custody.total ≤ config.queueCapacity.toNat + limit :=
    Custody.Leads.total_le hleads (Nat.zero_le _)
  exact Nat.le_trans (Nat.le_add_right _ _) htotal

end Session

/-- A queue takes a payload exactly if it is not too long and there is room, names the reason
otherwise, length before room, and changes by an accepted message at its back only; and with at
most `K` messages out at any point, it holds together with them at most `K` messages more than its
capacity. The queue of a gate, whatever happens in a session, holds at most one message more than
its capacity, and no more than its capacity if nobody sends while a poll has a message out. Sends
by others that fall into the work of a service count as sends of the service, which may send in
anybody's name. -/
theorem queue_admits_and_overshoot_bounded [Service σ] :
    (∀ capacity max : UInt64, 0 < capacity.toNat →
      ∃ queue, MessageQueue.withLimits capacity max = .ok queue ∧ ∀ actions : List QueueAction,
        ((Custody.mk queue []).run actions).queue.Admits capacity max ∧
        ∀ K, (∀ earlier ∈ actions.inits, ((Custody.mk queue []).run earlier).out.length ≤ K) →
          ((Custody.mk queue []).run actions).queue.length +
              ((Custody.mk queue []).run actions).out.length ≤ capacity.toNat + K ∧
            ((Custody.mk queue []).run actions).queue.length ≤ capacity.toNat + K) ∧
    ∀ (config : Config) (gate : Gate σ), Gate.new config = .ok gate →
      ∀ (memory : PagedMemory) (actions : List (Action σ)) (session : Session σ),
        (Session.start gate memory).run actions = .ok session →
        session.phase.gate.pending ≤ config.queueCapacity.toNat + 1 ∧
        ((Session.start gate memory).sendsWithin 0 actions = true →
          session.phase.gate.pending ≤ config.queueCapacity.toNat) := by
  constructor
  · intro capacity max hcapacity
    refine ⟨⟨[], capacity, max⟩, if_neg (Nat.ne_of_gt hcapacity), ?_⟩
    intro actions
    constructor
    · have hadmits := ((Custody.mk ⟨[], capacity, max⟩ []).run actions).queue.admits
      obtain ⟨hcapacity', hmax⟩ := (Custody.mk ⟨[], capacity, max⟩ []).run_limits actions
      rwa [hcapacity', hmax] at hadmits
    · intro K hout
      have htotal := Custody.Leads.total_le (Custody.leads_run _ actions hout) (Nat.zero_le _)
      exact ⟨htotal, Nat.le_trans (Nat.le_add_right _ _) htotal⟩
  · intro config gate hnew memory actions session hrun
    have hone := Session.sendsWithin_one (Session.start gate memory) actions
    refine ⟨Session.pending_le hnew memory actions hone hrun, ?_⟩
    intro hquiet
    exact Session.pending_le hnew memory actions hquiet hrun

/-- A second message takes the place of one that is out, which goes back nevertheless. -/
def crossing : List QueueAction :=
  [.send ⟨⟨11, by decide⟩⟩ [1], .pop, .send ⟨⟨12, by decide⟩⟩ [2],
    .restore ⟨⟨11, by decide⟩, [1]⟩]

/-- A poll without a buffer, after one send and before another. -/
def failingPoll (amid later : List (Action Stock)) : List (Action Stock) :=
  [.send ⟨⟨13, by decide⟩⟩ [1], .store (Request.toControl .pollMessage 0 0).write, .beginTick] ++
    amid ++ .endTick :: later

/-- With room for one message, a queue holds two after a send that crossed a poll, and a gate too;
it holds one if the send comes after the poll. -/
theorem crossing_overshoots_by_one :
    (∃ queue, MessageQueue.withLimits 1 8 = .ok queue ∧
      ((Custody.mk queue []).run crossing).queue.Admits 1 8 ∧
      ((Custody.mk queue []).run crossing).queue.length = 2 ∧
      ((Custody.mk queue []).run crossing).queue.length +
        ((Custody.mk queue []).run crossing).out.length ≤ 1 + 1) ∧
    ∃ gate crossed quiet, Gate.new { queueCapacity := 1 } = .ok gate ∧
      (Session.start gate .onePage).run (failingPoll [.send ⟨⟨8, by decide⟩⟩ [2]] []) =
        .ok crossed ∧ crossed.phase.gate.pending = 2 ∧ crossed.phase.gate.pending ≤ 1 + 1 ∧
      (Session.start gate .onePage).run (failingPoll [] [.send ⟨⟨8, by decide⟩⟩ [2]]) =
        .ok quiet ∧ quiet.phase.gate.pending ≤ 1 := by
  obtain ⟨hqueues, hgates⟩ := queue_admits_and_overshoot_bounded (σ := Stock)
  constructor
  · obtain ⟨queue, hqueue, hall⟩ := hqueues 1 8 (by decide)
    obtain ⟨hadmits, hbound⟩ := hall crossing
    cases hqueue
    exact ⟨_, rfl, hadmits, by decide, (hbound 1 (by decide)).1⟩
  · have hseen : (do
        let gate ← Gate.new { queueCapacity := 1 }
        let start := Session.start gate .onePage
        let crossed ← start.run (failingPoll [.send ⟨⟨8, by decide⟩⟩ [2]] [])
        let _ ← start.run (failingPoll [] [.send ⟨⟨8, by decide⟩⟩ [2]])
        return (crossed.phase.gate.pending,
          start.sendsWithin 0 (failingPoll [] [.send ⟨⟨8, by decide⟩⟩ [2]]))) =
          .ok (2, true) := by decide +kernel
    obtain ⟨gate, hgate, hseen⟩ := exists_of_bind_ok hseen
    obtain ⟨crossed, hcrossed, hseen⟩ := exists_of_bind_ok hseen
    obtain ⟨quiet, hquiet, hseen⟩ := exists_of_bind_ok hseen
    obtain ⟨hpending, hsends⟩ := Prod.mk.inj (Except.ok.inj hseen)
    have hbound := hgates _ gate hgate .onePage
    exact ⟨gate, crossed, quiet, hgate, hcrossed, hpending, (hbound _ crossed hcrossed).1, hquiet,
      (hbound _ quiet hquiet).2 hsends⟩

end HostCalls
