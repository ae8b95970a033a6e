import HostCalls.Proofs.Sending
import Mathlib.Data.List.Infix
import Mathlib.Logic.Relation

/-!
# Traffic on a queue

Those who share a queue send messages, take the oldest one, and put back what they took or give it
up. A message that goes back finds room in a full queue too, so the capacity does not bound the
length. It bounds the length together with the messages that are out: sending adds to them only
below the capacity, taking and putting back only move a message, and giving up removes one. The
queue is too long by no more than what was out when somebody sent.
-/
namespace HostCalls

/-- What a queue with these limits does with anything that is sent to it. -/
structure MessageQueue.Admits (queue : MessageQueue) (capacity max : UInt64) : Prop where
  accepted_iff : ∀ sender payload, (queue.send sender payload).result = .ok () ↔
    payload.length ≤ max.toNat ∧ queue.length < capacity.toNat
  too_large : ∀ sender payload, max.toNat < payload.length →
    (queue.send sender payload).result = .error (.tooLarge payload.length max)
  full : ∀ sender payload, payload.length ≤ max.toNat → capacity.toNat ≤ queue.length →
    (queue.send sender payload).result = .error (.queueFull capacity)
  rejected : ∀ sender payload error, (queue.send sender payload).result = .error error →
    (queue.send sender payload).queue = queue
  appended : ∀ sender payload, (queue.send sender payload).result = .ok () →
    (queue.send sender payload).queue =
      { queue with messages := queue.messages ++ [⟨sender.service, payload⟩] }

namespace MessageQueue

lemma refusal?_tooLarge (queue : MessageQueue) {payload : Bytes}
    (h : queue.maxPayloadLen.toNat < payload.length) :
    queue.refusal? payload = some (.tooLarge payload.length queue.maxPayloadLen) := if_pos h

lemma refusal?_full (queue : MessageQueue) {payload : Bytes}
    (hlen : payload.length ≤ queue.maxPayloadLen.toNat)
    (hfull : queue.capacity.toNat ≤ queue.length) :
    queue.refusal? payload = some (.queueFull queue.capacity) := by
  rw [refusal?, if_neg (Nat.not_lt.mpr hlen), if_pos hfull]

lemma refusal?_eq_none_iff (queue : MessageQueue) (payload : Bytes) :
    queue.refusal? payload = none ↔
      payload.length ≤ queue.maxPayloadLen.toNat ∧ queue.length < queue.capacity.toNat := by
  unfold refusal?
  split_ifs with hlong hfull
  · simp [Nat.not_le.mpr hlong]
  · simp [Nat.not_lt.mpr hfull]
  · simp only [true_iff]
    omega

/-- The limits of a queue are the limits by which it admits. -/
lemma admits (queue : MessageQueue) : queue.Admits queue.capacity queue.maxPayloadLen where
  accepted_iff sender payload := by
    rw [← refusal?_eq_none_iff, send]
    cases queue.refusal? payload <;> simp
  too_large sender payload hlong := by rw [send, queue.refusal?_tooLarge hlong]
  full sender payload hlen hfull := by rw [send, queue.refusal?_full hlen hfull]
  rejected sender payload error hresult := by
    rw [send] at hresult ⊢
    cases hrefusal : queue.refusal? payload with
    | some error => rfl
    | none => rw [hrefusal] at hresult; cases hresult
  appended sender payload hresult := by
    rw [send] at hresult ⊢
    cases hrefusal : queue.refusal? payload with
    | some error => rw [hrefusal] at hresult; cases hresult
    | none => rfl

/-- A send makes the queue longer only below the capacity. -/
lemma send_length (queue : MessageQueue) (sender : Sender) (payload : Bytes) :
    (queue.send sender payload).queue.length = queue.length ∨
    ((queue.send sender payload).queue.length = queue.length + 1 ∧
      queue.length < queue.capacity.toNat) := by
  cases hresult : (queue.send sender payload).result with
  | error error => exact .inl (by rw [queue.admits.rejected sender payload error hresult])
  | ok _ =>
    have hroom := ((queue.admits.accepted_iff sender payload).mp hresult).2
    refine .inr ⟨?_, hroom⟩
    rw [queue.admits.appended sender payload hresult, length, List.length_append]
    rfl

end MessageQueue

/-- What can be done to a shared queue. -/
inductive QueueAction where
  | send (sender : Sender) (payload : Bytes)
  /-- The oldest message is taken, if there is one. -/
  | pop
  /-- A message that was taken goes back to the front. -/
  | restore (message : Message)
  /-- A message that was taken will not go back. -/
  | giveUp (message : Message)

/-- A queue and the messages that are out: taken, and neither put back nor given up. -/
structure Custody where
  queue : MessageQueue
  out : List Message

namespace Custody

/-- One action. Nothing can go back that is not out. -/
def step (custody : Custody) : QueueAction → Custody
  | .send sender payload => { custody with queue := (custody.queue.send sender payload).queue }
  | .pop =>
    match custody.queue.popFront? with
    | none => custody
    | some (message, queue) => ⟨queue, message :: custody.out⟩
  | .restore message =>
    if message ∈ custody.out then ⟨custody.queue.pushFront message, custody.out.erase message⟩
    else custody
  | .giveUp message => { custody with out := custody.out.erase message }

/-- Any number of actions, one after another. -/
def run (custody : Custody) (actions : List QueueAction) : Custody := actions.foldl step custody

/-- Messages in the queue and messages that are out. -/
def total (custody : Custody) : Nat := custody.queue.length + custody.out.length

lemma step_pop {custody : Custody} {message : Message} {rest : List Message}
    (h : custody.queue.messages = message :: rest) :
    custody.step .pop = ⟨{ custody.queue with messages := rest }, message :: custody.out⟩ := by
  simp only [step, MessageQueue.popFront?, h]

lemma step_restore {custody : Custody} {message : Message} (h : message ∈ custody.out) :
    custody.step (.restore message) =
      ⟨custody.queue.pushFront message, custody.out.erase message⟩ := if_pos h

lemma total_pop (custody : Custody) : (custody.step .pop).total = custody.total := by
  cases hmessages : custody.queue.messages with
  | nil => simp only [step, MessageQueue.popFront?, hmessages]
  | cons message rest =>
    rw [step_pop hmessages]
    simp only [total, MessageQueue.length, hmessages, List.length_cons]
    omega

lemma total_restore (custody : Custody) (message : Message) :
    (custody.step (.restore message)).total = custody.total := by
  by_cases hout : message ∈ custody.out
  · have hlength := List.length_erase_add_one hout
    rw [step_restore hout]
    simp only [total, MessageQueue.length, MessageQueue.pushFront, List.length_cons]
    omega
  · rw [step, if_neg hout]

lemma total_giveUp (custody : Custody) (message : Message) :
    (custody.step (.giveUp message)).total ≤ custody.total := by
  have hlength : (custody.out.erase message).length ≤ custody.out.length :=
    List.length_erase_le
  simp only [step, total]
  omega

/-- Nothing changes the limits of a queue. -/
lemma step_limits (custody : Custody) (action : QueueAction) :
    (custody.step action).queue.capacity = custody.queue.capacity ∧
      (custody.step action).queue.maxPayloadLen = custody.queue.maxPayloadLen := by
  cases action with
  | send sender payload => simp only [step, MessageQueue.send_queue, and_self]
  | pop =>
    cases hmessages : custody.queue.messages with
    | nil => simp only [step, MessageQueue.popFront?, hmessages, and_self]
    | cons message rest => simp only [step_pop hmessages, and_self]
  | restore message =>
    by_cases hout : message ∈ custody.out
    · rw [step_restore hout]
      exact ⟨rfl, rfl⟩
    · rw [step, if_neg hout]
      exact ⟨rfl, rfl⟩
  | giveUp message => exact ⟨rfl, rfl⟩

lemma run_limits (custody : Custody) (actions : List QueueAction) :
    (custody.run actions).queue.capacity = custody.queue.capacity ∧
      (custody.run actions).queue.maxPayloadLen = custody.queue.maxPayloadLen := by
  induction actions generalizing custody with
  | nil => exact ⟨rfl, rfl⟩
  | cons action rest ih =>
    obtain ⟨hcapacity, hmax⟩ := ih (custody.step action)
    obtain ⟨hcapacity', hmax'⟩ := custody.step_limits action
    exact ⟨hcapacity.trans hcapacity', hmax.trans hmax'⟩

/-- One action that does not send while more than `limit` messages are out. -/
inductive Moves (limit : Nat) (custody : Custody) : Custody → Prop
  | send (sender : Sender) (payload : Bytes) (hout : custody.out.length ≤ limit) :
    Moves limit custody (custody.step (.send sender payload))
  | pop : Moves limit custody (custody.step .pop)
  | restore (message : Message) : Moves limit custody (custody.step (.restore message))
  | giveUp (message : Message) : Moves limit custody (custody.step (.giveUp message))

lemma moves_step {limit : Nat} {custody : Custody} (hout : custody.out.length ≤ limit)
    (action : QueueAction) : custody.Moves limit (custody.step action) := by
  cases action with
  | send sender payload => exact .send sender payload hout
  | pop => exact .pop
  | restore message => exact .restore message
  | giveUp message => exact .giveUp message

lemma Moves.limits {limit : Nat} {custody next : Custody} (h : custody.Moves limit next) :
    next.queue.capacity = custody.queue.capacity ∧
      next.queue.maxPayloadLen = custody.queue.maxPayloadLen := by
  cases h <;> exact custody.step_limits _

/-- Only a send can add to the total, and only below the capacity. -/
lemma Moves.total_le {limit : Nat} {custody next : Custody} (h : custody.Moves limit next)
    (hle : custody.total ≤ custody.queue.capacity.toNat + limit) :
    next.total ≤ custody.queue.capacity.toNat + limit := by
  cases h with
  | send sender payload hout =>
    have hlength := custody.queue.send_length sender payload
    simp only [step, total] at hle ⊢
    omega
  | pop => rwa [custody.total_pop]
  | restore message => rwa [custody.total_restore]
  | giveUp message => exact (custody.total_giveUp message).trans hle

/-- Any number of actions lead from one custody to the other, where nobody sends while more than
`limit` messages are out. -/
abbrev Leads (limit : Nat) : Custody → Custody → Prop := Relation.ReflTransGen (Moves limit)

lemma Leads.limits {limit : Nat} {custody last : Custody} (h : custody.Leads limit last) :
    last.queue.capacity = custody.queue.capacity ∧
      last.queue.maxPayloadLen = custody.queue.maxPayloadLen := by
  induction h with
  | refl => exact ⟨rfl, rfl⟩
  | tail _ hmoves ih => exact ⟨hmoves.limits.1.trans ih.1, hmoves.limits.2.trans ih.2⟩

/-- The total overshoots the capacity by no more than what is out when somebody sends. -/
lemma Leads.total_le {limit : Nat} {custody last : Custody} (h : custody.Leads limit last)
    (hle : custody.total ≤ custody.queue.capacity.toNat + limit) :
    last.total ≤ custody.queue.capacity.toNat + limit := by
  induction h with
  | refl => exact hle
  | tail hleads hmoves ih =>
    rw [← (Leads.limits hleads).1] at ih ⊢
    exact hmoves.total_le ih

/-- Actions lead to where they run, if at most `limit` messages are out at any point. -/
lemma leads_run {limit : Nat} (custody : Custody) (actions : List QueueAction)
    (hout : ∀ earlier ∈ actions.inits, (custody.run earlier).out.length ≤ limit) :
    custody.Leads limit (custody.run actions) := by
  induction actions using List.reverseRecOn with
  | nil => exact .refl
  | append_singleton actions action ih =>
    have hprefix : actions ∈ (actions ++ [action]).inits :=
      (List.mem_inits _ _).mpr (List.prefix_append _ _)
    have hrun : custody.run (actions ++ [action]) = (custody.run actions).step action := by
      simp only [run, List.foldl_append, List.foldl_cons, List.foldl_nil]
    rw [hrun]
    refine .tail (ih ?_) (moves_step (hout actions hprefix) action)
    intro earlier hearlier
    apply hout
    rw [List.mem_inits] at hearlier ⊢
    exact hearlier.trans (List.prefix_append _ _)

/-- An activity leads to the queue that it leaves, whatever is out meanwhile. -/
lemma leads_perform {α : Type} {limit : Nat} {out : List Message} (hout : out.length ≤ limit)
    (activity : Activity α) (queue : MessageQueue) :
    (Custody.mk queue out).Leads limit ⟨(activity.perform queue).queue, out⟩ := by
  induction activity generalizing queue with
  | done result => exact .refl
  | send sender payload next ih => exact .head (.send sender payload hout) (ih _ _)

end Custody

end HostCalls
