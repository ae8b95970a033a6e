import HostCalls.Service.Registry
import Mathlib.Tactic.Common

/-!
# Sends

Whoever sends, the queue changes in one way only: the messages that were accepted stand at
its back, in the order in which they were accepted. `accepted` goes by the results of the
sends; it does not look at the queue that they leave.
-/
namespace HostCalls

namespace MessageQueue

/-- What a send adds to the accepted messages. -/
def accepted (queue : MessageQueue) (sender : Sender) (payload : Bytes) : List Message :=
  match (queue.send sender payload).result with
  | .ok () => [⟨sender.service, payload⟩]
  | .error _ => []

lemma send_queue (queue : MessageQueue) (sender : Sender) (payload : Bytes) :
    (queue.send sender payload).queue =
      { queue with messages := queue.messages ++ queue.accepted sender payload } := by
  unfold accepted send
  cases queue.refusal? payload with
  | some error => simp
  | none => rfl

/-- An accepted payload is not too long. -/
lemma accepted_short (queue : MessageQueue) (sender : Sender) (payload : Bytes) :
    ∀ message ∈ queue.accepted sender payload,
      message.payload.length ≤ queue.maxPayloadLen.toNat := by
  intro message hmem
  unfold accepted send refusal? at hmem
  by_cases hlong : queue.maxPayloadLen.toNat < payload.length
  · simp [if_pos hlong] at hmem
  · by_cases hfull : queue.capacity.toNat ≤ queue.length
    · simp [if_neg hlong, if_pos hfull] at hmem
    · simp only [if_neg hlong, if_neg hfull, List.mem_singleton] at hmem
      subst hmem
      exact Nat.not_lt.mp hlong

end MessageQueue

namespace Activity

variable {α : Type}

/-- One send, whatever comes of it. -/
def single (sender : Sender) (payload : Bytes) : Activity Unit :=
  .send sender payload fun _ => .done ()

/-- The messages of an activity that are accepted, in order. -/
def accepted : Activity α → MessageQueue → List Message
  | done _, _ => []
  | send sender payload next, queue =>
    queue.accepted sender payload ++
      (next (queue.send sender payload).result).accepted (queue.send sender payload).queue

lemma perform_queue (activity : Activity α) (queue : MessageQueue) :
    (activity.perform queue).queue =
      { queue with messages := queue.messages ++ activity.accepted queue } := by
  induction activity generalizing queue with
  | done result => simp [perform, accepted]
  | send sender payload next ih =>
    simp only [perform, accepted, ih, queue.send_queue, List.append_assoc]

lemma accepted_short (activity : Activity α) (queue : MessageQueue) :
    ∀ message ∈ activity.accepted queue, message.payload.length ≤ queue.maxPayloadLen.toNat := by
  induction activity generalizing queue with
  | done result => simp [accepted]
  | send sender payload next ih =>
    intro message hmem
    rcases List.mem_append.mp hmem with hfirst | hrest
    · exact queue.accepted_short sender payload message hfirst
    · have hshort := ih _ (queue.send sender payload).queue message hrest
      rwa [queue.send_queue] at hshort

end Activity

namespace Registry

variable {σ : Type} [Service σ]

/-- A registered service is asked, and keeps the state that it comes to. -/
lemma call_of_find (registry : Registry σ) {id : ServiceId} {service : σ}
    (hfind : registry.services.find? id = some service) (request : Bytes) :
    registry.call id request =
      let performed := (Service.handle service request).perform registry.queue
      ⟨performed.result.1, ⟨registry.services.insert id performed.result.2, performed.queue⟩,
        performed.events⟩ := by
  simp only [call, call?, hfind, Option.map_some, Option.getD_some]

lemma call_of_not_find (registry : Registry σ) {id : ServiceId}
    (hfind : registry.services.find? id = none) (request : Bytes) :
    registry.call id request = ⟨.error GateCode.notFound.error, registry, []⟩ := by
  simp only [call, call?, hfind, Option.map_none, Option.getD_none]

end Registry

end HostCalls
