import HostCalls.Memory.Paged
import HostCalls.Proofs.TickStatus
import HostCalls.Service.Stock

/-!
# Configurations that are safe

A configuration is checked once, and everything that a tick does without further checks relies on
it: the block lies inside its page, so no register access leaves the page, and payload lengths
fit into a register, so the reported length is the length. A tick reports in four registers;
`Framed` says that it keeps all other bytes of the page.
-/
namespace HostCalls

variable {σ μ : Type}

/-! ## Which configurations are accepted -/

lemma checkedAdd_eq_overflow_iff (a b : UInt64) :
    checkedAdd a b = .error .overflow ↔ 0x10000000000000000 ≤ a.toNat + b.toNat := by
  unfold checkedAdd
  split_ifs with hsmall
  · simp [Nat.not_le.mpr hsmall]
  · simp [Nat.not_lt.mp hsmall]

namespace Config

/-- The first check is the only one that can overflow. -/
lemma check_eq_overflow_iff (config : Config) :
    config.check = .error .overflow ↔
      0x10000000000000000 ≤ config.registerOffset.toNat + Layout.blockSize.toNat := by
  rw [← checkedAdd_eq_overflow_iff]
  unfold check
  cases checkedAdd config.registerOffset Layout.blockSize with
  | error abort => simp
  | ok stop => simp only; split_ifs <;> simp

lemma check_of_usable {config : Config} (h : config.Usable) : config.check = .ok () := by
  obtain ⟨hblock, hpayload, hqueue⟩ := h
  have hsize : Layout.blockSize.toNat = 32 := by decide
  have hsmall : config.registerOffset.toNat + Layout.blockSize.toNat < 0x10000000000000000 := by
    have hpage : pageSize = 4096 := rfl
    omega
  have hsum : checkedAdd config.registerOffset Layout.blockSize =
      .ok (config.registerOffset + Layout.blockSize) := if_pos hsmall
  have hstop := checkedAdd_ok hsum
  simp only [check, hsum]
  rw [if_neg (by omega), if_neg (by omega), if_neg (by omega)]

end Config

namespace Gate

/-- The gate that a usable configuration gives. -/
lemma new_of_usable {config : Config} (h : config.Usable) :
    (Gate.new config : Except Abort (Gate σ)) =
      .ok ⟨.zero, config, .new ⟨[], config.queueCapacity, config.maxPayloadLen⟩, h⟩ := by
  have hcapacity : config.queueCapacity.toNat ≠ 0 := Nat.ne_of_gt h.queue_holds
  unfold Gate.new
  split
  · next abort hcheck => cases (Config.check_of_usable h).symm.trans hcheck
  · simp only [MessageQueue.withLimits, if_neg hcapacity]

lemma usable_of_new {config : Config} {gate : Gate σ} (h : Gate.new config = .ok gate) :
    config.Usable := by
  unfold Gate.new at h
  split at h
  · cases h
  · next hcheck => exact Config.usable_of_check hcheck

/-- A new gate has an empty page and an empty queue with the limits of its configuration. -/
lemma new_eq {config : Config} {gate : Gate σ} (h : Gate.new config = .ok gate) :
    gate.page = .zero ∧ gate.config = config ∧
      gate.registry = .new ⟨[], config.queueCapacity, config.maxPayloadLen⟩ := by
  have husable := usable_of_new h
  rw [new_of_usable husable] at h
  cases h
  exact ⟨rfl, rfl, rfl⟩

lemma new_eq_overflow_iff (config : Config) :
    (Gate.new config : Except Abort (Gate σ)) = .error .overflow ↔
      config.check = .error .overflow := by
  unfold Gate.new MessageQueue.withLimits
  split
  · next abort hcheck => rw [hcheck]; simp
  · next hcheck =>
    -- what passed the check has room for a message
    have hcapacity := Nat.ne_of_gt (Config.usable_of_check hcheck).queue_holds
    simp [if_neg hcapacity, hcheck]

end Gate

/-! ## What a tick changes in the page -/

/-- The bytes of the block in which a tick reports: those of `control`, of `service`, of the
response code and of the response length. -/
def Layout.Reports (k : Nat) : Prop := k = 0 ∨ (4 ≤ k ∧ k < 8) ∨ (0x18 ≤ k ∧ k < 0x20)

instance (k : Nat) : Decidable (Layout.Reports k) := by
  unfold Layout.Reports
  infer_instance

/-- The page of `after` differs from that of `before` in the bytes of reports at most. -/
structure Gate.Framed (before after : Gate σ) : Prop where
  config : after.config = before.config
  page : ∀ i, after.page.byteAt i ≠ before.page.byteAt i →
    ∃ k, Layout.Reports k ∧ i = before.config.registerOffset.toNat + k

namespace Gate.Framed

variable {before after other : Gate σ}

lemma refl (gate : Gate σ) : gate.Framed gate := ⟨rfl, fun _ hne => absurd rfl hne⟩

lemma congr (h : before.Framed after) (hpage : other.page = after.page)
    (hconfig : other.config = after.config) : before.Framed other :=
  ⟨hconfig.trans h.config, fun i hne => h.page i (by rwa [hpage] at hne)⟩

/-- A store into a register of reports. -/
lemma assign {α : Type} [Stored α] [LawfulStored α] (h : before.Framed after)
    (register : Register α)
    (hreports : ∀ k < Stored.width α, Layout.Reports (register.offset.toNat + k)) (a : α) :
    before.Framed (after.assign register a) := by
  refine ⟨h.config, ?_⟩
  intro i hne
  by_cases hkept : (after.assign register a).page.byteAt i = after.page.byteAt i
  · rw [hkept] at hne
    exact h.page i hne
  · have hin := after.mem_of_byteAt_assign_ne register a hkept
    have hplace : after.place register =
        before.config.registerOffset.toNat + register.offset.toNat := by rw [place, h.config]
    have hk := hreports (i - after.place register) (by omega)
    exact ⟨_, hk, by omega⟩

end Gate.Framed

lemma Gate.Responded.framed [GuestMemory μ] {before gate : Gate σ} {memory : μ} {request : Request}
    {response : Bytes} {ticked : Ticked σ μ} (h : gate.Responded memory request response ticked)
    (hgate : before.Framed gate) : before.Framed ticked.gate := by
  have hlen (len : UInt32) := hgate.assign Layout.responseLen (by decide) len
  cases h with
  | tooLong hlong => exact hgate.assign Layout.responseCode (by decide) _
  | tooSmall hle hsmall => exact (hlen _).assign Layout.responseCode (by decide) _
  | faulted hle hsize fault written hcopy => exact hlen _
  | completed hle hsize written hcopy =>
    exact ((hlen _).assign Layout.responseCode (by decide) 0).assign Layout.control (by decide) 0

lemma InFlight.Finishes.framed [GuestMemory μ] {before : Gate σ} {call : InFlight σ μ}
    {ticked : Ticked σ μ} (h : call.Finishes ticked) (hcall : before.Framed call.gate) :
    before.Framed ticked.gate := by
  cases h with
  | failed code hanswer => exact hcall.assign Layout.responseCode (by decide) _
  | responded response hanswer reported hreported => exact hreported.framed hcall
  | delivered message hanswer reported hreported =>
    obtain ⟨queue, hqueue⟩ := reported.settle_gate message
    have hframed : before.Framed (reported.gate.withQueue queue) :=
      (hreported.framed hcall).congr rfl rfl
    rwa [← hqueue] at hframed

section

variable [Service σ] [GuestMemory μ] {gate : Gate σ} {memory : μ} {others : Activity Unit}

lemma Gate.Dispatches.framed {call : InFlight σ μ} (h : gate.Dispatches memory (.inFlight call)) :
    gate.Framed call.gate := by
  cases h with
  | called hpending payload read hcopy id hservice => exact (Framed.refl gate).congr rfl rfl
  | polled hcontrol hservice payload read hcopy message rest hqueue =>
    have hpopped : gate.Framed (gate.withQueue { gate.queue with messages := rest }) :=
      (Framed.refl gate).congr rfl rfl
    exact hpopped.assign Layout.service (by decide) _
  | refused hpending hcontrol hservice payload read hcopy target htarget event => exact .refl gate

/-- A tick keeps every byte of the page in which it does not report. -/
lemma Gate.Ticks.framed {ticked : Ticked σ μ} (h : gate.Ticks memory others ticked) :
    gate.Framed ticked.gate := by
  cases h with
  | ended ended _ hdispatch =>
    cases hdispatch <;> exact (Framed.refl gate).congr rfl rfl
  | finished call _ hdispatch _ hfinish =>
    have hamid : gate.Framed (call.amid others).gate := hdispatch.framed.congr rfl rfl
    exact hfinish.framed hamid

end

/-! ## The reported length -/

/-- The length register after a tick with the response `response?`, which had `before`: a response
within the limit is reported with its true length, and otherwise nothing is reported. -/
def reportedLength (limit before : Nat) (response? : Option Bytes) : Nat :=
  match response? with
  | some response => if response.length ≤ limit then response.length else before
  | none => before

/-- The response to an answered call; an error has none. -/
def Answer.response? : Answer → Option Bytes
  | .reply result => result.toOption
  | .delivery message => some message.payload

/-- The response that there is for the pending request, if there is one: that of the service in the
registers, or the oldest message for a poll. -/
def Gate.response? [Service σ] [GuestMemory μ] (gate : Gate σ) (memory : μ) : Option Bytes :=
  if gate.value Layout.control = 0 then none
  else
    match GuestMemory.copyIn gate.request.requestAddr gate.request.requestLen memory with
    | .error _ _ => none
    | .ok payload _ =>
      match ServiceId.ofRaw? (gate.value Layout.service) with
      | some id => (gate.registry.call id payload).result.toOption
      | none =>
        if gate.value Layout.control = 1 then gate.queue.messages.head?.map (·.payload) else none

lemma Gate.Responded.length [GuestMemory μ] {gate : Gate σ} {memory : μ} {request : Request}
    {response : Bytes} {ticked : Ticked σ μ} (h : gate.Responded memory request response ticked) :
    (ticked.gate.value Layout.responseLen).toNat =
      reportedLength gate.config.maxPayloadLen.toNat (gate.value Layout.responseLen).toNat
        (some response) := by
  simp only [reportedLength]
  cases h with
  | tooLong hlong =>
    rw [if_neg (Nat.not_le.mpr hlong), value_assign_apart _ (by decide)]
  | tooSmall hle hsmall =>
    rw [if_pos hle, value_assign_apart _ (by decide), value_assign _ (by decide),
      gate.toNat_length hle]
  | faulted hle hsize fault written hcopy =>
    rw [if_pos hle, value_assign _ (by decide), gate.toNat_length hle]
  | completed hle hsize written hcopy =>
    rw [if_pos hle, value_assign_apart _ (by decide), value_assign_apart _ (by decide),
      value_assign _ (by decide), gate.toNat_length hle]

lemma InFlight.Finishes.length [GuestMemory μ] {call : InFlight σ μ} {ticked : Ticked σ μ}
    (h : call.Finishes ticked) :
    (ticked.gate.value Layout.responseLen).toNat =
      reportedLength call.gate.config.maxPayloadLen.toNat
        (call.gate.value Layout.responseLen).toNat call.answer.response? := by
  cases h with
  | failed code hanswer =>
    rw [hanswer, Gate.value_assign_apart _ (by decide)]
    rfl
  | responded response hanswer reported hreported =>
    rw [hanswer]
    exact hreported.length
  | delivered message hanswer reported hreported =>
    rw [hanswer, reported.settle_value message]
    exact hreported.length

section

variable [Service σ] [GuestMemory μ] {gate : Gate σ} {memory : μ} {others : Activity Unit}

lemma Gate.Dispatches.response?_inFlight {call : InFlight σ μ}
    (h : gate.Dispatches memory (.inFlight call)) :
    gate.response? memory = call.answer.response? := by
  unfold response?
  cases h with
  | called hpending payload read hcopy id hservice =>
    rw [if_neg hpending, hcopy, hservice, ServiceId.ofRaw?_raw]
    rfl
  | polled hcontrol hservice payload read hcopy message rest hqueue =>
    rw [hcopy, hservice, hcontrol, hqueue]
    rfl
  | refused hpending hcontrol hservice payload read hcopy target htarget event =>
    rw [if_neg hpending, hcopy, hservice]
    exact if_neg hcontrol

lemma Gate.Dispatches.response?_ended {ticked : Ticked σ μ}
    (h : gate.Dispatches memory (.ended ticked)) : gate.response? memory = none := by
  unfold response?
  cases h with
  | idle hidle => rw [if_pos hidle]
  | faulted hpending fault read hcopy => rw [if_neg hpending, hcopy]
  | waiting hcontrol hservice payload read hcopy hqueue =>
    rw [hcopy, hservice, hcontrol, hqueue]
    rfl

/-- The length register tells the true length of every response that is within the limit. -/
lemma Gate.Ticks.length {ticked : Ticked σ μ} (h : gate.Ticks memory others ticked) :
    (ticked.gate.value Layout.responseLen).toNat =
      reportedLength gate.config.maxPayloadLen.toNat (gate.value Layout.responseLen).toNat
        (gate.response? memory) := by
  cases h with
  | ended ended _ hdispatch =>
    rw [hdispatch.response?_ended]
    cases hdispatch <;> rfl
  | finished call _ hdispatch _ hfinish =>
    have hlength := hfinish.length
    have hconfig : (call.amid others).gate.config = gate.config := hdispatch.config
    rwa [hconfig, InFlight.value_amid, InFlight.amid_answer, ← hdispatch.response?_inFlight,
      hdispatch.value_inFlight Layout.responseLen (by decide)] at hlength

end

/-- A gate can be made exactly from the configurations whose block fits into the page, whose payload
limit fits into a register and whose queue can hold a message; it is an overflow exactly if the end
of the block is no 64-bit number. With such a gate, whatever its page, its services and its messages
are, a tick comes to an end without an abort, reports the true length of every response within the
limit, and changes no byte of the page but those of `control`, `service`, the response code and
the response length. -/
theorem accepted_config_ticks_safely [Service σ] [GuestMemory μ] (config : Config) :
    ((∃ gate : Gate σ, Gate.new config = .ok gate) ↔
      config.registerOffset.toNat + 0x20 ≤ 4096 ∧ config.maxPayloadLen.toNat ≤ 0xffffffff ∧
        0 < config.queueCapacity.toNat) ∧
    ((Gate.new config : Except Abort (Gate σ)) = .error .overflow ↔
      0x10000000000000000 ≤ config.registerOffset.toNat + 0x20) ∧
    ∀ built : Gate σ, Gate.new config = .ok built →
      ∀ (page : Page) (registry : Registry σ) (memory : μ) (others : Activity Unit),
        let gate : Gate σ := { built with page, registry }
        ∃ ticked before after, gate.tickAmid memory others = .ok ticked ∧
          gate.readRegisters Layout.responseLen.read = .ok before ∧
          ticked.gate.readRegisters Layout.responseLen.read = .ok after ∧
          after.toNat = reportedLength config.maxPayloadLen.toNat before.toNat
            (gate.response? memory) ∧
          ∀ i : Fin pageSize, ticked.gate.page.get i ≠ page.get i →
            i.val = config.registerOffset.toNat ∨
            (config.registerOffset.toNat + 0x04 ≤ i.val ∧
              i.val < config.registerOffset.toNat + 0x08) ∨
            (config.registerOffset.toNat + 0x18 ≤ i.val ∧
              i.val < config.registerOffset.toNat + 0x20) := by
  refine ⟨⟨?_, ?_⟩, ?_, ?_⟩
  · rintro ⟨gate, hnew⟩
    obtain ⟨hblock, hpayload, hqueue⟩ := Gate.usable_of_new hnew
    exact ⟨hblock, by omega, hqueue⟩
  · rintro ⟨hblock, hpayload, hqueue⟩
    exact ⟨_, Gate.new_of_usable ⟨hblock, by omega, hqueue⟩⟩
  · rw [Gate.new_eq_overflow_iff, Config.check_eq_overflow_iff]
    rfl
  · intro built hnew page registry memory others gate
    have hconfig : gate.config = config := (Gate.new_eq hnew).2.1
    obtain ⟨ticked, htick, hspec⟩ := gate.tickAmid_spec memory others
    refine ⟨ticked, _, _, htick, gate.readRegisters_read (by decide),
      ticked.gate.readRegisters_read (by decide), ?_, ?_⟩
    · rw [hspec.length, hconfig]
    · intro i hne
      rw [← Page.byteAt_of_lt _ i.isLt, ← Page.byteAt_of_lt _ i.isLt] at hne
      obtain ⟨k, hk, hi⟩ := hspec.framed.page i hne
      rw [hconfig] at hi
      unfold Layout.Reports at hk
      omega

/-- The last place for the block, the largest payload limit and the smallest queue. -/
def Config.extreme : Config := ⟨4064, 0xffffffff, 1⟩

lemma Config.extreme_usable : Config.extreme.Usable := ⟨by decide, by decide, by decide⟩

/-- A gate with its block at the very end of the page and a full queue of one message. -/
def Gate.lateBlock : Gate Stock :=
  ⟨.zero, .extreme, .new ⟨[⟨⟨21, by decide⟩, [1, 2, 3]⟩], 1, 0xffffffff⟩, Config.extreme_usable⟩

/-- The page of that gate with a poll for a buffer of 16 bytes. -/
def Page.latePoll : Page :=
  ((Gate.lateBlock.assign Layout.control 1).assign Layout.responseSize 16).page

/-- A page of guest memory. -/
def PagedMemory.onePage : PagedMemory := ⟨#[some ⟨.all, .zero⟩], by decide⟩

lemma Gate.latePoll_response? :
    Gate.response? { lateBlock with page := .latePoll } PagedMemory.onePage = some [1, 2, 3] := by
  have hvalue {α : Type} [Stored α] [LawfulStored α] (register : Register α) :
      Gate.value { lateBlock with page := .latePoll } register =
        ((lateBlock.assign Layout.control 1).assign Layout.responseSize 16).value register := rfl
  have hcontrol : Gate.value { lateBlock with page := .latePoll } Layout.control = 1 := by
    rw [hvalue, value_assign_apart _ (by decide), value_assign _ (by decide)]
  -- whatever was not stored is zero
  have hzero (register : Register UInt32) (h : register.Apart Layout.control)
      (h' : register.Apart Layout.responseSize) :
      Gate.value { lateBlock with page := .latePoll } register = 0 := by
    rw [hvalue, value_assign_apart _ h', value_assign_apart _ h, value]
    show LawfulStored.decode (Page.zero.slice _ 4) = 0
    rw [Page.slice_zero]
    rfl
  have hlen : (Gate.request { lateBlock with page := .latePoll }).requestLen = 0 :=
    hzero Layout.requestLen (by decide) (by decide)
  rw [response?, hcontrol, hzero Layout.service (by decide) (by decide), hlen]
  rfl

/-- A message is polled through a block at the end of its page. -/
theorem extreme_config_ticks_safely :
    ∃ built gate : Gate Stock, Gate.new .extreme = .ok built ∧
      gate = { built with page := .latePoll, registry := Gate.lateBlock.registry } ∧
      ∃ ticked before after, gate.tickAmid PagedMemory.onePage (.done ()) = .ok ticked ∧
        gate.readRegisters Layout.responseLen.read = .ok before ∧
        ticked.gate.readRegisters Layout.responseLen.read = .ok after ∧ after.toNat = 3 ∧
        ∀ i : Fin pageSize, ticked.gate.page.get i ≠ Page.latePoll.get i →
          i.val = 4064 ∨ (4068 ≤ i.val ∧ i.val < 4072) ∨ (4088 ≤ i.val ∧ i.val < 4096) := by
  have hnew := Gate.new_of_usable (σ := Stock) Config.extreme_usable
  refine ⟨_, _, hnew, rfl, ?_⟩
  obtain ⟨ticked, before, after, htick, hbefore, hafter, hlength, hframe⟩ :=
    (accepted_config_ticks_safely .extreme).2.2 _ hnew .latePoll Gate.lateBlock.registry
      PagedMemory.onePage (.done ())
  refine ⟨ticked, before, after, htick, hbefore, hafter, ?_, hframe⟩
  rw [hlength]
  exact congrArg (reportedLength _ _) Gate.latePoll_response?

end HostCalls
