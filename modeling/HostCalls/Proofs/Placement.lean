import HostCalls.Proofs.SafeConfig

/-!
# The place of the register block

A gate finds its registers relative to the block and changes nothing outside of it, so it does not
matter where in which page the block lies. `Gate.moved` puts the block of one gate into the page of
another one, at the place that is configured there. Every function of the tick commutes with
it, hence a whole run does too, and gates that differ in nothing but the place of
their blocks cannot be told apart.
-/
namespace HostCalls

variable {σ μ : Type}

/-! ## Moving a block -/

namespace Gate

/-- The bytes of the register block. -/
def block (gate : Gate σ) : Bytes := gate.page.slice gate.config.registerOffset.toNat 32

/-- The gate with its block in the page of another gate, where that one has its own. -/
def moved (gate host : Gate σ) : Gate σ where
  page := host.page.patch host.config.registerOffset.toNat gate.block
  config := { host.config with maxPayloadLen := gate.config.maxPayloadLen }
  registry := gate.registry
  usable := ⟨host.usable.block_fits, gate.usable.payload_fits, host.usable.queue_holds⟩

@[simp] theorem queue_moved (gate host : Gate σ) : (gate.moved host).queue = gate.queue := rfl

@[simp] theorem registry_moved (gate host : Gate σ) :
    (gate.moved host).registry = gate.registry := rfl

@[simp] theorem maxPayloadLen_moved (gate host : Gate σ) :
    (gate.moved host).config.maxPayloadLen = gate.config.maxPayloadLen := rfl

@[simp] theorem block_moved (gate host : Gate σ) : (gate.moved host).block = gate.block := by
  have hlen : gate.block.length = 32 := Page.length_slice _ _ _
  have hfit : host.config.registerOffset.toNat + gate.block.length ≤ pageSize := by
    rw [hlen]
    exact host.usable.block_fits
  show Page.slice _ _ 32 = _
  rw [← hlen]
  exact Page.slice_patch host.page _ gate.block hfit

/-- A gate that differs from another in nothing but the place of the block is the other one moved
there. -/
lemma eq_moved {gate other : Gate σ} (hregistry : other.registry = gate.registry)
    (hlimit : other.config.maxPayloadLen = gate.config.maxPayloadLen)
    (hblock : other.block = gate.block) : other = gate.moved other := by
  have hpage : other.page.patch other.config.registerOffset.toNat gate.block = other.page := by
    rw [← hblock]
    exact Page.patch_slice _ _ _
  unfold moved
  obtain ⟨page, config, registry, usable⟩ := other
  simp only at hpage hregistry hlimit ⊢
  simp only [hpage, ← hregistry, ← hlimit]

section

variable {α : Type} [Stored α] [LawfulStored α]

/-- The value of a register stands in the block. -/
lemma value_eq_block (gate : Gate σ) {register : Register α} (h : register.Within) :
    gate.value register =
      LawfulStored.decode ((gate.block.drop register.offset.toNat).take (Stored.width α)) := by
  rw [value, place, block, Page.slice_add _ _ h]

lemma value_moved (gate host : Gate σ) {register : Register α} (h : register.Within) :
    (gate.moved host).value register = gate.value register := by
  rw [value_eq_block _ h, value_eq_block _ h, block_moved]

/-- It does not matter whether a register changes before the block is moved or afterwards. -/
lemma assign_moved (gate host : Gate σ) {register : Register α} (h : register.Within) (a : α) :
    (gate.moved host).assign register a = (gate.assign register a).moved host := by
  have hin : register.offset.toNat + (LawfulStored.encode a).length ≤ 32 := by
    rw [LawfulStored.length_encode]
    exact h
  have hpage := Page.patch_slice_patch gate.page host.page _ host.config.registerOffset.toNat _ hin
    gate.usable.block_fits
  simp only [assign, moved, block, place, hpage]

end

lemma request_moved (gate host : Gate σ) : (gate.moved host).request = gate.request := by
  simp only [request, gate.value_moved host (by decide : Layout.control.Within),
    gate.value_moved host (by decide : Layout.service.Within),
    gate.value_moved host (by decide : Layout.requestAddr.Within),
    gate.value_moved host (by decide : Layout.requestLen.Within),
    gate.value_moved host (by decide : Layout.responseAddr.Within),
    gate.value_moved host (by decide : Layout.responseSize.Within)]

end Gate

/-- The end of a tick with the block moved. -/
def Ticked.moved (ticked : Ticked σ μ) (host : Gate σ) : Ticked σ μ :=
  { ticked with gate := ticked.gate.moved host }

/-- A request in flight with the block moved. -/
def InFlight.moved (call : InFlight σ μ) (host : Gate σ) : InFlight σ μ :=
  { call with gate := call.gate.moved host }

/-- A dispatched request with the block moved. -/
def Dispatched.moved (dispatched : Dispatched σ μ) (host : Gate σ) : Dispatched σ μ :=
  match dispatched with
  | .ended ticked => .ended (ticked.moved host)
  | .inFlight call => .inFlight (call.moved host)

/-! ## The tick does not see the place -/

lemma Gate.fail_moved (gate host : Gate σ) (memory : μ) (code : ErrorCode) :
    (gate.moved host).fail memory code = (gate.fail memory code).map (·.moved host) := by
  rw [fail_eq, fail_eq, gate.assign_moved host (by decide)]
  rfl

lemma Gate.respond_moved [GuestMemory μ] (gate host : Gate σ) (memory : μ) (request : Request)
    (response : Bytes) :
    (gate.moved host).respond memory request response =
      (gate.respond memory request response).map (·.moved host) := by
  unfold respond
  rw [maxPayloadLen_moved]
  split_ifs with hlong
  · rw [fail_moved]
    simp only [fail_eq]
    rfl
  · simp only [writeRegisters_write _ (by decide : Layout.responseLen.Within), ok_bind,
      gate.assign_moved host (by decide : Layout.responseLen.Within)]
    split_ifs with hsmall
    · rw [fail_moved]
    · cases hcopy : GuestMemory.copyOut request.responseAddr response memory with
      | error fault written => rfl
      | ok _ written =>
        simp only [writeRegisters_write_write _ (by decide : Layout.responseCode.Within)
          (by decide : Layout.control.Within), ok_bind,
          Gate.assign_moved _ host (by decide : Layout.responseCode.Within),
          Gate.assign_moved _ host (by decide : Layout.control.Within)]
        rfl

lemma Ticked.settle_moved (ticked : Ticked σ μ) (host : Gate σ) (message : Message) :
    (ticked.moved host).settle message = (ticked.settle message).moved host := by
  obtain ⟨gate, memory, result, events⟩ := ticked
  cases result with
  | error fault => rfl
  | ok outcome =>
    cases outcome with
    | failed code =>
      simp only [settle, moved]
      split_ifs <;> rfl
    | _ => rfl

lemma InFlight.report_moved [GuestMemory μ] (call : InFlight σ μ) (host : Gate σ) :
    (call.moved host).report = call.report.map (·.moved host) := by
  obtain ⟨gate, memory, request, target, answer, events⟩ := call
  cases answer with
  | reply result =>
    cases result with
    | ok response => exact gate.respond_moved host memory request response
    | error code => exact gate.fail_moved host memory code
  | delivery message =>
    obtain ⟨ticked, hrespond, _⟩ := gate.respond_spec memory request message.payload
    simp only [report, moved, gate.respond_moved, hrespond, Except.map, ok_bind,
      ticked.settle_moved]
    rfl

lemma InFlight.finish_moved [GuestMemory μ] (call : InFlight σ μ) (host : Gate σ) :
    (call.moved host).finish = call.finish.map (·.moved host) := by
  rw [finish, finish, report_moved]
  cases call.report <;> rfl

lemma InFlight.amid_moved (call : InFlight σ μ) (host : Gate σ) (others : Activity Unit) :
    (call.moved host).amid others = (call.amid others).moved host := rfl

section

variable [Service σ]

lemma Gate.answer_moved (gate host : Gate σ) (memory : μ) (request : Request) (target : Target)
    (payload : Bytes) :
    (gate.moved host).answer memory request target payload =
      (gate.answer memory request target payload).map (·.moved host) := by
  cases target with
  | service id => rfl
  | unknownControl code => rfl
  | control operation =>
    cases operation with
    | pollMessage =>
      simp only [answer, queue_moved]
      cases gate.queue.popFront? with
      | none => rfl
      | some popped =>
        obtain ⟨message, queue⟩ := popped
        -- a poll is the only request whose dispatch stores into the block
        have hqueue : (gate.moved host).withQueue queue = (gate.withQueue queue).moved host := rfl
        simp only [hqueue, writeRegisters_write _ (by decide : Layout.service.Within), ok_bind,
          Gate.assign_moved _ host (by decide : Layout.service.Within)]
        rfl
    | _ => rfl

variable [GuestMemory μ]

lemma Gate.dispatch_moved (gate host : Gate σ) (memory : μ) :
    (gate.moved host).dispatch memory = (gate.dispatch memory).map (·.moved host) := by
  simp only [dispatch, readRegisters_read _ (by decide : Layout.control.Within),
    readRegisters_request, ok_bind, request_moved,
    gate.value_moved host (by decide : Layout.control.Within)]
  split_ifs with hidle
  · rfl
  · cases GuestMemory.copyIn gate.request.requestAddr gate.request.requestLen memory with
    | error fault read => rfl
    | ok payload read => exact gate.answer_moved host read _ _ payload

/-- A tick comes to the same, wherever the block lies. -/
lemma Gate.tickAmid_moved (gate host : Gate σ) (memory : μ) (others : Activity Unit) :
    (gate.moved host).tickAmid memory others =
      (gate.tickAmid memory others).map (·.moved host) := by
  obtain ⟨dispatched, hdispatch, _⟩ := gate.dispatch_spec memory
  simp only [tickAmid, dispatch_moved, hdispatch, Except.map, ok_bind]
  cases dispatched with
  | ended ticked => rfl
  | inFlight call =>
    show ((call.moved host).amid others).finish = (call.amid others).finish.map (·.moved host)
    rw [InFlight.amid_moved, InFlight.finish_moved]

end

/-! ## Runs -/

/-- One step of a run. The guest stores anywhere in the block, at a place that is counted from its
beginning; the memory may change in any way. -/
inductive Move (σ μ : Type) where
  | storeByte (register : Register UInt8) (inside : register.Within) (value : UInt8)
  | storeWord (register : Register UInt32) (inside : register.Within) (value : UInt32)
  | memory (change : μ → μ)
  | register (id : ServiceId) (service : σ)
  | send (sender : Sender) (payload : Bytes)
  | tick (others : Activity Unit)

/-- What comes of a step. -/
inductive Reply where
  | done
  | registered (events : List Event)
  | sent (result : Except SendError Unit) (events : List Event)
  | ticked (result : Except Fault Outcome) (events : List Event)

/-- A gate and its memory in the course of a run, with what came of the steps so far. -/
structure Played (σ μ : Type) where
  gate : Gate σ
  memory : μ
  replies : List Reply

namespace Played

/-- The run with the block moved. -/
def moved (played : Played σ μ) (host : Gate σ) : Played σ μ :=
  { played with gate := played.gate.moved host }

variable [Service σ] [GuestMemory μ]

/-- Makes one step. -/
def step (played : Played σ μ) : Move σ μ → Except Abort (Played σ μ)
  | .storeByte register _ value => do
    let gate ← played.gate.writeRegisters (register.write value)
    return ⟨gate, played.memory, played.replies ++ [.done]⟩
  | .storeWord register _ value => do
    let gate ← played.gate.writeRegisters (register.write value)
    return ⟨gate, played.memory, played.replies ++ [.done]⟩
  | .memory change => return ⟨played.gate, change played.memory, played.replies ++ [.done]⟩
  | .register id service =>
    let registered := played.gate.register id service
    return ⟨registered.value, played.memory, played.replies ++ [.registered registered.events]⟩
  | .send sender payload =>
    let sent := played.gate.registry.send sender payload
    return ⟨{ played.gate with registry := sent.value.2 }, played.memory,
      played.replies ++ [.sent sent.value.1 sent.events]⟩
  | .tick others => do
    let ticked ← played.gate.tickAmid played.memory others
    return ⟨ticked.gate, ticked.memory, played.replies ++ [.ticked ticked.result ticked.events]⟩

/-- Makes one step after another. -/
def run (played : Played σ μ) (moves : List (Move σ μ)) : Except Abort (Played σ μ) :=
  moves.foldlM step played

/-- A step is possible at every point, and the block stays in its place. -/
lemma step_ok (played : Played σ μ) (move : Move σ μ) :
    ∃ next, played.step move = .ok next ∧ next.gate.config = played.gate.config := by
  cases move with
  | storeByte register inside value =>
    rw [step, played.gate.writeRegisters_write inside]
    exact ⟨_, rfl, rfl⟩
  | storeWord register inside value =>
    rw [step, played.gate.writeRegisters_write inside]
    exact ⟨_, rfl, rfl⟩
  | memory change => exact ⟨_, rfl, rfl⟩
  | register id service => exact ⟨_, rfl, rfl⟩
  | send sender payload => exact ⟨_, rfl, rfl⟩
  | tick others =>
    obtain ⟨ticked, htick, hticks⟩ := played.gate.tickAmid_spec played.memory others
    rw [step, htick]
    exact ⟨_, rfl, hticks.framed.config⟩

lemma step_moved (played : Played σ μ) (host : Gate σ) (move : Move σ μ) :
    (played.moved host).step move = (played.step move).map (·.moved host) := by
  cases move with
  | storeByte register inside value =>
    simp only [step, moved, Gate.writeRegisters_write _ inside, Gate.assign_moved _ host inside]
    rfl
  | storeWord register inside value =>
    simp only [step, moved, Gate.writeRegisters_write _ inside, Gate.assign_moved _ host inside]
    rfl
  | memory change => rfl
  | register id service => rfl
  | send sender payload => rfl
  | tick others =>
    simp only [step, moved, Gate.tickAmid_moved]
    cases played.gate.tickAmid played.memory others <;> rfl

lemma run_ok (played : Played σ μ) (moves : List (Move σ μ)) :
    ∃ last, played.run moves = .ok last ∧ last.gate.config = played.gate.config := by
  induction moves generalizing played with
  | nil => exact ⟨played, rfl, rfl⟩
  | cons move rest ih =>
    obtain ⟨next, hstep, hnext⟩ := played.step_ok move
    obtain ⟨last, hrun, hlast⟩ := ih next
    refine ⟨last, ?_, hlast.trans hnext⟩
    rw [run, List.foldlM_cons, hstep]
    exact hrun

lemma run_moved (played : Played σ μ) (host : Gate σ) (moves : List (Move σ μ)) :
    (played.moved host).run moves = (played.run moves).map (·.moved host) := by
  induction moves generalizing played with
  | nil => rfl
  | cons move rest ih =>
    obtain ⟨next, hstep, _⟩ := played.step_ok move
    rw [run, run, List.foldlM_cons, List.foldlM_cons, step_moved, hstep]
    exact ih next

end Played

/-- Two gates with the same services, messages, limits and blocks give the same replies to every
run, with any two places of the blocks and whatever else stands in the pages. The run never
aborts; afterwards the blocks lie where they were and are the same again, and so are the memory,
the services and the messages. -/
theorem block_placement_irrelevant [Service σ] [GuestMemory μ] (first second : Gate σ)
    (hregistry : second.registry = first.registry)
    (hlimit : second.config.maxPayloadLen = first.config.maxPayloadLen)
    (hblock : second.block = first.block) (memory : μ) (moves : List (Move σ μ)) :
    ∃ first' second' memory' replies,
      (Played.mk first memory []).run moves = .ok ⟨first', memory', replies⟩ ∧
      (Played.mk second memory []).run moves = .ok ⟨second', memory', replies⟩ ∧
      first'.config = first.config ∧ second'.config = second.config ∧
      second'.block = first'.block ∧ second'.registry = first'.registry := by
  -- the second gate is the first one moved, so its run is the moved run of the first
  have hmoved := Gate.eq_moved hregistry hlimit hblock
  obtain ⟨last, hrun, hconfig⟩ := (Played.mk first memory []).run_ok moves
  have hsecond := (Played.mk first memory []).run_moved second moves
  rw [hrun, Played.moved, ← hmoved] at hsecond
  have hplace : (last.gate.moved second).config = second.config := by
    obtain ⟨last', hrun', hconfig'⟩ := (Played.mk second memory []).run_ok moves
    cases hrun'.symm.trans hsecond
    exact hconfig'
  exact ⟨last.gate, last.gate.moved second, last.memory, last.replies, hrun, hsecond, hconfig,
    hplace, last.gate.block_moved second, last.gate.registry_moved second⟩

/-- A gate without services, with its block somewhere in a page. -/
def Gate.blockAt (page : Page) (offset : UInt64) (hfit : offset.toNat + 32 ≤ pageSize) :
    Gate Stock :=
  have hpayload : Layout.maxPayloadLen.toNat < 0x100000000 := by decide
  have hqueue : 0 < (256 : UInt64).toNat := by decide
  ⟨page, { registerOffset := offset }, .new ⟨[], 256, Layout.maxPayloadLen⟩,
    ⟨hfit, hpayload, hqueue⟩⟩

/-- A message is sent and polled with a buffer of 16 bytes. The guest stores the size as a byte,
overwrites the last byte of the block, and stores control as a word. -/
def unevenPoll : List (Move Stock PagedMemory) :=
  [.send ⟨⟨15, by decide⟩⟩ [104, 105], .storeByte ⟨0x14⟩ (by decide) 16,
    .storeByte ⟨0x1f⟩ (by decide) 0xff, .storeWord ⟨0⟩ (by decide) 1, .tick (.done ())]

/-- What is seen with the block at the beginning of an empty page is also seen with the block at the
very end of a page that is not empty. -/
theorem unevenPoll_at_both_ends :
    ∃ first second : Gate Stock, first = .blockAt .zero 0 (by decide) ∧
      second = .blockAt (Page.zero.patch 0 [1, 2, 3]) 4064 (by decide) ∧
      second.registry = first.registry ∧
      second.config.maxPayloadLen = first.config.maxPayloadLen ∧ second.block = first.block ∧
      ∃ first' second' memory' replies,
        (Played.mk first PagedMemory.onePage []).run unevenPoll = .ok ⟨first', memory', replies⟩ ∧
        (Played.mk second PagedMemory.onePage []).run unevenPoll =
          .ok ⟨second', memory', replies⟩ ∧
        second'.config.registerOffset = 4064 ∧ second'.pending = 0 ∧
        second'.block = [0, 0, 0, 0, 15, 0, 0, 0] ++ List.replicate 12 0 ++
          [16, 0, 0, 0, 0, 0, 0, 0, 2, 0, 0, 0] := by
  have hblock : (Gate.blockAt (Page.zero.patch 0 [1, 2, 3]) 4064 (by decide)).block =
      (Gate.blockAt .zero 0 (by decide)).block := by
    show (Page.zero.patch 0 [1, 2, 3]).slice 4064 32 = Page.zero.slice 0 32
    rw [Page.slice_patch_apart _ _ _ (by decide), Page.slice_zero, Page.slice_zero]
  refine ⟨_, _, rfl, rfl, rfl, rfl, hblock, ?_⟩
  obtain ⟨first', second', memory', replies, hfirst, hsecond, _, hconfig, hsame, hregistry⟩ :=
    block_placement_irrelevant (.blockAt .zero 0 (by decide)) (.blockAt _ 4064 (by decide)) rfl rfl
      hblock PagedMemory.onePage unevenPoll
  have hseen : ((Played.mk (Gate.blockAt .zero 0 (by decide)) PagedMemory.onePage []).run
      unevenPoll).map (fun played => (played.gate.pending, played.gate.block)) =
        .ok (0, [0, 0, 0, 0, 15, 0, 0, 0] ++ List.replicate 12 0 ++
          [16, 0, 0, 0, 0, 0, 0, 0, 2, 0, 0, 0]) := by
    decide +kernel
  rw [hfirst] at hseen
  obtain ⟨hpending, hbytes⟩ := Prod.mk.inj (Except.ok.inj hseen)
  have hoffset : second'.config.registerOffset = 4064 := by rw [hconfig]; rfl
  have hempty : second'.pending = 0 := by
    rw [Gate.pending, Gate.queue, hregistry]
    exact hpending
  exact ⟨first', second', memory', replies, hfirst, hsecond, hoffset, hempty, hsame.trans hbytes⟩

end HostCalls
