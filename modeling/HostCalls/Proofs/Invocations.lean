import HostCalls.Proofs.Access
import HostCalls.Proofs.ServiceMaps

/-!
# When services are asked

A service is asked by a tick exactly if a request is pending that names it, it is registered, and
all bytes of the request can be read. What becomes of its answer plays no part. To see the calls,
services are put under watch: a watched service does what it did before and keeps a record of the
requests, which stays with the id when another service is registered under it. Forgetting the
records gives back the run without them.
-/
namespace HostCalls

variable {σ μ : Type}

/-- The request has the service `id` asked: it is pending and names the service, which is
registered, and all its bytes can be read. -/
structure Request.Calls (request : Request) (services : Table σ) (memory : PagedMemory)
    (id : ServiceId) : Prop where
  pending : request.control ≠ 0
  named : request.service = id.raw
  registered : services.contains id = true
  readable : memory.Permits .readOnly request.requestAddr.toNat request.requestLen.toNat

instance (request : Request) (services : Table σ) (memory : PagedMemory) (id : ServiceId) :
    Decidable (request.Calls services memory id) :=
  decidable_of_iff (request.control ≠ 0 ∧ request.service = id.raw ∧
      services.contains id = true ∧
      memory.Permits .readOnly request.requestAddr.toNat request.requestLen.toNat)
    ⟨fun ⟨hpending, hnamed, hregistered, hreadable⟩ =>
        ⟨hpending, hnamed, hregistered, hreadable⟩,
      fun h => ⟨h.pending, h.named, h.registered, h.readable⟩⟩

/-- The bytes of the request. -/
def Request.payload (request : Request) (memory : PagedMemory) : Bytes :=
  memory.contents request.requestAddr.toNat request.requestLen.toNat

lemma Request.Calls.exists_service {request : Request} {services : Table σ} {memory : PagedMemory}
    {id : ServiceId} (h : request.Calls services memory id) :
    ∃ service, services.find? id = some service :=
  Option.isSome_iff_exists.mp h.registered

/-! ## What a tick does to the services -/

namespace Gate

variable [Service σ] {gate : Gate σ} {memory : PagedMemory} {others : Activity Unit}
  {ticked : Ticked σ PagedMemory}

/-- A tick that asks a service leaves it with the state that it came to, and the queue with its
sends and those of others. -/
lemma Ticks.registry_of_calls (h : gate.Ticks memory others ticked) {id : ServiceId} {service : σ}
    (hcalls : gate.request.Calls gate.registry.services memory id)
    (hfind : gate.registry.services.find? id = some service) :
    ticked.gate.registry =
      let performed := (Service.handle service (gate.request.payload memory)).perform gate.queue
      ⟨gate.registry.services.insert id performed.result.2,
        (others.perform performed.queue).queue⟩ := by
  obtain ⟨hpending, hnamed, _, hreadable⟩ := hcalls
  have hcopy := PagedMemory.copyIn_of_permits hreadable
  rw [(h.finishes_calling hpending hnamed hcopy).registry_of_reply rfl, InFlight.amid]
  simp only [calling, perform, withQueue, queue, gate.registry.call_of_find hfind]
  rfl

/-- A tick that asks no service keeps them all. -/
lemma Ticks.services_of_not_calls (h : gate.Ticks memory others ticked)
    (hnot : ∀ id, ¬ gate.request.Calls gate.registry.services memory id) :
    ticked.gate.registry.services = gate.registry.services := by
  cases h with
  | ended ended _ hdispatch => cases hdispatch <;> rfl
  | finished call _ hdispatch _ hfinish =>
    rw [hfinish.services]
    show call.gate.registry.services = _
    cases hdispatch with
    | polled => rfl
    | refused => rfl
    | called hpending payload read hcopy id hid =>
      -- the id is not registered, or the service would be asked
      cases hfind : gate.registry.services.find? id with
      | none => rw [gate.registry.call_of_not_find hfind]
      | some service =>
        have hregistered : gate.registry.services.contains id = true := by
          rw [Table.contains, hfind, Option.isSome_some]
        exact absurd ⟨hpending, hid, hregistered, PagedMemory.permits_of_copyIn hcopy⟩ (hnot id)

/-- Services that are not asked keep their states. -/
lemma Ticks.find?_of_not_calls (h : gate.Ticks memory others ticked) {id : ServiceId}
    (hnot : ¬ gate.request.Calls gate.registry.services memory id) :
    ticked.gate.registry.services.find? id = gate.registry.services.find? id := by
  by_cases hsome : ∃ other, gate.request.Calls gate.registry.services memory other
  · obtain ⟨other, hcalls⟩ := hsome
    obtain ⟨service, hfind⟩ := hcalls.exists_service
    have hne : id ≠ other := by
      intro heq
      exact hnot (heq ▸ hcalls)
    rw [h.registry_of_calls hcalls hfind]
    exact Table.find?_insert_of_ne _ hne _
  · rw [h.services_of_not_calls (not_exists.mp hsome)]

lemma Ticks.ids (h : gate.Ticks memory others ticked) :
    ticked.gate.registry.services.ids = gate.registry.services.ids := by
  by_cases hsome : ∃ id, gate.request.Calls gate.registry.services memory id
  · obtain ⟨id, hcalls⟩ := hsome
    obtain ⟨service, hfind⟩ := hcalls.exists_service
    rw [h.registry_of_calls hcalls hfind]
    exact Table.ids_insert hfind _
  · rw [h.services_of_not_calls (not_exists.mp hsome)]

end Gate

/-! ## Services under watch -/

/-- A service with the number of its registration and a record of the requests made under its id,
each with the number of the registration that was asked. -/
structure Watched (σ : Type) where
  service : σ
  registration : Nat
  asked : List (Nat × Bytes)

namespace Watched

/-- A service that was there before the watch began. -/
def fresh (service : σ) : Watched σ := ⟨service, 0, []⟩

/-- The watched service after a request. -/
def note (watched : Watched σ) (request : Bytes) (service : σ) : Watched σ :=
  { watched with service, asked := watched.asked ++ [(watched.registration, request)] }

instance [Service σ] : Service (Watched σ) where
  handle watched request :=
    (Service.handle watched.service request).map fun answered =>
      (answered.1, watched.note request answered.2)

/-- Being watched makes no difference to what a service does. -/
lemma respects [Service σ] : Service.Respects (Watched.service : Watched σ → σ) := by
  intro watched request
  have hmap (activity : Activity (CallResult × σ)) :
      (activity.map fun answered => (answered.1, watched.note request answered.2)).map
        (fun answered => (answered.1, Watched.service answered.2)) = activity := by
    induction activity with
    | done result => rfl
    | send sender payload next ih =>
      simp only [Activity.map, Activity.bind] at ih ⊢
      simp only [ih]
  exact (hmap (Service.handle watched.service request)).symm

end Watched

namespace Gate

/-- The record of the requests made under an id. -/
def asked (gate : Gate (Watched σ)) (id : ServiceId) : List (Nat × Bytes) :=
  ((gate.registry.services.find? id).map (·.asked)).getD []

/-- The number of the registration under an id. -/
def registration (gate : Gate (Watched σ)) (id : ServiceId) : Nat :=
  ((gate.registry.services.find? id).map (·.registration)).getD 0

lemma map_fresh_service (gate : Gate σ) : (gate.map Watched.fresh).map Watched.service = gate := by
  obtain ⟨page, config, ⟨⟨entries, ascending⟩, queue⟩, usable⟩ := gate
  simp [map, Registry.map, Table.map, Function.comp_def, Watched.fresh]

/-- Nothing was asked before the watch began. -/
lemma asked_fresh (gate : Gate σ) (id : ServiceId) : (gate.map Watched.fresh).asked id = [] := by
  simp only [asked, map, Registry.map, Table.find?_map]
  cases gate.registry.services.find? id <;> rfl

lemma registration_fresh (gate : Gate σ) (id : ServiceId) :
    (gate.map Watched.fresh).registration id = 0 := by
  simp only [registration, map, Registry.map, Table.find?_map]
  cases gate.registry.services.find? id <;> rfl

/-- Whether a service is asked does not depend on the watch. -/
lemma calls_map {τ : Type} (f : σ → τ) (gate : Gate σ) (memory : PagedMemory) (id : ServiceId) :
    (gate.map f).request.Calls (gate.map f).registry.services memory id ↔
      gate.request.Calls gate.registry.services memory id := by
  have hcontains : (gate.map f).registry.services.contains id =
      gate.registry.services.contains id := Table.contains_map f _ id
  constructor
  · rintro ⟨hpending, hnamed, hregistered, hreadable⟩
    exact ⟨hpending, hnamed, hcontains ▸ hregistered, hreadable⟩
  · rintro ⟨hpending, hnamed, hregistered, hreadable⟩
    exact ⟨hpending, hnamed, hcontains ▸ hregistered, hreadable⟩

section

variable [Service σ] {gate : Gate (Watched σ)} {memory : PagedMemory} {others : Activity Unit}
  {ticked : Ticked (Watched σ) PagedMemory}

/-- One tick makes at most one entry, and makes it exactly for the service that it asks. -/
lemma Ticks.asked (h : gate.Ticks memory others ticked) (id : ServiceId) :
    ticked.gate.asked id = gate.asked id ++
      if gate.request.Calls gate.registry.services memory id then
        [(gate.registration id, gate.request.payload memory)]
      else [] := by
  split_ifs with hcalls
  · obtain ⟨watched, hfind⟩ := hcalls.exists_service
    have hregistry := h.registry_of_calls hcalls hfind
    simp only [Service.handle, Activity.perform_map] at hregistry
    simp only [Gate.asked, registration, hregistry, Table.find?_insert_self, hfind,
      Option.map_some, Option.getD_some, Watched.note]
  · rw [Gate.asked, h.find?_of_not_calls hcalls, List.append_nil, Gate.asked]

lemma Ticks.registration (h : gate.Ticks memory others ticked) (id : ServiceId) :
    ticked.gate.registration id = gate.registration id := by
  by_cases hcalls : gate.request.Calls gate.registry.services memory id
  · obtain ⟨watched, hfind⟩ := hcalls.exists_service
    have hregistry := h.registry_of_calls hcalls hfind
    simp only [Service.handle, Activity.perform_map] at hregistry
    simp only [Gate.registration, hregistry, Table.find?_insert_self, hfind, Option.map_some,
      Option.getD_some, Watched.note]
  · rw [Gate.registration, h.find?_of_not_calls hcalls, Gate.registration]

end

end Gate

/-! ## Runs under watch -/

/-- Whether the step registers a service under an id. -/
def Move.registers (id : ServiceId) : Move σ μ → Bool
  | .register other _ => other = id
  | _ => false

/-- The number of the last registration under an id, given the steps so far, the newest first. It is
zero if there was none. -/
def lastRegistration (id : ServiceId) : List (Move σ μ) → Nat
  | [] => 0
  | move :: earlier =>
    if move.registers id then earlier.length + 1 else lastRegistration id earlier

/-- The beginning of a tick in a run: what the tick finds, and the steps before it, newest first. -/
structure TickStart (σ μ : Type) where
  gate : Gate σ
  memory : μ
  earlier : List (Move σ μ)

/-- The tick has the service `id` asked. -/
def TickStart.Calls (start : TickStart σ PagedMemory) (id : ServiceId) : Prop :=
  start.gate.request.Calls start.gate.registry.services start.memory id

instance (start : TickStart σ PagedMemory) (id : ServiceId) : Decidable (start.Calls id) := by
  unfold TickStart.Calls
  infer_instance

/-- What a call of the service `id` by the tick is recorded as. -/
def TickStart.entry (id : ServiceId) (start : TickStart σ PagedMemory) : Nat × Bytes :=
  (lastRegistration id start.earlier, start.gate.request.payload start.memory)

namespace Played

/-- The beginning of a tick, if the step is one. -/
def tickStart (earlier : List (Move σ μ)) (played : Played σ μ) : Move σ μ → List (TickStart σ μ)
  | .tick _ => [⟨played.gate, played.memory, earlier⟩]
  | _ => []

variable [Service σ] [GuestMemory μ]

/-- The beginnings of all ticks of a run. -/
def tickStarts (earlier : List (Move σ μ)) (played : Played σ μ) :
    List (Move σ μ) → List (TickStart σ μ)
  | [] => []
  | move :: rest =>
    played.tickStart earlier move ++
      match played.step move with
      | .ok next => next.tickStarts (move :: earlier) rest
      | .error _ => []

/-- The step under watch: a service is registered with its number, and the record of its id. -/
def watchStep (earlier : List (Move σ μ)) (watched : Played (Watched σ) μ) (move : Move σ μ) :
    Except Abort (Played (Watched σ) μ) :=
  watched.step (move.map fun id service => ⟨service, earlier.length + 1, watched.gate.asked id⟩)

/-- The run under watch. -/
def watch (earlier : List (Move σ μ)) (watched : Played (Watched σ) μ) :
    List (Move σ μ) → Except Abort (Played (Watched σ) μ)
  | [] => .ok watched
  | move :: rest => do (← watched.watchStep earlier move).watch (move :: earlier) rest

/-- A run under watch agrees with the run without, and knows the last registrations. -/
structure Watches (watched : Played (Watched σ) μ) (played : Played σ μ)
    (earlier : List (Move σ μ)) : Prop where
  plain : watched.map Watched.service = played
  registration : ∀ id, watched.gate.registration id = lastRegistration id earlier

/-- Forgetting the watch takes a watched step to the step. -/
lemma watchStep_plain (earlier : List (Move σ μ)) (watched : Played (Watched σ) μ)
    (move : Move σ μ) :
    (watched.watchStep earlier move).map (·.map Watched.service) =
      (watched.map Watched.service).step move := by
  have hmove : (move.map fun id service =>
      Watched.mk service (earlier.length + 1) (watched.gate.asked id)).map
        (fun _ => Watched.service) = move := by
    cases move <;> rfl
  rw [watchStep, ← watched.step_map Watched.respects, hmove]

section

variable {watched : Played (Watched σ) PagedMemory} {earlier : List (Move σ PagedMemory)}

/-- The part of the watch that a step cannot see: the records grow by the call that the step makes,
and the registrations are those of the steps. -/
lemma watchStep_spec (watched : Played (Watched σ) PagedMemory)
    (earlier : List (Move σ PagedMemory)) (move : Move σ PagedMemory) :
    ∃ next, watched.watchStep earlier move = .ok next ∧ ∀ id,
      next.gate.registration id =
        (if move.registers id then earlier.length + 1 else watched.gate.registration id) ∧
      next.gate.asked id = watched.gate.asked id ++
        match move with
        | .tick _ =>
          if watched.gate.request.Calls watched.gate.registry.services watched.memory id then
            [(watched.gate.registration id, watched.gate.request.payload watched.memory)]
          else []
        | _ => [] := by
  cases move with
  | storeByte register inside value =>
    simp only [watchStep, Move.map, step, watched.gate.writeRegisters_write inside]
    exact ⟨_, rfl, fun id => ⟨rfl, (List.append_nil _).symm⟩⟩
  | storeWord register inside value =>
    simp only [watchStep, Move.map, step, watched.gate.writeRegisters_write inside]
    exact ⟨_, rfl, fun id => ⟨rfl, (List.append_nil _).symm⟩⟩
  | memory change => exact ⟨_, rfl, fun id => ⟨rfl, (List.append_nil _).symm⟩⟩
  | send sender payload => exact ⟨_, rfl, fun id => ⟨rfl, (List.append_nil _).symm⟩⟩
  | register id service =>
    refine ⟨_, rfl, ?_⟩
    intro other
    simp only [Gate.registration, Gate.asked, Gate.register, Registry.register,
      Table.find?_insert, Move.registers, List.append_nil, decide_eq_true_eq]
    by_cases h : other = id
    · subst h
      simp
    · simp [h, Ne.symm h]
  | tick others =>
    obtain ⟨ticked, htick, hspec⟩ := watched.gate.tickAmid_spec watched.memory others
    simp only [watchStep, Move.map, step, htick, ok_bind]
    exact ⟨_, rfl, fun id => ⟨hspec.registration id, hspec.asked id⟩⟩

lemma Watches.step {played next : Played σ PagedMemory} (h : watched.Watches played earlier)
    {move : Move σ PagedMemory} (hstep : played.step move = .ok next) :
    ∃ after, watched.watchStep earlier move = .ok after ∧ after.Watches next (move :: earlier) ∧
      ∀ id, after.gate.asked id = watched.gate.asked id ++
        ((played.tickStart earlier move).filter fun start => start.Calls id).map
          (TickStart.entry id) := by
  obtain ⟨after, hafter, hspec⟩ := watched.watchStep_spec earlier move
  have hplain := watched.watchStep_plain earlier move
  rw [hafter, h.plain, hstep] at hplain
  refine ⟨after, hafter, ⟨Except.ok.inj hplain, ?_⟩, ?_⟩
  · intro id
    rw [(hspec id).1, h.registration id]
    rfl
  · intro id
    rw [(hspec id).2]
    cases move with
    | tick others =>
      have hcalls : played.gate.request.Calls played.gate.registry.services played.memory id ↔
          watched.gate.request.Calls watched.gate.registry.services watched.memory id := by
        rw [← h.plain]
        exact watched.gate.calls_map Watched.service watched.memory id
      have hpayload : played.gate.request.payload played.memory =
          watched.gate.request.payload watched.memory := by rw [← h.plain]; rfl
      simp only [tickStart, List.filter_cons, List.filter_nil, TickStart.Calls, hcalls,
        decide_eq_true_eq]
      split_ifs
      · simp only [List.map_cons, List.map_nil, TickStart.entry, hpayload, h.registration id]
      · rfl
    | _ => rfl

/-- The records of a run under watch are made of the calls of its ticks. -/
lemma Watches.run (moves : List (Move σ PagedMemory)) {played : Played σ PagedMemory}
    (h : watched.Watches played earlier) :
    ∃ last final, played.run moves = .ok last ∧ watched.watch earlier moves = .ok final ∧
      final.map Watched.service = last ∧
      ∀ id, final.gate.asked id = watched.gate.asked id ++
        ((played.tickStarts earlier moves).filter fun start => start.Calls id).map
          (TickStart.entry id) := by
  induction moves generalizing watched played earlier with
  | nil => exact ⟨played, watched, rfl, rfl, h.plain, fun id => (List.append_nil _).symm⟩
  | cons move rest ih =>
    obtain ⟨next, hstep, _⟩ := played.step_ok move
    obtain ⟨after, hafter, hwatches, hasked⟩ := h.step hstep
    obtain ⟨last, final, hrun, hwatch, hplain, hrest⟩ := ih hwatches
    refine ⟨last, final, ?_, ?_, hplain, ?_⟩
    · rw [Played.run, List.foldlM_cons, hstep]
      exact hrun
    · rw [watch, hafter]
      exact hwatch
    · intro id
      simp only [hrest id, hasked id, tickStarts, hstep, List.filter_append, List.map_append,
        List.append_assoc]

end

end Played

/-- A tick asks a service exactly if a request is pending, names it, finds it registered and can be
read, and then once, with the bytes of the request. Nothing but its state changes among the
services, and nothing is sent but by it and by others. In a run, the requests made under an id are
one for each tick that meets the condition, and go to the last registration. -/
theorem services_asked_as_requested [Service σ] (gate : Gate σ) (memory : PagedMemory) :
    (∀ others : Activity Unit, ∃ request ticked watched,
      gate.readRegisters Request.read = .ok request ∧
      gate.tickAmid memory others = .ok ticked ∧
      (gate.map Watched.fresh).tickAmid memory others = .ok watched ∧
      watched.map Watched.service = ticked ∧
      (∀ id, watched.gate.asked id =
        if request.Calls gate.registry.services memory id then [(0, request.payload memory)]
        else []) ∧
      ticked.gate.registry.services.ids = gate.registry.services.ids ∧
      (∀ other, ¬ request.Calls gate.registry.services memory other →
        ticked.gate.registry.services.find? other = gate.registry.services.find? other) ∧
      ∀ id, request.Calls gate.registry.services memory id →
        (request.payload memory).map some =
          memory.peekRange request.requestAddr.toNat request.requestLen.toNat ∧
        ∃ service performed, gate.registry.services.find? id = some service ∧
          performed = (Service.handle service (request.payload memory)).perform gate.queue ∧
          ticked.gate.registry.services.find? id = some performed.result.2 ∧
          ticked.gate.queue = (others.perform performed.queue).queue) ∧
    ∀ moves : List (Move σ PagedMemory), ∃ last watched,
      (Played.mk gate memory []).run moves = .ok last ∧
      (Played.mk (gate.map Watched.fresh) memory []).watch [] moves = .ok watched ∧
      watched.map Watched.service = last ∧
      ∀ id, ∃ calling,
        calling = ((Played.mk gate memory []).tickStarts [] moves).filter
          (fun start => start.Calls id) ∧
        watched.gate.asked id = calling.map (TickStart.entry id) ∧
        (watched.gate.asked id).length = calling.length := by
  constructor
  · intro others
    obtain ⟨ticked, htick, hspec⟩ := gate.tickAmid_spec memory others
    obtain ⟨watched, hwatch, hwatched⟩ := (gate.map Watched.fresh).tickAmid_spec memory others
    have hplain := (gate.map Watched.fresh).tickAmid_map Watched.respects memory others
    rw [gate.map_fresh_service, htick, hwatch] at hplain
    refine ⟨gate.request, ticked, watched, gate.readRegisters_request, htick, hwatch,
      (Except.ok.inj hplain).symm, ?_, hspec.ids, fun _ => hspec.find?_of_not_calls, ?_⟩
    · intro id
      rw [hwatched.asked id, gate.asked_fresh, gate.registration_fresh]
      simp only [gate.calls_map, List.nil_append]
      rfl
    · intro id hcalls
      obtain ⟨service, hfind⟩ := hcalls.exists_service
      have hregistry := hspec.registry_of_calls hcalls hfind
      refine ⟨PagedMemory.map_some_contents hcalls.readable, service, _, hfind, rfl, ?_, ?_⟩
      · rw [hregistry]
        exact Table.find?_insert_self _ _ _
      · rw [Gate.queue, hregistry]
  · intro moves
    have hstart : (Played.mk (gate.map Watched.fresh) memory []).Watches
        (Played.mk gate memory []) [] :=
      ⟨by simp only [Played.map, gate.map_fresh_service], gate.registration_fresh⟩
    obtain ⟨last, final, hrun, hwatch, hplain, hasked⟩ := hstart.run moves
    refine ⟨last, final, hrun, hwatch, hplain, ?_⟩
    intro id
    have hentries := hasked id
    rw [gate.asked_fresh, List.nil_append] at hentries
    exact ⟨_, rfl, hentries, by rw [hentries, List.length_map]⟩

/-- Two calls of the same service without room for the answer, with another registration in between.
The request has two bytes. -/
def reregistered : List (Move Stock PagedMemory) :=
  [.register ⟨31, by decide⟩ .echo,
    .memory fun memory => .left (PagedMemory.writeBytes 0 [1, 2] memory),
    .storeWord Layout.service (by decide) 31, .storeWord Layout.requestLen (by decide) 2,
    .storeByte Layout.control (by decide) 1, .tick (.done ()),
    .register ⟨31, by decide⟩ .reverse, .tick (.done ())]

/-- Both calls fail, yet each of them asks the service once, and the second one asks the service
that was registered by the seventh step. -/
theorem reregistered_asked :
    ∃ gate last watched calling, gate = Gate.blockAt .zero 0 (by decide) ∧
      (Played.mk gate .onePage []).run reregistered = .ok last ∧
      (Played.mk (gate.map Watched.fresh) .onePage []).watch [] reregistered = .ok watched ∧
      watched.map Watched.service = last ∧
      calling = ((Played.mk gate .onePage []).tickStarts [] reregistered).filter
        (fun start => start.Calls ⟨31, by decide⟩) ∧
      watched.gate.asked ⟨31, by decide⟩ = [(1, [1, 2]), (7, [1, 2])] ∧ calling.length = 2 := by
  obtain ⟨_, hruns⟩ := services_asked_as_requested (Gate.blockAt .zero 0 (by decide)) .onePage
  obtain ⟨last, watched, hrun, hwatch, hplain, hasked⟩ := hruns reregistered
  obtain ⟨calling, hcalling, _, hlength⟩ := hasked ⟨31, by decide⟩
  have hseen : ((Played.mk ((Gate.blockAt .zero 0 (by decide)).map Watched.fresh) .onePage []).watch
      [] reregistered).map (fun watched => watched.gate.asked ⟨31, by decide⟩) =
        .ok [(1, [1, 2]), (7, [1, 2])] := by decide +kernel
  rw [hwatch] at hseen
  have hrecord : watched.gate.asked ⟨31, by decide⟩ = [(1, [1, 2]), (7, [1, 2])] :=
    Except.ok.inj hseen
  rw [hrecord] at hlength
  exact ⟨_, last, watched, calling, rfl, hrun, hwatch, hplain, hcalling, hrecord, hlength.symm⟩

end HostCalls
