import HostCalls.Proofs.Delivery
import HostCalls.Proofs.ServiceTable
import Mathlib.Data.List.Dedup

/-!
# Registrations

A host registers services, looks them up, sends, takes messages from the queue and lets the gate
tick, in any order, while the guest does with its page and its memory what it likes. Which ids have
a service is decided by the registrations alone. The service under an id is the one that was
registered last, in the state to which the requests since then have brought it. A registration does
not touch anything else, so it can change places with sends and with registrations under other ids.
-/
namespace HostCalls

variable {σ μ : Type}

/-- What can happen to a gate and to the memory of its guest. -/
inductive Deed (σ μ : Type) where
  | register (id : ServiceId) (service : σ)
  | registerRaw (raw : UInt32) (service : σ)
  /-- Looks a service up and hands it a request. -/
  | call (id : ServiceId) (request : Bytes)
  | send (sender : Sender) (payload : Bytes)
  /-- Takes the oldest message from the queue. -/
  | pop
  /-- The guest changes the register page and its memory. -/
  | change (page : Page → Page) (memory : μ → μ)
  | tick (others : Activity Unit)

/-- What comes of a deed. -/
inductive Sight where
  | registered (events : List Event)
  /-- The answer of a service, if there is one under the id. -/
  | called (answer : Option (CallResult × List Event))
  | sent (result : Except SendError Unit) (events : List Event)
  | popped (message : Option Message)
  | changed
  | ticked (result : Except Fault Outcome) (events : List Event)

/-- A gate and the memory of its guest. -/
structure Hosted (σ μ : Type) where
  gate : Gate σ
  memory : μ

/-! ## What was registered -/

namespace Deed

/-- The id and the service of a registration. -/
def registration? : Deed σ μ → Option (ServiceId × σ)
  | register id service => some (id, service)
  | registerRaw raw service => (ServiceId.ofRaw? raw).map fun id => (id, service)
  | _ => none

/-- The ids under which services are registered, in the order of the registrations. -/
def registeredIds (deeds : List (Deed σ μ)) : List ServiceId :=
  deeds.filterMap fun deed => deed.registration?.map (·.1)

lemma registeredIds_cons (deed : Deed σ μ) (rest : List (Deed σ μ)) :
    registeredIds (deed :: rest) = (deed.registration?.map (·.1)).toList ++ registeredIds rest := by
  cases h : deed.registration? <;> simp [registeredIds, h]

/-- Deeds that do not concern a registration under an id. -/
inductive Apart (id : ServiceId) : Deed σ μ → Prop
  | registration {deed : Deed σ μ} {other : ServiceId} {service : σ}
      (h : deed.registration? = some (other, service)) (hne : other ≠ id) : Apart id deed
  | send (sender : Sender) (payload : Bytes) : Apart id (send sender payload)
  | pop : Apart id pop

end Deed

/-- A registry has services under exactly these ids, whatever their order and how often they
occur. -/
structure Registry.Lists [Service σ] (registry : Registry σ) (registered : List ServiceId) :
    Prop where
  ascending : registry.services.ids.Pairwise fun a b => a.raw < b.raw
  mem_ids_iff : ∀ id, id ∈ registry.services.ids ↔ id ∈ registered
  size_eq : registry.services.size = registered.dedup.length
  contains_iff : ∀ id, registry.services.contains id = true ↔ id ∈ registered
  call?_iff : ∀ id request, (registry.call? id request).isSome = true ↔ id ∈ registered
  zero_not_mem : 0 ∉ registry.services.ids.map (·.raw)

/-- Everything else follows from the ids. -/
lemma Registry.lists_of_mem_ids_iff [Service σ] {registry : Registry σ}
    {registered : List ServiceId}
    (h : ∀ id, id ∈ registry.services.ids ↔ id ∈ registered) : registry.Lists registered := by
  have hperm : registry.services.ids.Perm registered.dedup :=
    (List.perm_ext_iff_of_nodup registry.services.nodup_ids (List.nodup_dedup _)).mpr fun id =>
      (h id).trans List.mem_dedup.symm
  have hsize : registry.services.ids.length = registry.services.size := List.length_map _
  refine ⟨?_, h, hsize.symm.trans hperm.length_eq, fun id => ?_, fun id request => ?_, ?_⟩
  · exact registry.services.ids_ascending.imp UInt32.lt_iff_toNat_lt.mpr
  · rw [← h, Table.mem_ids_iff, Table.contains]
  · rw [← h, Table.mem_ids_iff, call?, Option.isSome_map]
  · intro hzero
    obtain ⟨id, -, hid⟩ := List.mem_map.mp hzero
    exact id.nonzero hid

namespace Gate

/-- It does not matter for the log whether another id was registered before. -/
lemma events_register (gate : Gate σ) {id other : ServiceId} (hne : other ≠ id)
    (service replacement : σ) :
    ((gate.register id service).value.register other replacement).events =
      (gate.register other replacement).events := by
  have hcontains : (gate.registry.services.insert id service).contains other =
      gate.registry.services.contains other := by
    rw [Table.contains, Table.find?_insert_of_ne _ hne, Table.contains]
  simp only [register, Registry.register, hcontains]

lemma register_comm (gate : Gate σ) {id other : ServiceId} (hne : other ≠ id)
    (service replacement : σ) :
    ((gate.register id service).value.register other replacement).value =
      ((gate.register other replacement).value.register id service).value := by
  simp only [register, Registry.register, gate.registry.services.insert_comm hne.symm]

end Gate

/-! ## What becomes of a service -/

/-- The state to which a request brings a service that sends to a queue. -/
def Service.after [Service σ] (service : σ) (request : Bytes × MessageQueue) : σ :=
  ((Service.handle service request.1).perform request.2).result.2

lemma Gate.find?_of_invocation? [GuestMemory μ] (gate : Gate σ) {memory : μ} {id : ServiceId}
    {service : σ} {payload : Bytes}
    (h : gate.invocation? memory = some (id, service, payload)) :
    gate.registry.services.find? id = some service := by
  unfold invocation? at h
  split_ifs at h
  split at h
  · cases h
  · obtain ⟨other, _, h⟩ := Option.bind_eq_some_iff.mp h
    obtain ⟨found, hfind, h⟩ := Option.bind_eq_some_iff.mp h
    cases h
    exact hfind

/-- The services after a tick: the one that is asked comes to another state. -/
lemma Gate.Ticks.services [Service σ] [GuestMemory μ] {gate : Gate σ} {memory : μ}
    {others : Activity Unit} {ticked : Ticked σ μ} (h : gate.Ticks memory others ticked) :
    ticked.gate.registry.services =
      match gate.invocation? memory with
      | none => gate.registry.services
      | some (id, service, payload) =>
        gate.registry.services.insert id (Service.after service (payload, gate.queue)) := by
  cases h with
  | ended ended _ hdispatch =>
    cases hdispatch with
    | idle hidle => simp only [invocation?, if_pos hidle]; rfl
    | faulted hpending fault read hcopy => simp only [invocation?, if_neg hpending, hcopy]; rfl
    | waiting _ hservice => simp only [invocation?_control memory hservice]; rfl
  | finished call _ hdispatch _ hfinish =>
    rw [hfinish.services]
    show call.gate.registry.services = _
    cases hdispatch with
    | polled _ hservice => simp only [invocation?_control memory hservice]; rfl
    | refused _ _ hservice => simp only [invocation?_control memory hservice]
    | called hpending payload read hcopy id hid =>
      rw [invocation?_called hpending hcopy hid]
      cases hfind : gate.registry.services.find? id with
      | none => rw [gate.registry.call_of_not_find hfind, Option.map_none]
      | some service => rw [gate.registry.call_of_find hfind]; rfl

/-! ## Runs -/

namespace Hosted

variable [Service σ] [GuestMemory μ]

/-- Does one deed. -/
def step (host : Hosted σ μ) : Deed σ μ → Except Abort (Sight × Hosted σ μ)
  | .register id service =>
    let registered := host.gate.register id service
    .ok (.registered registered.events, { host with gate := registered.value })
  | .registerRaw raw service => do
    let registered ← host.gate.registerRaw raw service
    return (.registered registered.events, { host with gate := registered.value })
  | .call id request =>
    match host.gate.registry.call? id request with
    | none => .ok (.called none, host)
    | some called =>
      .ok (.called (some (called.result, called.events)),
        { host with gate := { host.gate with registry := called.registry } })
  | .send sender payload =>
    let sent := host.gate.registry.send sender payload
    .ok (.sent sent.value.1 sent.events,
      { host with gate := { host.gate with registry := sent.value.2 } })
  | .pop =>
    match host.gate.queue.popFront? with
    | none => .ok (.popped none, host)
    | some (message, queue) =>
      .ok (.popped (some message), { host with gate := host.gate.withQueue queue })
  | .change page memory =>
    .ok (.changed, ⟨{ host.gate with page := page host.gate.page }, memory host.memory⟩)
  | .tick others => do
    let ticked ← host.gate.tickAmid host.memory others
    return (.ticked ticked.result ticked.events, ⟨ticked.gate, ticked.memory⟩)

/-- Does one deed after the other. -/
def run (host : Hosted σ μ) : List (Deed σ μ) → Except Abort (List Sight × Hosted σ μ)
  | [] => .ok ([], host)
  | deed :: rest => do
    let (sight, next) ← host.step deed
    let (sights, last) ← next.run rest
    return (sight :: sights, last)

/-- The request that a deed brings to the service under an id, with the queue it finds. -/
def request? (host : Hosted σ μ) (id : ServiceId) : Deed σ μ → Option (Bytes × MessageQueue)
  | .call other request => if other = id then some (request, host.gate.queue) else none
  | .tick _ =>
    match host.gate.invocation? host.memory with
    | some (other, _, payload) => if other = id then some (payload, host.gate.queue) else none
    | none => none
  | _ => none

/-- The requests that come to an id in the course of a run. -/
def requests (host : Hosted σ μ) (id : ServiceId) : List (Deed σ μ) → List (Bytes × MessageQueue)
  | [] => []
  | deed :: rest =>
    (host.request? id deed).toList ++
      match host.step deed with
      | .ok (_, next) => next.requests id rest
      | .error _ => []

/-! ## What a deed does to the services -/

section

variable {host next : Hosted σ μ} {deed : Deed σ μ} {sight : Sight} {id : ServiceId}

/-- A raw registration is one under the id that it names. -/
lemma step_of_registration (host : Hosted σ μ) {service : σ}
    (h : deed.registration? = some (id, service)) :
    host.step deed =
      .ok (.registered (host.gate.register id service).events,
        { host with gate := (host.gate.register id service).value }) := by
  cases deed with
  | register other replacement =>
    cases h
    rfl
  | registerRaw raw replacement =>
    obtain ⟨other, hraw, hother⟩ := Option.map_eq_some_iff.mp h
    cases hother
    simp only [step, Gate.registerRaw, Registry.registerRaw, hraw]
    rfl
  | _ => cases h

lemma step_reserved (host : Hosted σ μ) (service : σ) :
    host.step (.registerRaw 0 service) = .error .reservedService := rfl

lemma step_pop (host : Hosted σ μ) :
    host.step .pop =
      .ok (.popped (host.gate.queue.popFront?.map (·.1)),
        { host with
          gate := host.gate.withQueue
            ((host.gate.queue.popFront?.map (·.2)).getD host.gate.queue) }) := by
  rw [step]
  cases host.gate.queue.popFront? <;> rfl

/-- Nothing aborts but the registration of the control channel. -/
lemma step_ok (host : Hosted σ μ) (deed : Deed σ μ)
    (h : ∀ service, deed ≠ .registerRaw 0 service) :
    ∃ sight next, host.step deed = .ok (sight, next) := by
  cases deed with
  | register id service => exact ⟨_, _, rfl⟩
  | registerRaw raw service =>
    have hraw : raw ≠ 0 := by
      rintro rfl
      exact h service rfl
    have hregistration : (Deed.registerRaw raw service : Deed σ μ).registration? =
        some (⟨raw, hraw⟩, service) := by
      simp only [Deed.registration?, ServiceId.ofRaw?, dif_pos hraw, Option.map_some]
    exact ⟨_, _, host.step_of_registration hregistration⟩
  | call id request =>
    simp only [step]
    split <;> exact ⟨_, _, rfl⟩
  | send sender payload => exact ⟨_, _, rfl⟩
  | pop => exact ⟨_, _, host.step_pop⟩
  | change page memory => exact ⟨_, _, rfl⟩
  | tick others =>
    obtain ⟨ticked, htick, _⟩ := host.gate.tickAmid_spec host.memory others
    rw [step, htick]
    exact ⟨_, _, rfl⟩

/-- Putting the new state of a service in its place changes it, and no other. -/
lemma find?_insert_after (services : Table σ) {other : ServiceId} {service : σ}
    (hfind : services.find? other = some service) (request : Bytes × MessageQueue) :
    (services.insert other (Service.after service request)).find? id =
      (services.find? id).map fun service =>
        (if other = id then some request else none).toList.foldl Service.after service := by
  by_cases hid : other = id
  · subst hid
    rw [Table.find?_insert_self, hfind, if_pos rfl]
    rfl
  · rw [Table.find?_insert_of_ne _ (Ne.symm hid), if_neg hid]
    exact Option.map_id'.symm

/-- The service under an id is changed by the requests that come to it, and by registrations. -/
lemma step_find? (hstep : host.step deed = .ok (sight, next))
    (hother : ∀ service, deed.registration? ≠ some (id, service)) :
    next.gate.registry.services.find? id =
      (host.gate.registry.services.find? id).map fun service =>
        (host.request? id deed).toList.foldl Service.after service := by
  have hquiet (found : Option σ) : found = found.map fun service =>
      (none : Option (Bytes × MessageQueue)).toList.foldl Service.after service :=
    Option.map_id'.symm
  cases hregistration : deed.registration? with
  | some registration =>
    obtain ⟨other, service⟩ := registration
    have hne : id ≠ other := by
      rintro rfl
      exact hother service hregistration
    have hnone : host.request? id deed = none := by
      cases deed <;> first | rfl | cases hregistration
    rw [host.step_of_registration hregistration] at hstep
    cases hstep
    rw [hnone, ← hquiet]
    exact Table.find?_insert_of_ne _ hne _
  | none =>
    cases deed with
    | register other service => cases hregistration
    | registerRaw raw service =>
      have hraw : ServiceId.ofRaw? raw = none := Option.map_eq_none_iff.mp hregistration
      simp only [step, Gate.registerRaw, Registry.registerRaw, hraw] at hstep
      cases hstep
    | call other request =>
      simp only [step, Registry.call?] at hstep
      cases hfind : host.gate.registry.services.find? other with
      | none =>
        rw [hfind] at hstep
        cases hstep
        -- a request that nobody takes
        by_cases hid : other = id
        · rw [← hid, hfind]
          rfl
        · simp only [request?, if_neg hid]
          exact hquiet _
      | some service =>
        rw [hfind] at hstep
        cases hstep
        exact find?_insert_after _ hfind (request, host.gate.queue)
    | send sender payload =>
      cases hstep
      exact hquiet _
    | pop =>
      rw [step_pop] at hstep
      cases hstep
      exact hquiet _
    | change page memory =>
      cases hstep
      exact hquiet _
    | tick others =>
      obtain ⟨ticked, htick, hticks⟩ := host.gate.tickAmid_spec host.memory others
      rw [step, htick] at hstep
      cases hstep
      simp only [request?, hticks.services]
      cases hinvocation : host.gate.invocation? host.memory with
      | none => exact hquiet _
      | some invocation =>
        obtain ⟨other, service, payload⟩ := invocation
        exact find?_insert_after _ (host.gate.find?_of_invocation? hinvocation) _

/-- A deed adds the id of a registration, and takes none away. -/
lemma step_mem_ids (hstep : host.step deed = .ok (sight, next)) :
    id ∈ next.gate.registry.services.ids ↔
      id ∈ host.gate.registry.services.ids ∨ id ∈ (deed.registration?.map (·.1)).toList := by
  rw [Table.mem_ids_iff, Table.mem_ids_iff, Option.mem_toList, Option.map_eq_some_iff]
  by_cases hregistration : ∃ service, deed.registration? = some (id, service)
  · obtain ⟨service, hservice⟩ := hregistration
    rw [host.step_of_registration hservice] at hstep
    cases hstep
    have hfind : ((host.gate.registry.services.insert id service).find? id).isSome = true := by
      rw [Table.find?_insert_self, Option.isSome_some]
    exact iff_of_true hfind (.inr ⟨_, hservice, rfl⟩)
  · rw [step_find? hstep (not_exists.mp hregistration), Option.isSome_map]
    refine (or_iff_left ?_).symm
    rintro ⟨⟨_, service⟩, hservice, rfl⟩
    exact hregistration ⟨service, hservice⟩

end

/-! ## What a run does to the services -/

section

variable {host next mid last : Hosted σ μ} {deed : Deed σ μ} {rest first second : List (Deed σ μ)}
  {deeds : List (Deed σ μ)} {sight : Sight} {sights shown later : List Sight} {id : ServiceId}

lemma run_cons (hstep : host.step deed = .ok (sight, next))
    (hrun : next.run rest = .ok (sights, last)) :
    host.run (deed :: rest) = .ok (sight :: sights, last) := by
  simp only [run, hstep, ok_bind, hrun]
  rfl

lemma exists_of_run_cons (hrun : host.run (deed :: rest) = .ok (sights, last)) :
    ∃ sight next later, host.step deed = .ok (sight, next) ∧
      next.run rest = .ok (later, last) ∧ sights = sight :: later := by
  obtain ⟨⟨sight, next⟩, hstep, hrun⟩ := exists_of_bind_ok hrun
  obtain ⟨⟨later, _⟩, hrest, hrun⟩ := exists_of_bind_ok hrun
  cases hrun
  exact ⟨sight, next, later, hstep, hrest, rfl⟩

lemma run_append (hfirst : host.run first = .ok (shown, mid))
    (hsecond : mid.run second = .ok (later, last)) :
    host.run (first ++ second) = .ok (shown ++ later, last) := by
  induction first generalizing host shown with
  | nil =>
    cases hfirst
    exact hsecond
  | cons deed rest ih =>
    obtain ⟨sight, next, _, hstep, hrest, rfl⟩ := exists_of_run_cons hfirst
    exact run_cons hstep (ih hrest)

lemma exists_of_run_append (hrun : host.run (first ++ second) = .ok (sights, last)) :
    ∃ shown mid later, host.run first = .ok (shown, mid) ∧ mid.run second = .ok (later, last) ∧
      sights = shown ++ later := by
  induction first generalizing host sights with
  | nil => exact ⟨[], host, sights, rfl, hrun, rfl⟩
  | cons deed rest ih =>
    obtain ⟨sight, next, _, hstep, hrest, rfl⟩ := exists_of_run_cons hrun
    obtain ⟨shown, mid, later, hfirst, hsecond, rfl⟩ := ih hrest
    exact ⟨sight :: shown, mid, later, run_cons hstep hfirst, hsecond, rfl⟩

lemma length_of_run (hrun : host.run deeds = .ok (sights, last)) :
    sights.length = deeds.length := by
  induction deeds generalizing host sights with
  | nil =>
    cases hrun
    rfl
  | cons deed rest ih =>
    obtain ⟨sight, next, later, -, hrest, rfl⟩ := exists_of_run_cons hrun
    rw [List.length_cons, List.length_cons, ih hrest]

lemma run_ok (host : Hosted σ μ) (h : ∀ service, .registerRaw 0 service ∉ deeds) :
    ∃ sights last, host.run deeds = .ok (sights, last) := by
  induction deeds generalizing host with
  | nil => exact ⟨_, _, rfl⟩
  | cons deed rest ih =>
    obtain ⟨sight, next, hstep⟩ := host.step_ok deed fun service heq =>
      h service (heq ▸ List.mem_cons_self)
    obtain ⟨sights, last, hrun⟩ :=
      ih next fun service hmem => h service (List.mem_cons_of_mem _ hmem)
    exact ⟨_, _, run_cons hstep hrun⟩

/-- A run ends where the control channel is registered. -/
lemma run_reserved (host : Hosted σ μ) {service : σ} (h : .registerRaw 0 service ∈ deeds) :
    host.run deeds = .error .reservedService := by
  induction deeds generalizing host with
  | nil => cases h
  | cons deed rest ih =>
    by_cases hreserved : ∃ service, deed = .registerRaw 0 service
    · obtain ⟨_, rfl⟩ := hreserved
      rw [run, step_reserved]
      rfl
    · obtain ⟨sight, next, hstep⟩ := host.step_ok deed (not_exists.mp hreserved)
      have hrest : .registerRaw 0 service ∈ rest :=
        (List.mem_cons.mp h).resolve_left fun heq => hreserved ⟨service, heq.symm⟩
      rw [run, hstep, ok_bind]
      simp only [ih next hrest]
      rfl

lemma run_find? (hrun : host.run deeds = .ok (sights, last))
    (hother : id ∉ Deed.registeredIds deeds) :
    last.gate.registry.services.find? id =
      (host.gate.registry.services.find? id).map fun service =>
        (host.requests id deeds).foldl Service.after service := by
  induction deeds generalizing host sights with
  | nil =>
    cases hrun
    exact Option.map_id'.symm
  | cons deed rest ih =>
    rw [Deed.registeredIds_cons, List.mem_append, not_or] at hother
    obtain ⟨sight, next, later, hstep, hrest, rfl⟩ := exists_of_run_cons hrun
    have hquiet : ∀ service, deed.registration? ≠ some (id, service) := by
      intro service hservice
      exact hother.1 (by simp [hservice])
    rw [ih hrest hother.2, step_find? hstep hquiet, Option.map_map]
    simp only [requests, hstep, List.foldl_append, Function.comp_def]

lemma run_mem_ids (hrun : host.run deeds = .ok (sights, last)) :
    id ∈ last.gate.registry.services.ids ↔
      id ∈ host.gate.registry.services.ids ∨ id ∈ Deed.registeredIds deeds := by
  induction deeds generalizing host sights with
  | nil =>
    cases hrun
    simp [Deed.registeredIds]
  | cons deed rest ih =>
    obtain ⟨sight, next, later, hstep, hrest, rfl⟩ := exists_of_run_cons hrun
    rw [ih hrest, step_mem_ids hstep, Deed.registeredIds_cons, List.mem_append, or_assoc]

/-- The last registration under an id counts. -/
lemma run_registration {before after : List (Deed σ μ)} {service : σ}
    (hrun : host.run (before ++ deed :: after) = .ok (sights, last))
    (hregistration : deed.registration? = some (id, service))
    (hlast : id ∉ Deed.registeredIds after) :
    ∃ shown mid, host.run (before ++ [deed]) = .ok (shown, mid) ∧
      last.gate.registry.services.find? id =
        some ((mid.requests id after).foldl Service.after service) := by
  obtain ⟨shown, reached, later, hbefore, hrest, -⟩ := exists_of_run_append hrun
  obtain ⟨sight, mid, _, hstep, hafter, -⟩ := exists_of_run_cons hrest
  refine ⟨shown ++ [sight], mid, run_append hbefore (run_cons hstep rfl), ?_⟩
  have hfind : mid.gate.registry.services.find? id = some service := by
    rw [reached.step_of_registration hregistration] at hstep
    cases hstep
    exact Table.find?_insert_self _ id service
  rw [run_find? hafter hlast, hfind, Option.map_some]

end

/-! ## Registrations that change places -/

/-- A registration and a deed that does not concern it come to the same in either order. -/
lemma step_swap (host : Hosted σ μ) {first second : Deed σ μ} {id : ServiceId} {service : σ}
    (hfirst : first.registration? = some (id, service)) (hsecond : second.Apart id) :
    ∃ sight sight' next, host.run [first, second] = .ok ([sight, sight'], next) ∧
      host.run [second, first] = .ok ([sight', sight], next) := by
  have hstep (host : Hosted σ μ) := host.step_of_registration hfirst
  cases hsecond with
  | @registration _ other replacement hother hne =>
    have hstep' (host : Hosted σ μ) := host.step_of_registration hother
    have hafter : (Hosted.mk (host.gate.register id service).value host.memory).step second =
        .ok (.registered (host.gate.register other replacement).events,
          ⟨((host.gate.register id service).value.register other replacement).value,
            host.memory⟩) := by
      rw [← host.gate.events_register hne service]
      exact hstep' _
    have hbefore : (Hosted.mk (host.gate.register other replacement).value host.memory).step first =
        .ok (.registered (host.gate.register id service).events,
          ⟨((host.gate.register id service).value.register other replacement).value,
            host.memory⟩) := by
      rw [← host.gate.events_register hne.symm replacement, host.gate.register_comm hne]
      exact hstep _
    exact ⟨_, _, _, run_cons (hstep host) (run_cons hafter rfl),
      run_cons (hstep' host) (run_cons hbefore rfl)⟩
  | send sender payload =>
    exact ⟨_, _, _, run_cons (hstep host) (run_cons rfl rfl), run_cons rfl (run_cons (hstep _) rfl)⟩
  | pop =>
    -- the queue is the same before and after the registration
    exact ⟨_, _, _, run_cons (hstep host) (run_cons (step_pop _) rfl),
      run_cons host.step_pop (run_cons (hstep _) rfl)⟩

/-- Whatever comes before and afterwards, it comes to the same in either order too. -/
lemma run_swap {host last : Hosted σ μ} {before after : List (Deed σ μ)} {first second : Deed σ μ}
    {sights : List Sight} {id : ServiceId} {service : σ}
    (hrun : host.run (before ++ first :: second :: after) = .ok (sights, last))
    (hfirst : first.registration? = some (id, service)) (hsecond : second.Apart id) :
    ∃ shown sight sight' later, shown.length = before.length ∧
      sights = shown ++ sight :: sight' :: later ∧
      host.run (before ++ second :: first :: after) =
        .ok (shown ++ sight' :: sight :: later, last) := by
  obtain ⟨shown, mid, rest, hbefore, hrest, rfl⟩ := exists_of_run_append hrun
  have hrest : mid.run ([first, second] ++ after) = .ok (rest, last) := hrest
  obtain ⟨_, next, later, hpair, hafter, rfl⟩ := exists_of_run_append hrest
  obtain ⟨sight, sight', next', hsame, hswapped⟩ := mid.step_swap hfirst hsecond
  cases hsame.symm.trans hpair
  exact ⟨shown, sight, sight', later, length_of_run hbefore, rfl,
    run_append hbefore (run_append hswapped hafter)⟩

end Hosted

/-- Registrations under an id and under its raw value are the same, they do not touch the queue, and
the control channel cannot be registered. After whatever was done with a gate that began without
services, there are services exactly under the ids that were registered, in ascending order. Under
each id it is the one that was registered last, in the state to which the requests since then have
brought it. A registration that changes places with one under another id, with a send or with a pop
changes nothing but the order of what the two come to. -/
theorem last_registration_counts [Service σ] [GuestMemory μ] (start : Hosted σ μ)
    (hstart : start.gate.registry.services = .empty) (deeds : List (Deed σ μ)) :
    (∀ (gate : Gate σ) (id : ServiceId) (service : σ),
      (gate.register id service).value.queue = gate.queue ∧
      gate.registerRaw id.raw service = .ok (gate.register id service) ∧
      gate.registerRaw 0 service = .error .reservedService) ∧
    ((∃ service, .registerRaw 0 service ∈ deeds) → start.run deeds = .error .reservedService) ∧
    ((∀ service, .registerRaw 0 service ∉ deeds) →
      ∃ sights last, start.run deeds = .ok (sights, last) ∧
        last.gate.registry.Lists (Deed.registeredIds deeds) ∧
        (∀ before registration after id service, deeds = before ++ registration :: after →
          registration.registration? = some (id, service) → id ∉ Deed.registeredIds after →
          ∃ shown mid, start.run (before ++ [registration]) = .ok (shown, mid) ∧
            last.gate.registry.services.find? id =
              some ((mid.requests id after).foldl Service.after service)) ∧
        ∀ before first second after id service, deeds = before ++ first :: second :: after →
          first.registration? = some (id, service) → second.Apart id →
          ∃ shown sight sight' later, shown.length = before.length ∧
            sights = shown ++ sight :: sight' :: later ∧
            start.run (before ++ second :: first :: after) =
              .ok (shown ++ sight' :: sight :: later, last)) := by
  refine ⟨fun gate id service => ⟨rfl, ?_, rfl⟩, fun ⟨_, hmem⟩ => start.run_reserved hmem,
    fun hlawful => ?_⟩
  · simp only [Gate.registerRaw, Registry.registerRaw, ServiceId.ofRaw?_raw]
    rfl
  · obtain ⟨sights, last, hrun⟩ := start.run_ok hlawful
    have hids : start.gate.registry.services.ids = [] := by rw [hstart]; rfl
    refine ⟨sights, last, hrun, Registry.lists_of_mem_ids_iff fun id => ?_, ?_, ?_⟩
    · simp only [Hosted.run_mem_ids hrun, hids, List.not_mem_nil, false_or]
    · rintro before registration after id service rfl hregistration hlast
      exact Hosted.run_registration hrun hregistration hlast
    · rintro before first second after id service rfl hfirst hsecond
      exact Hosted.run_swap hrun hfirst hsecond

/-- Two services are registered, and one of them is called, replaced and called again. -/
def recounted : List (Deed Stock PagedMemory) :=
  [.registerRaw 52 (.count 0), .registerRaw 51 .echo, .call ⟨52, by decide⟩ [],
    .registerRaw 52 (.count 5), .call ⟨52, by decide⟩ []]

/-- The service that takes the place of the counter begins with a count of its own, and it does not
matter which of the two ids was registered first. -/
theorem recounted_last_registration_counts :
    ∃ (gate : Gate Stock) (memory : PagedMemory) (sights swapped : List Sight)
      (last : Hosted Stock PagedMemory),
      Gate.new {} = .ok gate ∧ PagedMemory.new 1 = .ok memory ∧
      Hosted.run ⟨gate, memory⟩ recounted = .ok (sights, last) ∧
      last.gate.registry.services.size = 2 ∧
      last.gate.registry.services.contains ⟨51, by decide⟩ = true ∧
      last.gate.registry.services.contains ⟨50, by decide⟩ = false ∧
      last.gate.registry.services.find? ⟨52, by decide⟩ = some (.count 6) ∧
      Hosted.run ⟨gate, memory⟩
        (.registerRaw 51 .echo :: .registerRaw 52 (.count 0) :: recounted.drop 2) =
        .ok (swapped, last) ∧
      Hosted.run ⟨gate, memory⟩ (.registerRaw 0 .echo :: recounted) = .error .reservedService := by
  obtain ⟨gate, hgate, hservices⟩ :
      ∃ gate : Gate Stock, Gate.new {} = .ok gate ∧ gate.registry.services = .empty :=
    ⟨_, rfl, rfl⟩
  obtain ⟨memory, hmemory⟩ : ∃ memory, PagedMemory.new 1 = .ok memory :=
    ⟨_, dif_pos (by decide)⟩
  have hids : Deed.registeredIds recounted =
      [⟨52, by decide⟩, ⟨51, by decide⟩, ⟨52, by decide⟩] := rfl
  obtain ⟨-, -, hlawful⟩ := last_registration_counts ⟨gate, memory⟩ hservices recounted
  obtain ⟨sights, last, hrun, hlists, hfind, hswap⟩ := hlawful (by simp [recounted])
  rw [hids] at hlists
  obtain ⟨-, hreserved, -⟩ :=
    last_registration_counts ⟨gate, memory⟩ hservices (.registerRaw 0 .echo :: recounted)
  obtain ⟨_, mid, -, hcount⟩ := hfind (recounted.take 3) (.registerRaw 52 (.count 5))
    [.call ⟨52, by decide⟩ []] ⟨52, by decide⟩ (.count 5) rfl rfl (by decide)
  obtain ⟨_, _, _, _, -, -, hswapped⟩ := hswap [] (.registerRaw 52 (.count 0))
    (.registerRaw 51 .echo) (recounted.drop 2) ⟨52, by decide⟩ (.count 0) rfl rfl
    (.registration rfl (by decide))
  refine ⟨gate, memory, sights, _, last, hgate, hmemory, hrun, hlists.size_eq.trans (by decide),
    (hlists.contains_iff _).mpr (by decide), ?_, hcount.trans ?_, hswapped,
    hreserved ⟨.echo, List.mem_cons_self⟩⟩
  · exact Bool.eq_false_iff.mpr fun h => absurd ((hlists.contains_iff _).mp h) (by decide)
  · simp only [Hosted.requests, Hosted.request?, if_true]
    split <;> rfl

end HostCalls
