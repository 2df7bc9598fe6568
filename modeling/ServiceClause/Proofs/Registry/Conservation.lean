import ServiceClause.Proofs.Registry.Counts
import ServiceClause.Registry.Scripted

/-!
# No client is lost

Several callers use a registry at once: they acquire clients, whose steps come in any order,
register clients of their own, and remove clients. Whatever they do, and whatever fails, every
client that the registry has had made is in exactly one place: an acquisition that is under way
still holds it, it is registered, it has been handed back to a caller who registered another one, or
it has been shut down.

## Main definitions

* `ServiceClause.SharedRegistry` — a registry that several callers use.
* `ServiceClause.RegistryEvent`, `ServiceClause.SharedRegistry.run` — what they do, in any order.
* `ServiceClause.Whereabouts`, `ServiceClause.SharedRegistry.IsAt` — where a client can be.
* `ServiceClause.SharedRegistry.Accounted` — the invariant.

## Main statements

* `ServiceClause.SharedRegistry.run_acquire` — acquiring a client is one order of steps.
* `ServiceClause.SharedRegistry.accounted_run` — the invariant holds after any events.
* `ServiceClause.SharedRegistry.clients_conserved` — every client is in exactly one place.
-/

set_option autoImplicit false

namespace ServiceClause

/-- What may happen next to a registry that several callers use. -/
inductive RegistryEvent (κ : Type) where
  /-- A caller asks for the client for an endpoint. -/
  | request (endpoint : String)
  /-- The acquisition of a caller goes on by a step. -/
  | proceed (caller : Nat)
  /-- A caller registers a client of its own. -/
  | register (endpoint : String) (client : κ)
  /-- The client for an endpoint is removed. -/
  | unregister (endpoint : String)
  /-- All clients are removed. -/
  | unregisterAll
  /-- The next clients are made in another way. -/
  | setFactory (factory : Factory κ)

/-- A registry that several callers use. -/
structure SharedRegistry (κ : Type) where
  /-- The registry. -/
  registry : Registry κ
  /-- All acquisitions so far, in the order in which they were asked for. -/
  acquisitions : List Acquisition
  /-- The initializations that have come to an end, with their outcomes. -/
  outcomes : List (ClientId × Outcome Unit)
  /-- The clients that have been handed back to callers who registered other ones. -/
  displaced : List ClientId

/-- The outcome of the initialization that an acquisition is waiting for. -/
def Acquisition.outcomes : Acquisition → List (ClientId × Outcome Unit)
  | .initializing _ id initialization => [(id, initialization.value)]
  | _ => []

/-- Where a client can be. -/
inductive Whereabouts where
  /-- An acquisition that is under way holds it. -/
  | held
  /-- It is registered. -/
  | registered
  /-- It has been handed back to a caller who registered another one. -/
  | displaced
  /-- It has been shut down. -/
  | released

namespace SharedRegistry

variable {κ : Type}

/-- A registry that nobody has used yet. -/
def start (factory : Factory κ) : SharedRegistry κ := ⟨.empty factory, [], [], []⟩

/-- The registry after an event. -/
def after (l : Lifecycle κ) (s : SharedRegistry κ) : RegistryEvent κ → SharedRegistry κ
  | .request endpoint => { s with acquisitions := s.acquisitions ++ [.requested endpoint] }
  | .proceed caller =>
    match s.acquisitions[caller]? with
    | none => s
    | some a =>
      { s with
        registry := (s.registry.step l a).2
        acquisitions := s.acquisitions.set caller (s.registry.step l a).1
        outcomes := s.outcomes ++ a.outcomes }
  | .register endpoint client =>
    { s with
      registry := (s.registry.register endpoint client).2
      displaced := s.displaced ++ (s.registry.register endpoint client).1.toList }
  | .unregister endpoint => { s with registry := (s.registry.unregister l endpoint).2 }
  | .unregisterAll => { s with registry := s.registry.unregisterAll l }
  | .setFactory factory => { s with registry := s.registry.setFactory factory }

/-- The registry after events in this order. -/
def run (l : Lifecycle κ) (s : SharedRegistry κ) (events : List (RegistryEvent κ)) :
    SharedRegistry κ :=
  events.foldl (·.after l) s

/-- Whether a client that was made for an endpoint is at a place. -/
def IsAt (s : SharedRegistry κ) (endpoint : String) (id : ClientId) : Whereabouts → Prop
  | .held => ∃ a ∈ s.acquisitions, a.holds id = true
  | .registered =>
    s.registry.get? endpoint = some id ∧ (id, .ok ()) ∈ s.outcomes ∧ s.registry.shutdownsOf id = 0
  | .displaced => id ∈ s.displaced ∧ s.registry.shutdownsOf id = 0
  | .released =>
    (∀ other, s.registry.get? other ≠ some id) ∧ s.registry.shutdownsOf id = 1

/-! ## An acquisition by itself -/

/-- An acquisition that nothing comes between ends after three steps. -/
theorem step_step_step (l : Lifecycle κ) (r : Registry κ) (endpoint : String) :
    ((r.step l (.requested endpoint)).2.step l (r.step l (.requested endpoint)).1).2.step l
        ((r.step l (.requested endpoint)).2.step l (r.step l (.requested endpoint)).1).1 =
      (.ended (r.acquire l endpoint).1, (r.acquire l endpoint).2) := by
  unfold Registry.acquire Registry.complete
  cases hget : r.get? endpoint with
  | some id => simp only [Registry.step, hget]
  | none =>
    cases hbegin : r.begin l endpoint with
    | mk outcome r' =>
      cases outcome with
      | error e => simp only [Registry.step, Registry.acquireNew, hget, hbegin]
      | ok made => simp only [Registry.step, Registry.acquireNew, hget, hbegin]

/-- The acquisition that was asked for last goes on. -/
theorem after_proceed_last (l : Lifecycle κ) (r : Registry κ) (before : List Acquisition)
    (a : Acquisition) (outcomes : List (ClientId × Outcome Unit)) (displaced : List ClientId) :
    (⟨r, before ++ [a], outcomes, displaced⟩ : SharedRegistry κ).after l
        (.proceed before.length) =
      ⟨(r.step l a).2, before ++ [(r.step l a).1], outcomes ++ a.outcomes, displaced⟩ := by
  simp [after]

/-- Acquiring a client is one order of steps. -/
theorem run_acquire (l : Lifecycle κ) (s : SharedRegistry κ) (endpoint : String) :
    (s.run l [.request endpoint, .proceed s.acquisitions.length, .proceed s.acquisitions.length,
        .proceed s.acquisitions.length]).registry = (s.registry.acquire l endpoint).2 ∧
      (s.run l [.request endpoint, .proceed s.acquisitions.length, .proceed s.acquisitions.length,
        .proceed s.acquisitions.length]).acquisitions =
          s.acquisitions ++ [.ended (s.registry.acquire l endpoint).1] := by
  have hsteps := step_step_step l s.registry endpoint
  simp only [run, List.foldl_cons, List.foldl_nil]
  rw [show s.after l (.request endpoint) =
      ⟨s.registry, s.acquisitions ++ [.requested endpoint], s.outcomes, s.displaced⟩ from rfl,
    after_proceed_last, after_proceed_last, after_proceed_last, hsteps]
  exact ⟨rfl, rfl⟩

/-! ## The invariant -/

/-- What holds of a registry at any moment. -/
structure Accounted (s : SharedRegistry κ) : Prop where
  /-- There is at most one entry for an endpoint. -/
  keys : s.registry.keys.Nodup
  /-- Every client is counted once. -/
  balance : ∀ id, s.acquisitions.countP (·.holds id) + s.registry.registrations id +
    s.displaced.count id + s.registry.shutdownsOf id = s.registry.known id
  /-- The registry initializes the clients that it has made, and each of them once. -/
  origins : ∀ origin ∈ s.registry.origins,
    origin = (none, 0) ∨ ∃ endpoint, origin = (some endpoint, 1)
  /-- A client is initialized for the endpoint that it was made for. -/
  held : ∀ endpoint id initialization,
    Acquisition.initializing endpoint id initialization ∈ s.acquisitions →
      s.registry.origins[id]? = some (some endpoint, 1)
  /-- A client that the registry has made is registered for its own endpoint, and only after it has
  been initialized. -/
  registered : ∀ endpoint id, (endpoint, id) ∈ s.registry.entries →
    s.registry.origins[id]? = some (none, 0) ∨
      s.registry.origins[id]? = some (some endpoint, 1) ∧ (id, .ok ()) ∈ s.outcomes

theorem accounted_start (factory : Factory κ) : (start factory).Accounted where
  keys := List.nodup_nil
  balance _ := rfl
  origins _ h := by simp [start, Registry.empty, Registry.origins] at h
  held _ _ _ h := by simp [start] at h
  registered _ _ h := by simp [start, Registry.empty] at h

/-- A client that is counted somewhere is known. -/
theorem Accounted.lt_of_pos {s : SharedRegistry κ} (h : s.Accounted) {id : ClientId}
    (hpos : 0 < s.acquisitions.countP (·.holds id) + s.registry.registrations id) :
    id < s.registry.clients.length := by
  have hbalance := h.balance id
  unfold Registry.known at hbalance
  split at hbalance
  · assumption
  · omega

theorem Accounted.known_of_holds {s : SharedRegistry κ} (h : s.Accounted) {a : Acquisition}
    (ha : a ∈ s.acquisitions) {id : ClientId} (hid : a.holds id = true) :
    id < s.registry.clients.length :=
  h.lt_of_pos (Nat.add_pos_left (List.countP_pos_iff.2 ⟨a, ha, hid⟩) _)

theorem Accounted.known_of_entry {s : SharedRegistry κ} (h : s.Accounted) :
    ∀ entry ∈ s.registry.entries, entry.2 < s.registry.clients.length :=
  fun entry hentry =>
    h.lt_of_pos (Nat.add_pos_right _ (Registry.registrations_pos.2 ⟨entry.1, hentry⟩))

/-! ## Every event keeps it -/

theorem getElem?_append_of_some {α : Type} {before : List α} (after : List α) {i : Nat} {a : α}
    (h : before[i]? = some a) : (before ++ after)[i]? = some a := by
  obtain ⟨hlt, _⟩ := List.getElem?_eq_some_iff.1 h
  rw [List.getElem?_append_left hlt, h]

/-- The number of acquisitions that hold a client, when one of them goes on. -/
theorem countP_set_add {acquisitions : List Acquisition} {caller : Nat} {a : Acquisition}
    (h : acquisitions[caller]? = some a) (a' : Acquisition) (id : ClientId) :
    (acquisitions.set caller a').countP (·.holds id) + (if a.holds id then 1 else 0) =
      acquisitions.countP (·.holds id) + (if a'.holds id then 1 else 0) := by
  obtain ⟨hlt, rfl⟩ := List.getElem?_eq_some_iff.1 h
  rw [List.countP_set hlt]
  have hle : (if acquisitions[caller].holds id = true then 1 else 0) ≤
      acquisitions.countP (·.holds id) := by
    split
    · next hholds =>
      exact List.countP_pos_iff.2 ⟨_, List.getElem_mem hlt, hholds⟩
    · exact Nat.zero_le _
  omega

/-- A step of an acquisition keeps the invariant.

**Proof sketch.** By the rules of a step. A new client is made for the endpoint of its acquisition,
and one that is registered has been initialized. -/
theorem accounted_of_proceeds {l : Lifecycle κ} {s : SharedRegistry κ} (h : s.Accounted)
    {caller : Nat} {a a' : Acquisition} {r' : Registry κ}
    (ha : s.acquisitions[caller]? = some a) (hstep : s.registry.Proceeds l a a' r') :
    Accounted ⟨r', s.acquisitions.set caller a', s.outcomes ++ a.outcomes, s.displaced⟩ := by
  have hmem : a ∈ s.acquisitions := List.mem_of_getElem? ha
  have hbalance : ∀ id, (s.acquisitions.set caller a').countP (·.holds id) + r'.registrations id +
      s.displaced.count id + r'.shutdownsOf id = r'.known id := by
    intro id
    have hsum := Registry.balance_proceeds hstep h.keys (fun _ => h.known_of_holds hmem) id
    have hcount := countP_set_add ha a' id
    have hbefore := h.balance id
    omega
  have hother : ∀ endpoint id initialization,
      .initializing endpoint id initialization ∈ s.acquisitions.set caller a' →
        .initializing endpoint id initialization ∈ s.acquisitions ∨
          a' = .initializing endpoint id initialization := by
    intro endpoint id initialization hin
    rcases List.mem_or_eq_of_mem_set hin with hin | heq
    · exact .inl hin
    · exact .inr heq.symm
  cases hstep with
  | looks factory hnone hnone' =>
    refine ⟨h.keys, hbalance, h.origins, fun endpoint id initialization hin => ?_,
      fun endpoint id hin => ?_⟩
    · rcases hother endpoint id initialization hin with hin | rfl
      · exact h.held endpoint id initialization hin
      · simpa [Acquisition.holds] using hnone' id
    · exact (h.registered endpoint id hin).imp_right fun hown =>
        ⟨hown.1, List.mem_append_left _ hown.2⟩
  | makes endpoint client initialization factory =>
    have horigins : (⟨s.registry.clients ++ [⟨client, some endpoint, 1, 0⟩], s.registry.entries,
        factory⟩ : Registry κ).origins = s.registry.origins ++ [(some endpoint, 1)] := by
      simp [Registry.origins]
    refine ⟨h.keys, hbalance, ?_, fun other id begun hin => ?_, fun other id hin => ?_⟩
    · intro origin horigin
      rw [horigins] at horigin
      rcases List.mem_append.1 horigin with horigin | horigin
      · exact h.origins origin horigin
      · exact .inr ⟨endpoint, List.mem_singleton.1 horigin⟩
    · rw [horigins]
      rcases hother other id begun hin with hin | heq
      · exact getElem?_append_of_some _ (h.held other id begun hin)
      · obtain ⟨rfl, rfl, _⟩ := Acquisition.initializing.inj heq
        rw [← Registry.length_origins, List.getElem?_concat_length]
    · rw [horigins]
      exact (h.registered other id hin).imp (getElem?_append_of_some _) fun hown =>
        ⟨getElem?_append_of_some _ hown.1, List.mem_append_left _ hown.2⟩
  | discards endpoint held initialization result =>
    have horigins := s.registry.origins_shutDown l held
    refine ⟨h.keys, hbalance, ?_, fun other id begun hin => ?_, fun other id hin => ?_⟩
    · rw [horigins]
      exact h.origins
    · rw [horigins]
      rcases hother other id begun hin with hin | heq
      · exact h.held other id begun hin
      · simp at heq
    · rw [horigins]
      exact (h.registered other id hin).imp_right fun hown =>
        ⟨hown.1, List.mem_append_left _ hown.2⟩
  | registers endpoint held initialization hinitialized hfree =>
    refine ⟨Registry.keys_setEntry h.keys endpoint held, hbalance, h.origins,
      fun other id begun hin => ?_, fun other id hin => ?_⟩
    · rcases hother other id begun hin with hin | heq
      · exact h.held other id begun hin
      · simp at heq
    · rcases List.mem_cons.1 hin with heq | hin
      · obtain ⟨rfl, rfl⟩ := Prod.mk.inj heq
        refine .inr ⟨h.held _ _ initialization hmem, List.mem_append_right _ ?_⟩
        simp [Acquisition.outcomes, hinitialized]
      · exact (h.registered other id (List.mem_filter.1 hin).1).imp_right fun hown =>
          ⟨hown.1, List.mem_append_left _ hown.2⟩

/-- A caller that registers a client of its own keeps the invariant. -/
theorem accounted_of_register {s : SharedRegistry κ} (h : s.Accounted) (endpoint : String)
    (client : κ) :
    Accounted ⟨(s.registry.register endpoint client).2, s.acquisitions, s.outcomes,
      s.displaced ++ (s.registry.register endpoint client).1.toList⟩ := by
  have horigins : (s.registry.register endpoint client).2.origins =
      s.registry.origins ++ [(none, 0)] := by
    show (s.registry.clients ++ [(⟨client, none, 0, 0⟩ : KnownClient κ)]).map _ = _
    rw [List.map_append]
    rfl
  refine ⟨?_, fun id => ?_, ?_, fun other id begun hin => ?_, fun other id hin => ?_⟩
  · exact Registry.keys_setEntry (r := (s.registry.addClient client none).2) h.keys endpoint _
  · have hsum := Registry.balance_register h.keys endpoint client id
    have hbefore := h.balance id
    simp only [List.count_append]
    omega
  · intro origin horigin
    rw [horigins] at horigin
    rcases List.mem_append.1 horigin with horigin | horigin
    · exact h.origins origin horigin
    · exact .inl (List.mem_singleton.1 horigin)
  · rw [horigins]
    exact getElem?_append_of_some _ (h.held other id begun hin)
  · rw [horigins]
    rcases List.mem_cons.1 hin with heq | hin
    · obtain ⟨rfl, rfl⟩ := Prod.mk.inj heq
      rw [← Registry.length_origins, List.getElem?_concat_length]
      exact .inl rfl
    · exact (h.registered other id (List.mem_filter.1 hin).1).imp (getElem?_append_of_some _)
        fun hown => ⟨getElem?_append_of_some _ hown.1, hown.2⟩

/-- A registry from which entries have been removed, and of whose clients some have been shut down,
satisfies the invariant if it is balanced. -/
theorem Accounted.of_removal {s : SharedRegistry κ} (h : s.Accounted) {r' : Registry κ}
    (hentries : r'.entries.Sublist s.registry.entries) (horigins : r'.origins = s.registry.origins)
    (hbalance : ∀ id, r'.registrations id + r'.shutdownsOf id =
      s.registry.registrations id + s.registry.shutdownsOf id) :
    Accounted { s with registry := r' } where
  keys := h.keys.sublist (hentries.map Prod.fst)
  balance id := by
    have hsum := hbalance id
    have hbefore := h.balance id
    have hknown := Registry.known_of_origins horigins id
    show s.acquisitions.countP (·.holds id) + r'.registrations id + s.displaced.count id +
      r'.shutdownsOf id = r'.known id
    omega
  origins := by
    rw [show ({ s with registry := r' } : SharedRegistry κ).registry = r' from rfl, horigins]
    exact h.origins
  held endpoint id initialization hin := by
    show r'.origins[id]? = _
    rw [horigins]
    exact h.held endpoint id initialization hin
  registered endpoint id hin := by
    show r'.origins[id]? = _ ∨ r'.origins[id]? = _ ∧ _
    rw [horigins]
    exact h.registered endpoint id (hentries.mem hin)

/-- Every event keeps the invariant. -/
theorem accounted_after {l : Lifecycle κ} {s : SharedRegistry κ} (h : s.Accounted)
    (event : RegistryEvent κ) : (s.after l event).Accounted := by
  cases event with
  | request endpoint =>
    refine ⟨h.keys, fun id => ?_, h.origins, fun other id begun hin => ?_, h.registered⟩
    · have hbefore := h.balance id
      simpa [after, List.countP_append, Acquisition.holds] using hbefore
    · rcases List.mem_append.1 hin with hin | hin
      · exact h.held other id begun hin
      · simp at hin
  | proceed caller =>
    cases ha : s.acquisitions[caller]? with
    | none =>
      simp only [after, ha]
      exact h
    | some a =>
      simp only [after, ha]
      exact accounted_of_proceeds h ha (s.registry.proceeds_step a)
  | register endpoint client => exact accounted_of_register h endpoint client
  | unregister endpoint =>
    refine h.of_removal ?_ ?_ (Registry.balance_unregister h.keys h.known_of_entry endpoint)
    · unfold Registry.unregister
      cases s.registry.get? endpoint with
      | none => exact .refl _
      | some id => exact List.filter_sublist
    · unfold Registry.unregister
      cases s.registry.get? endpoint with
      | none => rfl
      | some id => exact (s.registry.removeEntry endpoint).origins_shutDown l id
  | unregisterAll =>
    refine h.of_removal ?_ ?_ fun id => ?_
    · rw [Registry.unregisterAll, (Registry.frame_foldl l _ _).1]
      exact List.nil_sublist _
    · exact (Registry.frame_foldl l _ _).2
    · obtain ⟨hnone, hshut⟩ := Registry.balance_unregisterAll (l := l) h.known_of_entry id
      rw [hnone, hshut, Nat.zero_add]
  | setFactory factory => exact ⟨h.keys, h.balance, h.origins, h.held, h.registered⟩

/-- The invariant holds after any events. -/
theorem accounted_run (l : Lifecycle κ) (events : List (RegistryEvent κ))
    {s : SharedRegistry κ} (h : s.Accounted) : (s.run l events).Accounted := by
  induction events generalizing s with
  | nil => exact h
  | cons event events ih => exact ih (accounted_after h event)

/-! ## Main result -/

theorem isAt_held_iff {s : SharedRegistry κ} {id : ClientId} {endpoint : String} :
    s.IsAt endpoint id .held ↔ 0 < s.acquisitions.countP (·.holds id) :=
  List.countP_pos_iff.symm

/-- A client that the registry has made is registered only where it belongs. -/
theorem Accounted.isAt_registered_iff {s : SharedRegistry κ} (h : s.Accounted) {id : ClientId}
    {endpoint : String} {n : Nat} (hmade : s.registry.origins[id]? = some (some endpoint, n)) :
    s.IsAt endpoint id .registered ↔
      0 < s.registry.registrations id ∧ s.registry.shutdownsOf id = 0 := by
  rw [Registry.registrations_pos]
  constructor
  · rintro ⟨hget, _, hshut⟩
    exact ⟨⟨endpoint, Registry.mem_entries_of_get? hget⟩, hshut⟩
  · rintro ⟨⟨other, hentry⟩, hshut⟩
    rcases h.registered other id hentry with hgiven | ⟨hown, hinitialized⟩
    · simp [hmade] at hgiven
    · obtain ⟨rfl, _⟩ : endpoint = other ∧ n = 1 := by simpa [hmade] using hown
      exact ⟨Registry.get?_of_mem_entries h.keys hentry, hinitialized, hshut⟩

theorem isAt_displaced_iff {s : SharedRegistry κ} {id : ClientId} {endpoint : String} :
    s.IsAt endpoint id .displaced ↔
      0 < s.displaced.count id ∧ s.registry.shutdownsOf id = 0 := by
  rw [List.count_pos_iff]
  rfl

theorem Accounted.isAt_released_iff {s : SharedRegistry κ} (h : s.Accounted) {id : ClientId}
    {endpoint : String} :
    s.IsAt endpoint id .released ↔
      s.registry.registrations id = 0 ∧ s.registry.shutdownsOf id = 1 := by
  have hnowhere : (∀ other, s.registry.get? other ≠ some id) ↔
      s.registry.registrations id = 0 := by
    refine ⟨fun hnone => Nat.eq_zero_of_not_pos fun hpos => ?_, fun hzero other hget => ?_⟩
    · obtain ⟨other, hentry⟩ := Registry.registrations_pos.1 hpos
      exact hnone other (Registry.get?_of_mem_entries h.keys hentry)
    · have hpos := Registry.registrations_pos.2 ⟨other, Registry.mem_entries_of_get? hget⟩
      omega
  rw [← hnowhere]
  rfl

/-- A client that the registry has made is at the only place where it is counted. -/
theorem Accounted.exists_isAt {s : SharedRegistry κ} (h : s.Accounted) {id : ClientId}
    {endpoint : String} {n : Nat} (hmade : s.registry.origins[id]? = some (some endpoint, n)) :
    ∃ place, s.IsAt endpoint id place ∧ ∀ other, s.IsAt endpoint id other → other = place := by
  have hbalance := h.balance id
  have hknown : s.registry.known id = 1 := by
    rw [Registry.known, if_pos]
    rw [← Registry.length_origins]
    exact (List.getElem?_eq_some_iff.1 hmade).1
  rw [hknown] at hbalance
  have hplace : ∀ place, s.IsAt endpoint id place ↔ match place with
      | .held => 0 < s.acquisitions.countP (·.holds id)
      | .registered => 0 < s.registry.registrations id ∧ s.registry.shutdownsOf id = 0
      | .displaced => 0 < s.displaced.count id ∧ s.registry.shutdownsOf id = 0
      | .released => s.registry.registrations id = 0 ∧ s.registry.shutdownsOf id = 1 := by
    intro place
    cases place with
    | held => exact isAt_held_iff
    | registered => exact h.isAt_registered_iff hmade
    | displaced => exact isAt_displaced_iff
    | released => exact h.isAt_released_iff
  have hone : 0 < s.acquisitions.countP (·.holds id) ∨ 0 < s.registry.registrations id ∨
      0 < s.displaced.count id ∨ 0 < s.registry.shutdownsOf id := by omega
  have honly : ∀ place, s.IsAt endpoint id place → ∀ other, s.IsAt endpoint id other →
      other = place := by
    intro place hplace' other hother
    rw [hplace] at hplace' hother
    cases place <;> cases other <;> simp only at hplace' hother <;> first | rfl | omega
  rcases hone with hheld | hregistered | hdisplaced | hreleased
  · exact ⟨.held, (hplace _).2 hheld, honly _ ((hplace _).2 hheld)⟩
  · have hat := (hplace .registered).2 ⟨hregistered, by omega⟩
    exact ⟨.registered, hat, honly _ hat⟩
  · have hat := (hplace .displaced).2 ⟨hdisplaced, by omega⟩
    exact ⟨.displaced, hat, honly _ hat⟩
  · have hat := (hplace .released).2 ⟨by omega, by omega⟩
    exact ⟨.released, hat, honly _ hat⟩

/-- **No client is lost.** Several callers use a registry at once, in any order of steps, and with
any failures to make, to initialize or to shut down clients. At any moment, every client that the
registry has had made has been initialized at most once and is in exactly one place: an acquisition
under way holds it; it is registered for the endpoint that it was made for, successfully initialized
and not shut down; it has been handed back to a caller who registered another one, and not been shut
down; or it is registered nowhere and has been shut down once. The registry holds no client that has
been shut down, and none of its own that has not been initialized.

**Proof sketch.** Every event keeps the sum of the places at which a client is counted
(`accounted_run`), so it is counted at one place only. -/
theorem clients_conserved (l : Lifecycle κ) (factory : Factory κ)
    (events : List (RegistryEvent κ)) :
    (∀ id client endpoint, ((start factory).run l events).registry.clients[id]? = some client →
      client.madeFor? = some endpoint →
      client.initializations ≤ 1 ∧
      ∃ place, ((start factory).run l events).IsAt endpoint id place ∧
        ∀ other, ((start factory).run l events).IsAt endpoint id other → other = place) ∧
    ∀ endpoint id, ((start factory).run l events).registry.get? endpoint = some id →
      ∃ client, ((start factory).run l events).registry.clients[id]? = some client ∧
        client.shutdowns = 0 ∧ ∀ made, client.madeFor? = some made →
          made = endpoint ∧ (id, .ok ()) ∈ ((start factory).run l events).outcomes := by
  have h := accounted_run l events (accounted_start factory)
  generalize (start factory).run l events = s at h
  refine ⟨fun id client endpoint hclient hmade => ⟨?_, ?_⟩, fun endpoint id hget => ?_⟩
  · have hmem := List.mem_of_getElem? (Registry.getElem?_origins hclient)
    rcases h.origins _ hmem with heq | ⟨_, heq⟩
    · rw [(Prod.mk.inj heq).2]
      exact Nat.zero_le 1
    · exact Nat.le_of_eq (Prod.mk.inj heq).2
  · have hmade' := Registry.getElem?_origins hclient
    rw [hmade] at hmade'
    exact h.exists_isAt hmade'
  · have hentry := Registry.mem_entries_of_get? hget
    have hlt : id < s.registry.clients.length := h.known_of_entry _ hentry
    have hclient := List.getElem?_eq_getElem hlt
    refine ⟨s.registry.clients[id], hclient, ?_, fun made hmade => ?_⟩
    · have hpos := Registry.registrations_pos.2 ⟨endpoint, hentry⟩
      have hbalance := h.balance id
      rw [Registry.known, if_pos hlt] at hbalance
      have hzero : s.registry.shutdownsOf id = 0 := by omega
      rwa [Registry.shutdownsOf, hclient] at hzero
    · have hown := Registry.getElem?_origins hclient
      rw [hmade] at hown
      rcases h.registered endpoint id hentry with hgiven | ⟨hmade', hinitialized⟩
      · simp [hown] at hgiven
      · obtain ⟨rfl, _⟩ : made = endpoint ∧ _ = 1 := by simpa [hown] using hmade'
        exact ⟨rfl, hinitialized⟩

/-- Of two clients that are made for the same endpoint at the same time, the one that is initialized
first is registered, and the other one is shut down. -/
example :
    let factory : Factory ScriptedClient :=
      ⟨[], fun endpoint => ⟨endpoint, .now (.ok ()), .ok ()⟩⟩
    let s := (start factory).run ScriptedClient.lifecycle
      [.request "http://example.org/", .request "http://example.org/", .proceed 0, .proceed 1,
        .proceed 0, .proceed 1, .proceed 1, .proceed 0]
    s.registry.get? "http://example.org/" = some 1 ∧ s.registry.shutdownsOf 0 = 1 := by
  decide

end SharedRegistry

end ServiceClause
