import ServiceClause.Registry.Acquisition

/-!
# Where the clients of a registry are

A client of a registry may be registered for endpoints and may have been shut down. Here it is
counted how often, and what each operation changes about these numbers, and about the endpoint that
a client was made for and the number of its initializations.

## Main definitions

* `ServiceClause.Registry.registrations`, `ServiceClause.Registry.shutdownsOf` — how often a client
  is registered and how often it has been shut down.
* `ServiceClause.Registry.known` — whether there is such a client, as a number.
* `ServiceClause.Registry.origins` — what the clients were made for and how often they have been
  initialized.
* `ServiceClause.Registry.Proceeds` — the rules by which an acquisition goes on.

## Main statements

* `ServiceClause.Registry.proceeds_step` — what a step of an acquisition can do.
* `ServiceClause.Registry.balance_register`, `balance_unregister`, `balance_unregisterAll`,
  `balance_proceeds` — every operation keeps the balance of registrations and shutdowns.
-/

set_option autoImplicit false

namespace ServiceClause

namespace Registry

variable {κ : Type}

/-- For how many endpoints a client is registered. -/
def registrations (r : Registry κ) (id : ClientId) : Nat := (r.entries.map Prod.snd).count id

/-- How often a client has been shut down. -/
def shutdownsOf (r : Registry κ) (id : ClientId) : Nat :=
  match r.clients[id]? with
  | some k => k.shutdowns
  | none => 0

/-- One for a client that has been made or registered, and zero otherwise. -/
def known (r : Registry κ) (id : Nat) : Nat := if id < r.clients.length then 1 else 0

/-- The endpoint that each client was made for, if the registry had it made, and how often it has
been initialized. -/
def origins (r : Registry κ) : List (Option String × Nat) :=
  r.clients.map fun k => (k.madeFor?, k.initializations)

/-- The endpoints for which clients are registered. -/
def keys (r : Registry κ) : List String := r.entries.map Prod.fst

/-! ## Entries -/

theorem mem_entries_of_get? {r : Registry κ} {endpoint : String} {id : ClientId}
    (h : r.get? endpoint = some id) : (endpoint, id) ∈ r.entries := by
  obtain ⟨before, after, hentries, _⟩ := List.lookup_eq_some_iff.1 h
  rw [hentries]
  simp

theorem get?_of_mem_entries {r : Registry κ} {endpoint : String} {id : ClientId}
    (hkeys : r.keys.Nodup) (h : (endpoint, id) ∈ r.entries) : r.get? endpoint = some id := by
  obtain ⟨before, after, hentries⟩ := List.append_of_mem h
  refine List.lookup_eq_some_iff.2 ⟨before, after, hentries, fun p hp => ?_⟩
  rw [keys, hentries, List.map_append, List.map_cons] at hkeys
  have hdisjoint := (List.nodup_append.1 hkeys).2.2 p.1 (List.mem_map_of_mem hp) endpoint
    List.mem_cons_self
  simpa using Ne.symm hdisjoint

theorem registrations_pos {r : Registry κ} {id : ClientId} :
    0 < r.registrations id ↔ ∃ endpoint, (endpoint, id) ∈ r.entries := by
  rw [registrations, List.count_pos_iff, List.mem_map]
  constructor
  · rintro ⟨⟨endpoint, _⟩, hmem, rfl⟩
    exact ⟨endpoint, hmem⟩
  · rintro ⟨endpoint, hmem⟩
    exact ⟨(endpoint, id), hmem, rfl⟩

/-- Of entries with different keys, at most one is for an endpoint.

**Proof sketch.** Induction on the entries. -/
theorem count_entries {entries : List (String × ClientId)} (hkeys : (entries.map Prod.fst).Nodup)
    (endpoint : String) (id : ClientId) :
    (entries.map Prod.snd).count id =
      ((entries.filter (·.1 ≠ endpoint)).map Prod.snd).count id +
        if entries.lookup endpoint = some id then 1 else 0 := by
  induction entries with
  | nil => simp
  | cons entry entries ih =>
    obtain ⟨key, other⟩ := entry
    obtain ⟨hkey, hkeys⟩ := List.nodup_cons.1 hkeys
    by_cases hsame : key = endpoint
    · subst hsame
      have hrest : entries.filter (·.1 ≠ key) = entries := by
        refine List.filter_eq_self.2 fun entry hentry => ?_
        have hmem := List.mem_map_of_mem (f := Prod.fst) hentry
        have hne : entry.1 ≠ key := fun heq => hkey (heq ▸ hmem)
        exact decide_eq_true hne
      rw [List.filter_cons_of_neg (by simp), hrest, List.map_cons, List.count_cons]
      simp
    · rw [List.filter_cons_of_pos (by simpa using hsame), List.map_cons, List.map_cons,
        List.count_cons, List.count_cons, ih hkeys, List.lookup_cons,
        beq_eq_false_iff_ne.2 (Ne.symm hsame)]
      simp only
      omega

/-- Removing the entry of an endpoint takes a registration from the client that has it. -/
theorem registrations_removeEntry {r : Registry κ} (hkeys : r.keys.Nodup) (endpoint : String)
    (id : ClientId) :
    r.registrations id = (r.removeEntry endpoint).registrations id +
      if r.get? endpoint = some id then 1 else 0 :=
  count_entries hkeys endpoint id

theorem registrations_setEntry (r : Registry κ) (endpoint : String) (id other : ClientId) :
    (r.setEntry endpoint id).registrations other =
      (r.removeEntry endpoint).registrations other + if id = other then 1 else 0 := by
  simp [registrations, setEntry, removeEntry, List.count_cons]

theorem keys_removeEntry {r : Registry κ} (h : r.keys.Nodup) (endpoint : String) :
    (r.removeEntry endpoint).keys.Nodup :=
  h.sublist (List.filter_sublist.map Prod.fst)

theorem keys_setEntry {r : Registry κ} (h : r.keys.Nodup) (endpoint : String) (id : ClientId) :
    (r.setEntry endpoint id).keys.Nodup := by
  refine List.nodup_cons.2 ⟨fun hmem => ?_, keys_removeEntry h endpoint⟩
  obtain ⟨entry, hentry, rfl⟩ := List.mem_map.1 hmem
  simpa using (List.mem_filter.1 hentry).2

/-! ## Shutdowns -/

theorem origins_modifyClient (r : Registry κ) (id : ClientId)
    {f : KnownClient κ → KnownClient κ}
    (hf : ∀ k, (f k).madeFor? = k.madeFor? ∧ (f k).initializations = k.initializations) :
    (r.modifyClient id f).origins = r.origins := by
  refine List.ext_getElem? fun i => ?_
  simp only [origins, modifyClient, List.getElem?_map, List.getElem?_modify]
  cases r.clients[i]? with
  | none => rfl
  | some k =>
    simp only [Option.map_eq_map, Option.map_some]
    split
    · rw [(hf k).1, (hf k).2]
    · rfl

variable (l : Lifecycle κ)

theorem origins_shutDown (r : Registry κ) (id : ClientId) :
    (r.shutDown l id).origins = r.origins :=
  origins_modifyClient r id fun _ => ⟨rfl, rfl⟩

@[simp] theorem length_clients_shutDown (r : Registry κ) (id : ClientId) :
    (r.shutDown l id).clients.length = r.clients.length :=
  List.length_modify _ _ _

theorem shutdownsOf_shutDown {r : Registry κ} {id : ClientId} (h : id < r.clients.length)
    (other : ClientId) :
    (r.shutDown l id).shutdownsOf other = r.shutdownsOf other + if id = other then 1 else 0 := by
  simp only [shutdownsOf, shutDown, modifyClient, List.getElem?_modify]
  cases hother : r.clients[other]? with
  | some k =>
    simp only [Option.map_eq_map, Option.map_some]
    split <;> rfl
  | none =>
    have hne : id ≠ other := by
      rintro rfl
      rw [List.getElem?_eq_getElem h] at hother
      simp at hother
    simp [hne]

/-- Clients are shut down as often as they are named. -/
theorem shutdownsOf_foldl {entries : List (String × ClientId)} {r : Registry κ}
    (h : ∀ entry ∈ entries, entry.2 < r.clients.length) (id : ClientId) :
    (entries.foldl (fun s e => s.shutDown l e.2) r).shutdownsOf id =
      r.shutdownsOf id + (entries.map Prod.snd).count id := by
  induction entries generalizing r with
  | nil => simp
  | cons entry entries ih =>
    have hrest : ∀ e ∈ entries, e.2 < (r.shutDown l entry.2).clients.length := fun e he => by
      simpa using h e (List.mem_cons_of_mem _ he)
    rw [List.foldl_cons, ih hrest, shutdownsOf_shutDown l (h entry List.mem_cons_self),
      List.map_cons, List.count_cons]
    simp only [beq_iff_eq]
    omega

/-- Shutting clients down changes nothing else. -/
theorem frame_foldl (entries : List (String × ClientId)) (r : Registry κ) :
    (entries.foldl (fun s e => s.shutDown l e.2) r).entries = r.entries ∧
      (entries.foldl (fun s e => s.shutDown l e.2) r).origins = r.origins := by
  induction entries generalizing r with
  | nil => exact ⟨rfl, rfl⟩
  | cons entry entries ih =>
    obtain ⟨hentries, horigins⟩ := ih (r.shutDown l entry.2)
    exact ⟨hentries, horigins.trans (r.origins_shutDown l entry.2)⟩

/-! ## New clients -/

theorem length_origins (r : Registry κ) : r.origins.length = r.clients.length :=
  List.length_map _

theorem getElem?_origins {r : Registry κ} {id : ClientId} {k : KnownClient κ}
    (h : r.clients[id]? = some k) :
    r.origins[id]? = some (k.madeFor?, k.initializations) := by
  rw [origins, List.getElem?_map, h]
  rfl

theorem known_of_origins {r r' : Registry κ} (h : r'.origins = r.origins) (id : ClientId) :
    r'.known id = r.known id := by
  rw [known, known, ← length_origins, ← length_origins, h]

/-- A client that has not been shut down comes to the known ones. -/
theorem shutdownsOf_append (r : Registry κ) {k : KnownClient κ} (hk : k.shutdowns = 0)
    (entries : List (String × ClientId)) (factory : Factory κ) (id : ClientId) :
    (⟨r.clients ++ [k], entries, factory⟩ : Registry κ).shutdownsOf id = r.shutdownsOf id := by
  simp only [shutdownsOf]
  rcases Nat.lt_trichotomy id r.clients.length with hlt | rfl | hgt
  · rw [List.getElem?_append_left hlt]
  · rw [List.getElem?_concat_length, List.getElem?_eq_none (Nat.le_refl _)]
    exact hk
  · have hlength : (r.clients ++ [k]).length ≤ id := by
      rw [List.length_append]
      exact hgt
    rw [List.getElem?_eq_none hlength, List.getElem?_eq_none (Nat.le_of_lt hgt)]

theorem known_append (r : Registry κ) (k : KnownClient κ) (entries : List (String × ClientId))
    (factory : Factory κ) (id : Nat) :
    (⟨r.clients ++ [k], entries, factory⟩ : Registry κ).known id =
      r.known id + if r.clients.length = id then 1 else 0 := by
  simp only [known, List.length_append, List.length_singleton]
  split <;> split <;> split <;> omega

theorem modify_concat {α : Type} (f : α → α) (before : List α) (a : α) :
    (before ++ [a]).modify before.length f = before ++ [f a] := by
  induction before with
  | nil => rfl
  | cons b before ih => rw [List.cons_append, List.length_cons, List.modify_succ_cons, ih]; rfl

/-! ## The balance -/

variable {l}

/-- Registering a client takes one registration away from the client that is handed back. -/
theorem balance_register {r : Registry κ} (hkeys : r.keys.Nodup) (endpoint : String) (client : κ)
    (id : ClientId) :
    (r.register endpoint client).2.registrations id + (r.register endpoint client).2.shutdownsOf id +
        (r.register endpoint client).1.toList.count id + r.known id =
      r.registrations id + r.shutdownsOf id + (r.register endpoint client).2.known id := by
  have hshut : (r.register endpoint client).2.shutdownsOf id = r.shutdownsOf id :=
    r.shutdownsOf_append rfl _ _ id
  have hknown := r.known_append ⟨client, none, 0, 0⟩
    (r.register endpoint client).2.entries r.factory id
  have hset : (r.register endpoint client).2.registrations id =
      (r.removeEntry endpoint).registrations id + if r.clients.length = id then 1 else 0 :=
    (r.addClient client none).2.registrations_setEntry endpoint r.clients.length id
  have hremove := registrations_removeEntry hkeys endpoint id
  have hback : (r.register endpoint client).1.toList.count id =
      if r.get? endpoint = some id then 1 else 0 := by
    show (r.get? endpoint).toList.count id = _
    cases r.get? endpoint with
    | none => simp
    | some other => simp [List.count_singleton]
  have hknown' : (r.register endpoint client).2.known id =
      r.known id + if r.clients.length = id then 1 else 0 := hknown
  rw [hshut, hset, hback, hknown']
  omega

/-- A client that is removed is shut down instead. -/
theorem balance_unregister {r : Registry κ} (hkeys : r.keys.Nodup)
    (hknown : ∀ entry ∈ r.entries, entry.2 < r.clients.length) (endpoint : String)
    (id : ClientId) :
    (r.unregister l endpoint).2.registrations id + (r.unregister l endpoint).2.shutdownsOf id =
      r.registrations id + r.shutdownsOf id := by
  unfold unregister
  cases hget : r.get? endpoint with
  | none => rfl
  | some other =>
    have hremove := registrations_removeEntry hkeys endpoint id
    have hlt : other < r.clients.length := hknown _ (mem_entries_of_get? hget)
    have hshut := shutdownsOf_shutDown l (r := r.removeEntry endpoint) hlt id
    have hregistrations : ((r.removeEntry endpoint).shutDown l other).registrations id =
        (r.removeEntry endpoint).registrations id := rfl
    have hbefore : (r.removeEntry endpoint).shutdownsOf id = r.shutdownsOf id := rfl
    rw [hget] at hremove
    simp only [Option.some.injEq] at hremove
    show ((r.removeEntry endpoint).shutDown l other).registrations id +
      ((r.removeEntry endpoint).shutDown l other).shutdownsOf id = _
    rw [hregistrations, hshut, hbefore, hremove]
    omega

/-- All clients that are removed are shut down instead. -/
theorem balance_unregisterAll {r : Registry κ}
    (hknown : ∀ entry ∈ r.entries, entry.2 < r.clients.length) (id : ClientId) :
    (r.unregisterAll l).registrations id = 0 ∧
      (r.unregisterAll l).shutdownsOf id = r.registrations id + r.shutdownsOf id := by
  have hentries : (r.unregisterAll l).entries = [] := (frame_foldl l r.entries _).1
  have hshut := shutdownsOf_foldl l (r := { r with entries := [] }) hknown id
  refine ⟨by simp [registrations, hentries], ?_⟩
  rw [unregisterAll, hshut, Nat.add_comm]
  rfl

end Registry

/-! ## Acquisitions -/

/-- Whether an acquisition has made a client and not yet registered or shut it down. -/
def Acquisition.holds (a : Acquisition) (id : ClientId) : Bool :=
  match a with
  | .initializing _ held _ => held == id
  | _ => false

namespace Registry

variable {κ : Type} {l : Lifecycle κ}

/-- The rules by which an acquisition goes on. -/
inductive Proceeds (l : Lifecycle κ) (r : Registry κ) :
    Acquisition → Acquisition → Registry κ → Prop where
  /-- Nothing happens to any client. -/
  | looks {a a' : Acquisition} (factory : Factory κ) (ha : ∀ id, a.holds id = false)
    (ha' : ∀ id, a'.holds id = false) : Proceeds l r a a' { r with factory }
  /-- A client is made, and its initialization begins. -/
  | makes (endpoint : String) (client : κ) (initialization : Delayed (Outcome Unit))
    (factory : Factory κ) :
    Proceeds l r (.missing endpoint) (.initializing endpoint r.clients.length initialization)
      ⟨r.clients ++ [⟨client, some endpoint, 1, 0⟩], r.entries, factory⟩
  /-- The client could not be initialized or comes too late. -/
  | discards (endpoint : String) (id : ClientId) (initialization : Delayed (Outcome Unit))
    (result : Outcome ClientId) :
    Proceeds l r (.initializing endpoint id initialization) (.ended result) (r.shutDown l id)
  /-- The client has been initialized, and there is no other one. -/
  | registers (endpoint : String) (id : ClientId) (initialization : Delayed (Outcome Unit))
    (hinitialized : initialization.value = .ok ()) (hfree : r.get? endpoint = none) :
    Proceeds l r (.initializing endpoint id initialization) (.ended (.ok id))
      (r.setEntry endpoint id)

/-- What is made to initialize, if anything, is a new client. -/
theorem proceeds_begin (r : Registry κ) (endpoint : String) :
    r.Proceeds l (.missing endpoint) (r.step l (.missing endpoint)).1
      (r.step l (.missing endpoint)).2 := by
  cases hcreate : r.factory.create endpoint with
  | mk outcome factory =>
    cases outcome with
    | error e =>
      have hstep : r.step l (.missing endpoint) = (.ended (.error e), { r with factory }) := by
        simp only [step, begin, hcreate]
      rw [hstep]
      exact .looks factory (fun _ => rfl) fun _ => rfl
    | ok client =>
      have hstep : r.step l (.missing endpoint) =
          (.initializing endpoint r.clients.length (l.prepare client).1,
            ⟨r.clients ++ [⟨(l.prepare client).2, some endpoint, 1, 0⟩], r.entries, factory⟩) := by
        simp only [step, begin, hcreate, addClient, modifyClient, modify_concat]
      rw [hstep]
      exact .makes endpoint (l.prepare client).2 (l.prepare client).1 factory

/-- Every step of an acquisition follows one of the rules. -/
theorem proceeds_step (r : Registry κ) (a : Acquisition) :
    r.Proceeds l a (r.step l a).1 (r.step l a).2 := by
  cases a with
  | requested endpoint =>
    cases hget : r.get? endpoint with
    | some id =>
      have hstep : r.step l (.requested endpoint) = (.ended (.ok id), r) := by
        simp only [step, hget]
      rw [hstep]
      exact .looks r.factory (fun _ => rfl) fun _ => rfl
    | none =>
      have hstep : r.step l (.requested endpoint) = (.missing endpoint, r) := by
        simp only [step, hget]
      rw [hstep]
      exact .looks r.factory (fun _ => rfl) fun _ => rfl
  | missing endpoint => exact r.proceeds_begin endpoint
  | initializing endpoint id initialization =>
    rw [step]
    cases hvalue : initialization.value with
    | error e => exact .discards endpoint id initialization (.error e)
    | ok _ =>
      rw [commit]
      cases hget : r.get? endpoint with
      | some other => exact .discards endpoint id initialization (.ok other)
      | none => exact .registers endpoint id initialization hvalue hget
  | ended result => exact .looks r.factory (fun _ => rfl) fun _ => rfl

/-- A client that is made is held, and one that is no longer held is registered or shut down. -/
theorem balance_proceeds {r r' : Registry κ} {a a' : Acquisition} (h : r.Proceeds l a a' r')
    (hkeys : r.keys.Nodup) (hheld : ∀ id, a.holds id = true → id < r.clients.length)
    (id : ClientId) :
    (if a'.holds id then 1 else 0) + r'.registrations id + r'.shutdownsOf id + r.known id =
      (if a.holds id then 1 else 0) + r.registrations id + r.shutdownsOf id + r'.known id := by
  cases h with
  | looks factory ha ha' =>
    rw [ha, ha']
    rfl
  | makes endpoint client initialization factory =>
    have hregistrations : (⟨r.clients ++ [⟨client, some endpoint, 1, 0⟩], r.entries, factory⟩ :
        Registry κ).registrations id = r.registrations id := rfl
    rw [hregistrations, r.shutdownsOf_append rfl, r.known_append]
    simp only [Acquisition.holds, beq_iff_eq, Bool.false_eq_true, if_false]
    omega
  | discards endpoint held initialization result =>
    have hregistrations : (r.shutDown l held).registrations id = r.registrations id := rfl
    rw [hregistrations, shutdownsOf_shutDown l (hheld held (by simp [Acquisition.holds])),
      known_of_origins (r.origins_shutDown l held)]
    simp only [Acquisition.holds, beq_iff_eq, Bool.false_eq_true, if_false]
    omega
  | registers endpoint held initialization hinitialized hfree =>
    have hremove := registrations_removeEntry hkeys endpoint id
    have hshutdowns : (r.setEntry endpoint held).shutdownsOf id = r.shutdownsOf id := rfl
    have hknown : (r.setEntry endpoint held).known id = r.known id := rfl
    simp only [hfree, reduceCtorEq, if_false] at hremove
    rw [r.registrations_setEntry, hshutdowns, hknown, hremove]
    simp only [Acquisition.holds, beq_iff_eq, Bool.false_eq_true, if_false]
    omega

end Registry

end ServiceClause
