/-
**The store of registrations is a map with unique client identifiers.**

* `Represents` ties a store to a map of registrations: it answers identifiers by the map, and its
  index leads from a client identifier to exactly the registration that holds it;
* `Represents.save`: a registration that is saved changes the map at one identifier;
* `represents_trace`: after every run the store is tied to what was last saved in it;
* `Represents.byClientId?_eq_some_iff`: a client identifier finds exactly the registration that
  holds it now;
* `Replaces` and `Released` say what a save changes, and what becomes of a client identifier that
  nobody holds any more;
* `clientStore_indexes_agree`: after every run the two indexes agree.
-/

import ClientAssertion.Proofs.History
import ClientAssertion.Store.Clients

namespace ClientAssertion.ClientStore

/-! ### Stores and maps -/

/-- **A store holds a map from identifiers to registrations**: valid registrations stand under
their own identifiers, and a client identifier leads to the one registration that holds it. -/
structure Represents (store : ClientStore) (registered : String → Option Client) : Prop where
  byId : ∀ id, store.byId? id = registered id
  own : ∀ id client, registered id = some client → client.id = id
  valid : ∀ id client, registered id = some client → client.flaw? = none
  index : ∀ clientId id, store.ids.get? clientId = some id ↔
    ∃ client, registered id = some client ∧ client.clientId = clientId

theorem represents_empty : Represents empty fun _ => none where
  byId _ := rfl
  own _ _ absent := by cases absent
  valid _ _ absent := by cases absent
  index clientId id := by simp [empty]

/-- Another registration holds the client identifier of a client. -/
def Taken (registered : String → Option Client) (client : Client) : Prop :=
  ∃ id other, id ≠ client.id ∧ registered id = some other ∧ other.clientId = client.clientId

/-- **Why a registration is refused** beside those that are there: it is invalid or, being valid,
has the client identifier of another one. -/
inductive Refuses (registered : String → Option Client) (client : Client) : AuthError → Prop where
  | invalid {flaw : Client.Flaw} (wrong : client.flaw? = some flaw) : Refuses registered client
      (.configuration ("client '" ++ client.clientId ++ "': " ++ flaw.message))
  | taken (valid : client.flaw? = none) (held : Taken registered client) : Refuses registered client
      (.storage ("client_id '" ++ client.clientId ++ "' is already registered"))

section Release

variable {ids : Table String String} {previous : Option Client} {clientId other : String}

theorem get?_releaseId_of_released
    (released : ∃ former, previous = some former ∧ former.clientId = other)
    (apart : other ≠ clientId) :
    (releaseId ids previous clientId).get? other = none := by
  obtain ⟨former, rfl, rfl⟩ := released
  rw [releaseId, if_neg apart, Table.get?_erase, if_pos rfl]

theorem get?_releaseId_of_kept
    (kept : ∀ former, previous = some former → former.clientId = other → other = clientId) :
    (releaseId ids previous clientId).get? other = ids.get? other := by
  cases previous with
  | none => rfl
  | some former =>
    rw [releaseId]
    split_ifs with same
    · rfl
    · refine (Table.get?_erase ..).trans (if_neg fun given => same ?_)
      exact given.trans (kept former rfl given)

end Release

namespace Represents

variable {store : ClientStore} {registered : String → Option Client}

/-- **A client identifier finds exactly the registration that holds it.** -/
theorem byClientId?_eq_some_iff (represents : Represents store registered) (clientId : String)
    (client : Client) :
    store.byClientId? clientId = some client ↔
      ∃ id, registered id = some client ∧ client.clientId = clientId := by
  constructor
  · intro found
    obtain ⟨id, indexed, held⟩ := Option.bind_eq_some_iff.mp found
    rw [represents.byId] at held
    obtain ⟨owner, owned, presented⟩ := (represents.index clientId id).mp indexed
    obtain rfl : owner = client := Option.some.inj (owned.symm.trans held)
    exact ⟨id, held, presented⟩
  · rintro ⟨id, held, presented⟩
    have indexed := (represents.index clientId id).mpr ⟨client, held, presented⟩
    exact Option.bind_eq_some_iff.mpr ⟨id, indexed, (represents.byId id).trans held⟩

/-! ### Saving -/

/-- **Exactly an invalid registration and one with a client identifier of another are refused.** -/
theorem refusal?_eq_none_iff (represents : Represents store registered) (client : Client) :
    store.refusal? client = none ↔ client.flaw? = none ∧ ¬Taken registered client := by
  unfold refusal?
  cases flaw : client.flaw? with
  | some flaw => simp
  | none =>
    cases indexed : store.ids.get? client.clientId with
    | none =>
      simp only [true_and, true_iff]
      rintro ⟨id, other, -, held, presented⟩
      have found := (represents.index client.clientId id).mpr ⟨other, held, presented⟩
      rw [indexed] at found
      cases found
    | some owner =>
      obtain ⟨holder, held, presented⟩ := (represents.index client.clientId owner).mp indexed
      by_cases same : owner = client.id
      · simp only [if_pos same, true_and, true_iff]
        rintro ⟨id, other, different, otherHeld, otherPresented⟩
        have found := (represents.index client.clientId id).mpr ⟨other, otherHeld, otherPresented⟩
        rw [indexed, Option.some.injEq] at found
        exact different (found.symm.trans same)
      · simp only [if_neg same, true_and]
        exact ⟨nofun, fun free => absurd ⟨owner, holder, same, held, presented⟩ free⟩

/-- **Why a registration is refused** is what the refusal is reported as. -/
theorem save_eq_error_iff (represents : Represents store registered) (client : Client)
    (error : AuthError) :
    (store.save client).mapError Refusal.error = .error error ↔ Refuses registered client error := by
  unfold ClientStore.save
  cases refused : store.refusal? client with
  | none =>
    obtain ⟨valid, free⟩ := (represents.refusal?_eq_none_iff client).mp refused
    refine ⟨nofun, ?_⟩
    rintro (⟨wrong⟩ | ⟨-, held⟩)
    · rw [valid] at wrong
      cases wrong
    · exact absurd held free
  | some refusal =>
    show Except.error refusal.error = .error error ↔ _
    rw [Except.error.injEq]
    cases wrong : client.flaw? with
    | some flaw =>
      obtain rfl : .invalid client.clientId flaw = refusal := by
        simpa only [refusal?, wrong, Option.some.injEq] using refused
      constructor
      · rintro rfl
        exact .invalid wrong
      · rintro (⟨other⟩ | ⟨valid, -⟩)
        · rw [Option.some.inj (wrong.symm.trans other)]
          rfl
        · rw [wrong] at valid
          cases valid
    | none =>
      -- a valid registration is refused for one reason only, and not where its identifier is free
      have held : Taken registered client := by
        by_contra free
        rw [(represents.refusal?_eq_none_iff client).mpr ⟨wrong, free⟩] at refused
        cases refused
      obtain rfl : .taken client.clientId = refusal := by
        simp only [refusal?, wrong] at refused
        grind
      constructor
      · rintro rfl
        exact .taken wrong held
      · rintro (⟨other⟩ | -)
        · rw [wrong] at other
          cases other
        · rfl

/-- The index behind a registration that is put in: its own client identifier leads to it, the one
that it gives up leads nowhere, and all others lead where they did. -/
theorem get?_ids_put (represents : Represents store registered) {client : Client}
    (free : ¬Taken registered client) (clientId id : String) :
    (store.put client).ids.get? clientId = some id ↔
      (id = client.id ∧ client.clientId = clientId) ∨
        (id ≠ client.id ∧ store.ids.get? clientId = some id) := by
  -- no other registration holds the new client identifier, so its entry was the client's or none
  have owned : ∀ id, store.ids.get? client.clientId = some id → id = client.id := by
    intro id indexed
    obtain ⟨other, held, presented⟩ := (represents.index client.clientId id).mp indexed
    by_contra different
    exact free ⟨id, other, different, held, presented⟩
  have formerly : store.ids.get? clientId = some client.id ↔
      ∃ former, registered client.id = some former ∧ former.clientId = clientId :=
    represents.index clientId client.id
  show (releaseId (store.ids.insert client.clientId client.id) (store.byId? client.id)
    client.clientId).get? clientId = some id ↔ _
  rw [represents.byId]
  by_cases same : clientId = client.clientId
  · subst same
    rw [get?_releaseId_of_kept fun _ _ _ => rfl, Table.get?_insert, if_pos rfl]
    constructor
    · rintro ⟨rfl⟩
      exact Or.inl ⟨rfl, rfl⟩
    · rintro (⟨rfl, -⟩ | ⟨different, indexed⟩)
      · rfl
      · exact absurd (owned id indexed) different
  · by_cases held : store.ids.get? clientId = some client.id
    · rw [get?_releaseId_of_released (formerly.mp held) same, held]
      constructor
      · exact nofun
      · rintro (⟨-, impossible⟩ | ⟨different, indexed⟩)
        · exact absurd impossible.symm same
        · exact absurd (Option.some.inj indexed).symm different
    · have kept : ∀ former, registered client.id = some former → former.clientId = clientId →
          clientId = client.clientId :=
        fun former present given => absurd (formerly.mpr ⟨former, present, given⟩) held
      rw [get?_releaseId_of_kept kept, Table.get?_insert, if_neg (Ne.symm same)]
      constructor
      · intro indexed
        refine Or.inr ⟨?_, indexed⟩
        rintro rfl
        exact held indexed
      · rintro (⟨-, impossible⟩ | ⟨-, indexed⟩)
        · exact absurd impossible.symm same
        · exact indexed

/-- A free and valid registration that is put in changes the map at its identifier alone. -/
theorem put (represents : Represents store registered) {client : Client}
    (valid : client.flaw? = none) (free : ¬Taken registered client) :
    Represents (store.put client) (Function.update registered client.id (some client)) where
  byId id := by
    show (store.clients.insert client.id client).get? id = _
    rw [Table.get?_insert_eq, ← funext represents.byId]
    rfl
  own := by
    refine holds_update represents.own fun other held => ?_
    rw [Option.some.inj held]
  valid := by
    refine holds_update represents.valid fun other held => ?_
    rw [← Option.some.inj held]
    exact valid
  index clientId id := by
    rw [represents.get?_ids_put free]
    by_cases same : id = client.id
    · subst same
      simp
    · rw [Function.update_of_ne same, represents.index]
      simp [same]

/-- **A registration that is saved stands under its identifier, and nothing else changes.** -/
theorem save (represents : Represents store registered) {client : Client} {next : ClientStore}
    (saved : store.save client = .ok next) :
    Represents next (Function.update registered client.id (some client)) := by
  unfold ClientStore.save at saved
  cases refusal : store.refusal? client with
  | none =>
    rw [refusal] at saved
    cases saved
    obtain ⟨valid, free⟩ := (represents.refusal?_eq_none_iff client).mp refusal
    exact represents.put valid free
  | some refusal' =>
    rw [refusal] at saved
    cases saved

end Represents

/-! ### Runs -/

/-- What a registration came to. -/
inductive Record where
  | saved (client : Client)
  | refused (client : Client) (refusal : Refusal)

/-- One registration. A refused one leaves the store as it is. -/
def perform (client : Client) (store : ClientStore) : Record × ClientStore :=
  match store.save client with
  | .ok next => (.saved client, next)
  | .error refusal => (.refused client refusal, store)

/-- What a record does to the registration under an identifier. -/
def effectAt (id : String) : Record → Effect Client
  | .saved client => if client.id = id then .write client else .keep
  | .refused _ _ => .keep

/-- The registration that was last saved under an identifier. -/
def registered (history : List Record) (id : String) : Option Client := latest (effectAt id) history

theorem registered_saved (history : List Record) (client : Client) :
    registered (history ++ [.saved client]) =
      Function.update (registered history) client.id (some client) := by
  refine latest_concat_update effectAt history _ (fun known => ?_) fun other apart => ?_
  · simp [effectAt, Effect.apply]
  · simp [effectAt, Ne.symm apart]

theorem registered_refused (history : List Record) (client : Client) (refusal : Refusal) :
    registered (history ++ [.refused client refusal]) = registered history := by
  funext id
  rw [registered, latest_concat]
  rfl

/-- **Every run from the empty store leaves a store that is tied to its history.** -/
theorem represents_trace (clients : List Client) :
    Represents (trace perform clients empty).2 (registered (trace perform clients empty).1) := by
  refine trace_induction perform (fun history store => Represents store (registered history))
    represents_empty (fun history store client represents => ?_) clients
  cases outcome : store.save client with
  | ok next =>
    simp only [perform, outcome, registered_saved]
    exact represents.save outcome
  | error refusal =>
    simp only [perform, outcome, registered_refused]
    exact represents

/-! ### Agreement of the indexes -/

/-- No registration that a history saved has a client identifier. -/
def Unused (history : List Record) (clientId : String) : Prop :=
  ∀ client, .saved client ∈ history → client.clientId ≠ clientId

/-- **A client identifier is free**: it leads nowhere, any valid registration may take it, and until
one does it finds nothing. -/
structure Released (store : ClientStore) (clientId : String) : Prop where
  absent : store.ids.get? clientId = none
  free : ∀ client, client.flaw? = none → client.clientId = clientId →
    ∃ next, store.save client = .ok next
  unused : ∀ clients, Unused (trace perform clients store).1 clientId →
    (trace perform clients store).2.byClientId? clientId = none

/-- **What a save changes**: the registration is found under both its identifiers, and all others
under theirs. The client identifier that it gives up is free. -/
structure Replaces (store : ClientStore) (client : Client) (next : ClientStore) : Prop where
  byId : next.byId? client.id = some client
  byClientId : next.byClientId? client.clientId = some client
  otherIds : ∀ id, id ≠ client.id → next.byId? id = store.byId? id
  otherClientIds : ∀ clientId, clientId ≠ client.clientId →
    (∀ former, store.byId? client.id = some former → former.clientId ≠ clientId) →
    next.byClientId? clientId = store.byClientId? clientId
  released : ∀ former, store.byId? client.id = some former → former.clientId ≠ client.clientId →
    Released next former.clientId

namespace Represents

variable {store : ClientStore} {registered : String → Option Client}

/-- No client identifier is held by two registrations. -/
theorem unique (represents : Represents store registered) {first second : String}
    {client other : Client} (held : registered first = some client)
    (otherHeld : registered second = some other) (same : client.clientId = other.clientId) :
    first = second := by
  have toFirst := (represents.index other.clientId first).mpr ⟨client, held, same⟩
  have toSecond := (represents.index other.clientId second).mpr ⟨other, otherHeld, rfl⟩
  rw [toFirst] at toSecond
  exact Option.some.inj toSecond

/-- A client identifier that nobody holds finds nothing until a registration with it is saved. -/
theorem byClientId?_trace_of_unused (represents : Represents store registered) {clientId : String}
    (absent : store.ids.get? clientId = none) (clients : List Client)
    (unused : Unused (trace perform clients store).1 clientId) :
    (trace perform clients store).2.byClientId? clientId = none := by
  -- as long as no record saves the client identifier, no registration of the store holds it
  let law (history : List Record) (state : ClientStore) : Prop :=
    ∃ held, Represents state held ∧ (Unused history clientId →
      ∀ id client, held id = some client → client.clientId ≠ clientId)
  have initial : law [] store := by
    refine ⟨registered, represents, fun _ id client stands same => ?_⟩
    have indexed := (represents.index clientId id).mpr ⟨client, stands, same⟩
    rw [absent] at indexed
    cases indexed
  have kept : ∀ history state client, law history state →
      law (history ++ [(perform client state).1]) (perform client state).2 := by
    rintro history state client ⟨held, tied, others⟩
    have before : ∀ {record}, Unused (history ++ [record]) clientId → Unused history clientId :=
      fun later earlier member => later earlier (List.mem_append_left _ member)
    cases outcome : state.save client with
    | ok next =>
      simp only [perform, outcome]
      refine ⟨_, tied.save outcome, fun later => holds_update (others (before later)) ?_⟩
      rintro _ ⟨rfl⟩
      exact later client (by simp)
    | error refusal =>
      simp only [perform, outcome]
      exact ⟨held, tied, fun later => others (before later)⟩
  obtain ⟨held, final, others⟩ := trace_induction perform law initial kept clients
  rw [Option.eq_none_iff_forall_ne_some]
  intro client found
  obtain ⟨id, stands, same⟩ := (final.byClientId?_eq_some_iff clientId client).mp found
  exact others unused id client stands same

/-- A client identifier that leads nowhere is free. -/
theorem released (represents : Represents store registered) {clientId : String}
    (absent : store.ids.get? clientId = none) : Released store clientId where
  absent := absent
  free client valid same := by
    subst same
    have passed : store.refusal? client = none := by simp only [refusal?, valid, absent]
    exact ⟨store.put client, by rw [ClientStore.save, passed]⟩
  unused := represents.byClientId?_trace_of_unused absent

/-- **A save replaces one registration** and leaves all others as they are. -/
theorem replaces (represents : Represents store registered) {client : Client} {next : ClientStore}
    (saved : store.save client = .ok next) : Replaces store client next := by
  have after : Represents next (Function.update registered client.id (some client)) :=
    represents.save saved
  have here : Function.update registered client.id (some client) client.id = some client :=
    Function.update_self ..
  have elsewhere : ∀ id, id ≠ client.id →
      Function.update registered client.id (some client) id = registered id :=
    fun id apart => Function.update_of_ne apart ..
  refine ⟨?_, ?_, fun id apart => ?_, fun clientId apart kept => ?_, fun former stood given => ?_⟩
  · rw [after.byId, here]
  · exact (after.byClientId?_eq_some_iff _ _).mpr ⟨client.id, here, rfl⟩
  · rw [after.byId, represents.byId, elsewhere id apart]
  · refine Option.ext fun found => ?_
    rw [after.byClientId?_eq_some_iff, represents.byClientId?_eq_some_iff]
    refine exists_congr fun id => and_congr_left fun same => ?_
    by_cases replaced : id = client.id
    · subst replaced
      rw [here, ← represents.byId]
      refine ⟨?_, fun stood => absurd same (kept found stood)⟩
      rintro ⟨rfl⟩
      exact absurd same.symm apart
    · rw [elsewhere id replaced]
  · refine after.released (Option.eq_none_iff_forall_ne_some.mpr fun id indexed => ?_)
    obtain ⟨other, held, same⟩ := (after.index former.clientId id).mp indexed
    rw [represents.byId] at stood
    by_cases replaced : id = client.id
    · rw [replaced, here] at held
      rw [← Option.some.inj held] at same
      exact given same.symm
    · rw [elsewhere id replaced] at held
      exact replaced (represents.unique held stood same)

end Represents

/-- **The two indexes of the store agree.** After every run from the empty store, whatever was refused
on the way:

* an identifier finds the registration that was last saved under it, which is valid, and the index
  leads from a client identifier to exactly the registration that has it, under its own identifier;
* so no two registrations share a client identifier, and a registration is found under the one that
  it has now and under none that it had before;
* exactly an invalid registration and one with a client identifier of another are refused, each with
  its own error, which changes nothing;
* a save replaces one registration and leaves all others as they are; a client identifier that it
  gives up is free. -/
theorem clientStore_indexes_agree (clients : List Client) :
    let history := (trace perform clients empty).1
    let store := (trace perform clients empty).2
    (∀ id client, store.byId? id = some client ↔ WrittenLast (effectAt id) history client) ∧
    (∀ id client, store.byId? id = some client → client.flaw? = none) ∧
    (∀ clientId id, store.ids.get? clientId = some id ↔
      ∃ client, store.byId? id = some client ∧ client.clientId = clientId ∧ client.id = id) ∧
    (∀ first second client other, store.byId? first = some client →
      store.byId? second = some other → client.clientId = other.clientId → first = second) ∧
    (∀ clientId client, store.byClientId? clientId = some client ↔
      store.byId? client.id = some client ∧ client.clientId = clientId) ∧
    (∀ former client, .saved former ∈ history → store.byId? former.id = some client →
      former.clientId ≠ client.clientId →
      ∀ found, store.byClientId? former.clientId = some found → found.id ≠ client.id) ∧
    (∀ client error, (store.save client).mapError Refusal.error = .error error ↔
      Refuses store.byId? client error) ∧
    (∀ client refusal, store.save client = .error refusal → (perform client store).2 = store) ∧
    ∀ client next, store.save client = .ok next → Replaces store client next := by
  intro history store
  have represents : Represents store (registered history) := represents_trace clients
  have known : store.byId? = registered history := funext represents.byId
  rw [known]
  have found : ∀ clientId client, store.byClientId? clientId = some client ↔
      registered history client.id = some client ∧ client.clientId = clientId := by
    intro clientId client
    rw [represents.byClientId?_eq_some_iff]
    constructor
    · rintro ⟨id, held, same⟩
      rw [represents.own id client held]
      exact ⟨held, same⟩
    · rintro ⟨held, same⟩
      exact ⟨client.id, held, same⟩
  refine ⟨fun id client => latest_eq_some_iff history client, represents.valid,
    fun clientId id => ?_, fun first second client other => represents.unique, found, ?_,
    represents.save_eq_error_iff, fun client refusal refused => ?_,
    fun client next saved => represents.replaces saved⟩
  · rw [represents.index]
    refine exists_congr fun client => and_congr_right fun held => ?_
    rw [and_iff_left (represents.own id client held)]
  · intro former client _ held renamed other presented same
    obtain ⟨otherHeld, given⟩ := (found former.clientId other).mp presented
    rw [same, represents.own former.id client held, held] at otherHeld
    rw [Option.some.inj otherHeld] at renamed
    exact renamed given.symm
  · rw [perform, refused]

end ClientAssertion.ClientStore
