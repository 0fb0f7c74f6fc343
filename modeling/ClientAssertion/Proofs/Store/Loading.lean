/-
**Records are loaded in any order.**

A store is loaded by saving the records of a list, until one is refused.

* `SavesPairwise`: a store refuses a record for what it is or for one other record that it holds;
* `SavesPairwise.load`: then a list of records with distinct identifiers is loaded exactly when each
  of them is right and no two clash, and the store holds these records and no others;
* `ClientStore.Lists` and `AuthorizationStore.Lists`: a store answers as a list has it;
* `loading_ignores_order`: both stores load the orders of a list alike, and answer alike.
-/

import ClientAssertion.Proofs.Store.Authorizations
import ClientAssertion.Proofs.Store.Clients

namespace ClientAssertion

/-! ### Lists of records -/

section Listed

variable {Record : Type} {idOf : Record → String} {records : List Record}

/-- The record of a list with an identifier. -/
def listed (idOf : Record → String) (records : List Record) (id : String) : Option Record :=
  records.find? fun record => idOf record = id

theorem listed_eq_some_iff (distinct : (records.map idOf).Nodup) {id : String} {record : Record} :
    listed idOf records id = some record ↔ record ∈ records ∧ idOf record = id := by
  induction records with
  | nil => simp [listed]
  | cons first records hypothesis =>
    obtain ⟨new, distinct⟩ := List.nodup_cons.mp distinct
    have later := hypothesis distinct
    rw [listed, List.find?_cons]
    by_cases same : idOf first = id
    · -- the first record is the only one with its identifier
      simp only [same, decide_true, Option.some.injEq, List.mem_cons]
      constructor
      · rintro rfl
        exact ⟨.inl rfl, same⟩
      · rintro ⟨rfl | member, named⟩
        · rfl
        · exact absurd (List.mem_map.mpr ⟨record, member, named.trans same.symm⟩) new
    · simp only [same, decide_false, List.mem_cons]
      refine later.trans ⟨fun held => ⟨.inr held.1, held.2⟩, ?_⟩
      rintro ⟨rfl | member, named⟩
      · exact absurd named same
      · exact ⟨member, named⟩

theorem distinct_concat {record : Record} :
    ((records ++ [record]).map idOf).Nodup ↔
      (records.map idOf).Nodup ∧ ∀ other ∈ records, idOf other ≠ idOf record := by
  have single : [idOf record].Nodup := List.pairwise_singleton ..
  simp only [List.map_append, List.map_singleton, List.nodup_append, single, true_and,
    List.forall_mem_map, List.forall_mem_singleton, ne_eq]

/-- A record behind others with other identifiers updates what they list. -/
theorem listed_concat {record : Record} (new : ∀ other ∈ records, idOf other ≠ idOf record) :
    listed idOf (records ++ [record]) =
      Function.update (listed idOf records) (idOf record) (some record) := by
  funext id
  rw [listed, List.find?_append, ← listed, List.find?_singleton]
  by_cases same : id = idOf record
  · have absent : listed idOf records id = none :=
      List.find?_eq_none.mpr fun other member => by simpa [same] using new other member
    rw [absent, Option.none_or, if_pos (decide_eq_true same.symm), same, Function.update_self]
  · rw [if_neg (by simpa using Ne.symm same), Option.or_none, Function.update_of_ne same]

end Listed

/-! ### Loading -/

section Loading

variable {Store Record Refusal : Type} {empty : Store} {save : Store → Record → Except Refusal Store}
  {idOf : Record → String} {Represents : Store → (String → Option Record) → Prop}
  {Fits : Record → Prop} {Clash : Record → Record → Prop}

/-- **A store refuses a record for what it is or for one other record that it holds.** It starts
without records, saves a record exactly if that fits and clashes with none under another identifier,
and then holds it under its own. -/
structure SavesPairwise (empty : Store) (save : Store → Record → Except Refusal Store)
    (idOf : Record → String) (Represents : Store → (String → Option Record) → Prop)
    (Fits : Record → Prop) (Clash : Record → Record → Prop) : Prop where
  empty : Represents empty fun _ => none
  saves_iff : ∀ {store held record}, Represents store held →
    ((∃ next, save store record = .ok next) ↔
      Fits record ∧ ∀ id other, id ≠ idOf record → held id = some other → ¬Clash other record)
  saved : ∀ {store held record next}, Represents store held → save store record = .ok next →
    Represents next (Function.update held (idOf record) (some record))

/-- Every record is right, and no two clash. -/
def Compatible (Fits : Record → Prop) (Clash : Record → Record → Prop) (records : List Record) :
    Prop :=
  (∀ record ∈ records, Fits record) ∧ records.Pairwise fun first second => ¬Clash first second

theorem compatible_concat {records : List Record} {record : Record} :
    Compatible Fits Clash (records ++ [record]) ↔ Compatible Fits Clash records ∧
      Fits record ∧ ∀ other ∈ records, ¬Clash other record := by
  simp only [Compatible, List.forall_mem_append, List.forall_mem_singleton, List.pairwise_append,
    List.pairwise_singleton, true_and]
  tauto

/-- **A list is loaded exactly if its records are compatible**, and the store then holds what is
listed. -/
theorem SavesPairwise.load (laws : SavesPairwise empty save idOf Represents Fits Clash)
    {records : List Record} (distinct : (records.map idOf).Nodup) :
    ((∃ store, records.foldlM save empty = .ok store) ↔ Compatible Fits Clash records) ∧
      ∀ store, records.foldlM save empty = .ok store → Represents store (listed idOf records) := by
  -- from the front: what is loaded so far decides whether the next record is refused
  induction records using List.reverseRecOn with
  | nil =>
    refine ⟨iff_of_true ⟨empty, rfl⟩ ⟨by simp, .nil⟩, ?_⟩
    rintro _ ⟨rfl⟩
    exact laws.empty
  | append_singleton records record hypothesis =>
    obtain ⟨before, new⟩ := distinct_concat.mp distinct
    obtain ⟨loads, holds⟩ := hypothesis before
    rw [List.foldlM_append, compatible_concat, listed_concat new]
    cases loaded : records.foldlM save empty with
    | error refusal =>
      refine ⟨iff_of_false (by rintro ⟨_, ⟨⟩⟩) fun compatible => ?_, by rintro _ ⟨⟩⟩
      obtain ⟨_, impossible⟩ := loads.mpr compatible.1
      cases loaded.symm.trans impossible
    | ok store =>
      have represents := holds store loaded
      have step : (List.foldlM save store [record] : Except Refusal Store) = save store record := by
        rw [List.foldlM_cons]
        cases save store record with
        | ok next => rfl
        | error refusal => rfl
      have apart : (∀ id other, id ≠ idOf record → listed idOf records id = some other →
          ¬Clash other record) ↔ ∀ other ∈ records, ¬Clash other record := by
        simp only [listed_eq_some_iff before]
        constructor
        · exact fun none other member => none _ other (new other member) ⟨member, rfl⟩
        · exact fun none _ other _ held => none other held.1
      have compatible : Compatible Fits Clash records := loads.mp ⟨store, loaded⟩
      show ((∃ next, List.foldlM save store [record] = .ok next) ↔ _) ∧
        ∀ next, List.foldlM save store [record] = .ok next → _
      rw [step, laws.saves_iff represents, apart, and_iff_right compatible]
      exact ⟨Iff.rfl, fun next saved => laws.saved represents saved⟩

theorem compatible_perm (symmetric : ∀ {first second}, Clash first second → Clash second first)
    {records ordered : List Record} (order : ordered.Perm records) :
    Compatible Fits Clash ordered ↔ Compatible Fits Clash records :=
  and_congr (forall_congr' fun _ => imp_congr_left order.mem_iff)
    (order.pairwise_iff fun apart clash => apart (symmetric clash))

theorem listed_perm {records ordered : List Record} (order : ordered.Perm records)
    (distinct : (records.map idOf).Nodup) : listed idOf ordered = listed idOf records := by
  funext id
  refine Option.ext fun record => ?_
  rw [listed_eq_some_iff ((order.map idOf).nodup_iff.mpr distinct), listed_eq_some_iff distinct,
    order.mem_iff]

/-- **Every order of a list is loaded alike**, into a store that holds the same. -/
theorem SavesPairwise.load_perm (laws : SavesPairwise empty save idOf Represents Fits Clash)
    (symmetric : ∀ {first second}, Clash first second → Clash second first)
    {records ordered : List Record} (distinct : (records.map idOf).Nodup)
    (order : ordered.Perm records) :
    ((∃ store, ordered.foldlM save empty = .ok store) ↔ Compatible Fits Clash records) ∧
      ∀ store, ordered.foldlM save empty = .ok store → Represents store (listed idOf records) := by
  rw [← compatible_perm symmetric order, ← listed_perm order distinct]
  exact laws.load ((order.map idOf).nodup_iff.mpr distinct)

end Loading

/-! ### Registrations -/

namespace ClientStore

theorem savesPairwise : SavesPairwise empty save (·.id) Represents (·.flaw? = none)
    fun first second => first.clientId = second.clientId where
  empty := represents_empty
  saves_iff {store held client} represents := by
    have accepted : (∃ next, store.save client = .ok next) ↔ store.refusal? client = none := by
      rw [save]
      cases store.refusal? client with
      | none => exact iff_of_true ⟨_, rfl⟩ rfl
      | some refusal => exact iff_of_false (by rintro ⟨_, ⟨⟩⟩) (by rintro ⟨⟩)
    rw [accepted, represents.refusal?_eq_none_iff]
    simp only [Taken, not_exists, not_and]
  saved represents outcome := represents.save outcome

/-- A store answers as a list of registrations has it. -/
structure Lists (store : ClientStore) (clients : List Client) : Prop where
  byId : ∀ id client, store.byId? id = some client ↔ client ∈ clients ∧ client.id = id
  byClientId : ∀ clientId client,
    store.byClientId? clientId = some client ↔ client ∈ clients ∧ client.clientId = clientId

theorem Represents.lists {store : ClientStore} {clients : List Client}
    (distinct : (clients.map (·.id)).Nodup) (represents : Represents store (listed (·.id) clients)) :
    store.Lists clients where
  byId id client := by rw [represents.byId, listed_eq_some_iff distinct]
  byClientId clientId client := by
    rw [represents.byClientId?_eq_some_iff]
    simp only [listed_eq_some_iff distinct, exists_and_right, exists_eq_right']

/-- Two stores that answer as the same list has it answer alike. -/
theorem Lists.answers {store other : ClientStore} {clients : List Client}
    (lists : store.Lists clients) (listsToo : other.Lists clients) :
    (∀ id, store.byId? id = other.byId? id) ∧
      ∀ clientId, store.byClientId? clientId = other.byClientId? clientId := by
  refine ⟨fun id => Option.ext fun client => ?_, fun clientId => Option.ext fun client => ?_⟩
  · rw [lists.byId, listsToo.byId]
  · rw [lists.byClientId, listsToo.byClientId]

theorem compatible_iff {clients : List Client} :
    Compatible (·.flaw? = none) (fun first second : Client => first.clientId = second.clientId)
        clients ↔
      (∀ client ∈ clients, client.flaw? = none) ∧ (clients.map (·.clientId)).Nodup :=
  and_congr_right fun _ => by rw [List.Nodup, List.pairwise_map]

end ClientStore

/-! ### Authorizations -/

namespace AuthorizationStore

/-- Two authorizations carry the same token. -/
def Shares (first second : Authorization) : Prop := ∃ key, first.Carries key ∧ second.Carries key

theorem Shares.symm {first second : Authorization} : Shares first second → Shares second first :=
  fun ⟨key, carries, carried⟩ => ⟨key, carried, carries⟩

theorem savesPairwise : SavesPairwise empty save (·.id) Represents (fun _ => True) Shares where
  empty := represents_empty
  saves_iff {store stored authorization} represents := by
    have accepted : (∃ next, store.save authorization = .ok next) ↔
        ¬∃ collision, store.save authorization = .error collision := by
      cases store.save authorization with
      | ok next => exact iff_of_true ⟨next, rfl⟩ (by rintro ⟨_, ⟨⟩⟩)
      | error collision => exact iff_of_false (by rintro ⟨_, ⟨⟩⟩) (not_not_intro ⟨collision, rfl⟩)
    rw [accepted, represents.save_eq_error_iff, true_and]
    simp only [Collides, Shares, not_exists, not_and]
    constructor
    · intro free id other apart held key carried carries
      exact free id other key apart held carries carried
    · intro free id other key apart held carries carried
      exact free id other apart held key carried carries
  saved represents outcome := represents.save outcome

/-- A store answers as a list of authorizations has it. -/
structure Lists (store : AuthorizationStore) (authorizations : List Authorization) : Prop where
  byId : ∀ id authorization,
    store.byId? id = some authorization ↔ authorization ∈ authorizations ∧ authorization.id = id
  byToken : ∀ token type authorization, store.byToken? token type = some authorization ↔
    authorization ∈ authorizations ∧ authorization.Carries (type, token)

theorem Represents.lists {store : AuthorizationStore} {authorizations : List Authorization}
    (distinct : (authorizations.map (·.id)).Nodup)
    (represents : Represents store (listed (·.id) authorizations)) : store.Lists authorizations where
  byId id authorization := by rw [represents.byId, listed_eq_some_iff distinct]
  byToken token type authorization := by
    rw [represents.byToken?_eq_some_iff]
    simp only [listed_eq_some_iff distinct, exists_and_right, exists_eq_right']

/-- Two stores that answer as the same list has it answer alike. -/
theorem Lists.answers {store other : AuthorizationStore} {authorizations : List Authorization}
    (lists : store.Lists authorizations) (listsToo : other.Lists authorizations) :
    (∀ id, store.byId? id = other.byId? id) ∧
      ∀ token type, store.byToken? token type = other.byToken? token type := by
  refine ⟨fun id => Option.ext fun authorization => ?_,
    fun token type => Option.ext fun authorization => ?_⟩
  · rw [lists.byId, listsToo.byId]
  · rw [lists.byToken, listsToo.byToken]

theorem compatible_iff {authorizations : List Authorization} :
    Compatible (fun _ => True) Shares authorizations ↔
      authorizations.Pairwise fun first second => ∀ key, first.Carries key → ¬second.Carries key := by
  simp only [Compatible, Shares, implies_true, true_and, not_exists, not_and]

end AuthorizationStore

/-! ### Any order -/

/-- **Loading does not depend on the order of records.** For every list of registrations and every
list of authorizations with distinct identifiers:

* registrations are loaded exactly if each is valid and no two share a client identifier, and
  authorizations exactly if no two share a token of one type;
* so another order of the list is loaded if and only if the list is;
* whatever order is loaded, the store finds each record of the list by its identifier and its client
  identifier or tokens, and nothing else, so that all orders give the same answers. -/
theorem loading_ignores_order :
    (∀ clients ordered : List Client, (clients.map (·.id)).Nodup → ordered.Perm clients →
      ((∃ store, ClientStore.ofList clients = .ok store) ↔
        (∀ client ∈ clients, client.flaw? = none) ∧ (clients.map (·.clientId)).Nodup) ∧
      ((∃ store, ClientStore.ofList ordered = .ok store) ↔
        ∃ store, ClientStore.ofList clients = .ok store) ∧
      ∀ store other, ClientStore.ofList clients = .ok store →
        ClientStore.ofList ordered = .ok other →
        other.Lists clients ∧ (∀ id, other.byId? id = store.byId? id) ∧
          ∀ clientId, other.byClientId? clientId = store.byClientId? clientId) ∧
    ∀ authorizations ordered : List Authorization, (authorizations.map (·.id)).Nodup →
      ordered.Perm authorizations →
      ((∃ store, AuthorizationStore.ofList authorizations = .ok store) ↔
        authorizations.Pairwise fun first second =>
          ∀ key, first.Carries key → ¬second.Carries key) ∧
      ((∃ store, AuthorizationStore.ofList ordered = .ok store) ↔
        ∃ store, AuthorizationStore.ofList authorizations = .ok store) ∧
      ∀ store other, AuthorizationStore.ofList authorizations = .ok store →
        AuthorizationStore.ofList ordered = .ok other →
        other.Lists authorizations ∧ (∀ id, other.byId? id = store.byId? id) ∧
          ∀ token type, other.byToken? token type = store.byToken? token type := by
  constructor
  · intro clients ordered distinct order
    obtain ⟨loads, holds⟩ := ClientStore.savesPairwise.load_perm Eq.symm distinct (.refl clients)
    obtain ⟨loadsToo, holdsToo⟩ := ClientStore.savesPairwise.load_perm Eq.symm distinct order
    refine ⟨loads.trans ClientStore.compatible_iff, loadsToo.trans loads.symm, ?_⟩
    intro store other loaded loadedToo
    have lists := (holds store loaded).lists distinct
    have listsToo := (holdsToo other loadedToo).lists distinct
    exact ⟨listsToo, listsToo.answers lists⟩
  · intro authorizations ordered distinct order
    obtain ⟨loads, holds⟩ :=
      AuthorizationStore.savesPairwise.load_perm .symm distinct (.refl authorizations)
    obtain ⟨loadsToo, holdsToo⟩ := AuthorizationStore.savesPairwise.load_perm .symm distinct order
    refine ⟨loads.trans AuthorizationStore.compatible_iff, loadsToo.trans loads.symm, ?_⟩
    intro store other loaded loadedToo
    have lists := (holds store loaded).lists distinct
    have listsToo := (holdsToo other loadedToo).lists distinct
    exact ⟨listsToo, listsToo.answers lists⟩

namespace Sample

/-- A registration whose secret is its client identifier. -/
def registered (id clientId : String) : Client :=
  { id, clientId, clientSecret := some clientId, methods := [.clientSecretJwt]
    settings := { signingAlgorithm := some .hs256 } }

/-- A grant whose code is `t`. -/
def coded : Authorization :=
  (Authorization.new "1" "registration-1" "alice" .authorizationCode).withToken .code
    (.new "t" (.ofSeconds 0))

/-- A grant whose access token is `t`. -/
def accessed : Authorization :=
  (Authorization.new "2" "registration-1" "bob" .clientCredentials).withToken .accessToken
    (.new "t" (.ofSeconds 0))

end Sample

/-- In either order two client identifiers, and the tokens `t` of two types, lead to their own
records. -/
theorem loading_ignores_order_pairs :
    (∃ store other,
      ClientStore.ofList [Sample.registered "1" "a", Sample.registered "2" "b"] = .ok store ∧
      ClientStore.ofList [Sample.registered "2" "b", Sample.registered "1" "a"] = .ok other ∧
      (∀ clientId, other.byClientId? clientId = store.byClientId? clientId) ∧
      other.byClientId? "a" = some (Sample.registered "1" "a") ∧
      other.byClientId? "b" = some (Sample.registered "2" "b")) ∧
    ∃ store other, AuthorizationStore.ofList [Sample.coded, Sample.accessed] = .ok store ∧
      AuthorizationStore.ofList [Sample.accessed, Sample.coded] = .ok other ∧
      (∀ type, other.byToken? "t" type = store.byToken? "t" type) ∧
      other.byToken? "t" .code = some Sample.coded ∧
      other.byToken? "t" .accessToken = some Sample.accessed := by
  constructor
  · have distinct : ([Sample.registered "1" "a", Sample.registered "2" "b"].map (·.id)).Nodup := by
      decide
    have right : ∀ client ∈ [Sample.registered "1" "a", Sample.registered "2" "b"],
        client.flaw? = none :=
      List.forall_mem_cons.mpr ⟨rfl, List.forall_mem_singleton.mpr rfl⟩
    obtain ⟨loads, alike, answers⟩ := loading_ignores_order.1 _
      [Sample.registered "2" "b", Sample.registered "1" "a"] distinct (.swap ..)
    obtain ⟨store, loaded⟩ := loads.mpr ⟨right, by decide⟩
    obtain ⟨other, loadedToo⟩ := alike.mpr ⟨store, loaded⟩
    obtain ⟨lists, -, byClientId⟩ := answers store other loaded loadedToo
    refine ⟨store, other, loaded, loadedToo, byClientId, ?_, ?_⟩
    · exact (lists.byClientId _ _).mpr ⟨by simp, rfl⟩
    · exact (lists.byClientId _ _).mpr ⟨by simp, rfl⟩
  · have distinct : ([Sample.coded, Sample.accessed].map (·.id)).Nodup := by decide
    have apart : [Sample.coded, Sample.accessed].Pairwise fun first second =>
        ∀ key, first.Carries key → ¬second.Carries key := by
      refine .cons (List.forall_mem_singleton.mpr fun key carries carried => ?_)
        (List.pairwise_singleton ..)
      have keys : ∀ key ∈ Sample.coded.tokens.keys, key ∉ Sample.accessed.tokens.keys := by decide
      exact keys key (IssuedTokens.mem_keys.mpr carries) (IssuedTokens.mem_keys.mpr carried)
    obtain ⟨loads, alike, answers⟩ :=
      loading_ignores_order.2 _ [Sample.accessed, Sample.coded] distinct (.swap ..)
    obtain ⟨store, loaded⟩ := loads.mpr apart
    obtain ⟨other, loadedToo⟩ := alike.mpr ⟨store, loaded⟩
    obtain ⟨lists, -, byToken⟩ := answers store other loaded loadedToo
    refine ⟨store, other, loaded, loadedToo, byToken "t", ?_, ?_⟩
    · exact (lists.byToken _ _ _).mpr ⟨by simp, _, rfl, rfl⟩
    · exact (lists.byToken _ _ _).mpr ⟨by simp, _, rfl, rfl⟩

end ClientAssertion
