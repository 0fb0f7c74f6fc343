/-
**The store of authorizations is a map with unique tokens.**

Commands save and remove authorizations. What a history of them last wrote under an identifier is
the authorization that was last saved there and not removed since (`stored`).

* `Represents` ties a store to such a map: it answers identifiers by the map, and its index leads
  from a token to the identifier of exactly the authorization that carries it;
* `Represents.save` and `Represents.remove`: each operation keeps the tie and changes the map at
  one identifier, and `Represents.save_eq_error_iff` says which authorizations are refused;
* `authorizationStore_refines_map`: after every run the store answers as the map does.
-/

import ClientAssertion.Proofs.History
import ClientAssertion.Proofs.Table
import ClientAssertion.Store.Authorizations

namespace ClientAssertion

/-! ### The tokens of an authorization -/

/-- An authorization has a token of a type with a value. -/
def Authorization.Carries (authorization : Authorization) (key : TokenKey) : Prop :=
  ∃ token, authorization.tokens.get? key.1 = some token ∧ token.value = key.2

theorem IssuedTokens.mem_keys {authorization : Authorization} {key : TokenKey} :
    key ∈ authorization.tokens.keys ↔ authorization.Carries key := by
  obtain ⟨type, value⟩ := key
  constructor
  · intro member
    obtain ⟨⟨found, token⟩, listed, same⟩ := List.mem_map.mp member
    obtain ⟨rfl, rfl⟩ := Prod.mk.inj same
    obtain ⟨candidate, -, present⟩ := List.mem_filterMap.mp listed
    obtain ⟨other, carried, pair⟩ := Option.map_eq_some_iff.mp present
    obtain ⟨rfl, rfl⟩ := Prod.mk.inj pair
    exact ⟨other, carried, rfl⟩
  · rintro ⟨token, carried, rfl⟩
    refine List.mem_map.mpr ⟨(type, token), List.mem_filterMap.mpr ⟨type, ?_, ?_⟩, rfl⟩
    · cases type <;> simp [TokenType.all]
    · rw [carried]
      rfl

namespace AuthorizationStore

/-! ### The index of tokens -/

theorem get?_eraseKeys (tokens : Table TokenKey String) (keys : List TokenKey) (key : TokenKey) :
    (eraseKeys tokens keys).get? key = if key ∈ keys then none else tokens.get? key := by
  induction keys generalizing tokens with
  | nil => simp [eraseKeys]
  | cons first keys hypothesis =>
    show (eraseKeys (tokens.erase first) keys).get? key = _
    rw [hypothesis, Table.get?_erase]
    by_cases later : key ∈ keys
    · simp [later]
    · by_cases same : first = key
      · simp [same]
      · simp [later, same, Ne.symm same]

theorem get?_insertKeys (tokens : Table TokenKey String) (id : String) (keys : List TokenKey)
    (key : TokenKey) :
    (insertKeys tokens id keys).get? key = if key ∈ keys then some id else tokens.get? key := by
  rw [insertKeys, Table.get?_foldl_insert]
  congr

/-! ### Stores and maps -/

/-- **A store holds a map from identifiers to authorizations**: the authorizations stand under
their own identifiers, and a token leads to the one authorization that carries it. -/
structure Represents (store : AuthorizationStore) (stored : String → Option Authorization) : Prop where
  byId : ∀ id, store.byId? id = stored id
  own : ∀ id authorization, stored id = some authorization → authorization.id = id
  index : ∀ key id, store.tokens.get? key = some id ↔
    ∃ authorization, stored id = some authorization ∧ authorization.Carries key

theorem represents_empty : Represents empty fun _ => none where
  byId _ := rfl
  own _ _ absent := by cases absent
  index key id := by simp [empty]

/-- A token of an authorization belongs to another one that is stored. -/
def Collides (stored : String → Option Authorization) (authorization : Authorization) : Prop :=
  ∃ id other key, id ≠ authorization.id ∧ stored id = some other ∧ authorization.Carries key ∧
    other.Carries key

namespace Represents

variable {store : AuthorizationStore} {stored : String → Option Authorization}

/-- No token is carried by two stored authorizations. -/
theorem unique (represents : Represents store stored) {first second : String}
    {authorization other : Authorization} {key : TokenKey}
    (firstStored : stored first = some authorization) (firstCarries : authorization.Carries key)
    (secondStored : stored second = some other) (secondCarries : other.Carries key) :
    first = second := by
  have toFirst := (represents.index key first).mpr ⟨authorization, firstStored, firstCarries⟩
  have toSecond := (represents.index key second).mpr ⟨other, secondStored, secondCarries⟩
  rw [toFirst] at toSecond
  exact Option.some.inj toSecond

/-- **A token finds exactly the stored authorization that carries it.** -/
theorem byToken?_eq_some_iff (represents : Represents store stored) (token : String)
    (type : TokenType) (authorization : Authorization) :
    store.byToken? token type = some authorization ↔
      ∃ id, stored id = some authorization ∧ authorization.Carries (type, token) := by
  constructor
  · intro found
    obtain ⟨id, indexed, holds⟩ := Option.bind_eq_some_iff.mp found
    rw [represents.byId] at holds
    obtain ⟨owner, owned, carries⟩ := (represents.index (type, token) id).mp indexed
    obtain rfl : owner = authorization := Option.some.inj (owned.symm.trans holds)
    exact ⟨id, holds, carries⟩
  · rintro ⟨id, holds, carries⟩
    have indexed := (represents.index (type, token) id).mpr ⟨authorization, holds, carries⟩
    exact Option.bind_eq_some_iff.mpr ⟨id, indexed, (represents.byId id).trans holds⟩

/-- Without the tokens under an identifier, the index leads to the other identifiers. -/
theorem get?_unindexed (represents : Represents store stored) (id : String) (key : TokenKey)
    (owner : String) :
    (store.unindexed id).get? key = some owner ↔ owner ≠ id ∧ store.tokens.get? key = some owner := by
  have answer := represents.byId id
  unfold unindexed
  cases held : store.byId? id with
  | none =>
    have absent : stored id = none := answer.symm.trans held
    refine ⟨fun indexed => ⟨?_, indexed⟩, fun ⟨_, indexed⟩ => indexed⟩
    rintro rfl
    obtain ⟨_, present, -⟩ := (represents.index key owner).mp indexed
    rw [absent] at present
    cases present
  | some authorization =>
    have present : stored id = some authorization := answer.symm.trans held
    show (eraseKeys store.tokens authorization.tokens.keys).get? key = some owner ↔ _
    rw [get?_eraseKeys]
    by_cases carries : authorization.Carries key
    · have indexed := (represents.index key id).mpr ⟨authorization, present, carries⟩
      rw [if_pos (IssuedTokens.mem_keys.mpr carries), indexed]
      refine ⟨fun absent => absurd absent (Option.some_ne_none owner).symm, ?_⟩
      rintro ⟨other, same⟩
      exact absurd (Option.some.inj same).symm other
    · rw [if_neg fun member => carries (IssuedTokens.mem_keys.mp member)]
      refine ⟨fun indexed => ⟨?_, indexed⟩, fun ⟨_, indexed⟩ => indexed⟩
      rintro rfl
      obtain ⟨carrier, owned, carried⟩ := (represents.index key owner).mp indexed
      obtain rfl : carrier = authorization := Option.some.inj (owned.symm.trans present)
      exact carries carried

/-! ### Single operations -/

/-- A refusal names a stored authorization that carries one of the tokens. -/
theorem collides_of_collision? (represents : Represents store stored) {authorization : Authorization}
    {collision : Collision}
    (found : store.collision? authorization.id authorization.tokens.keys = some collision) :
    ∃ other key, key.1 = collision.type ∧ collision.owner ≠ authorization.id ∧
      stored collision.owner = some other ∧ authorization.Carries key ∧ other.Carries key := by
  obtain ⟨key, member, reported⟩ := List.exists_of_findSome?_eq_some found
  cases indexed : store.tokens.get? key with
  | none => simp [indexed] at reported
  | some owner =>
    by_cases same : owner = authorization.id
    · simp [indexed, same] at reported
    · simp only [indexed, if_neg same, Option.some.injEq] at reported
      subst reported
      obtain ⟨other, held, carries⟩ := (represents.index key owner).mp indexed
      exact ⟨other, key, rfl, same, held, IssuedTokens.mem_keys.mp member, carries⟩

theorem not_collides_of_collision? (represents : Represents store stored)
    {authorization : Authorization}
    (free : store.collision? authorization.id authorization.tokens.keys = none) :
    ¬Collides stored authorization := by
  rintro ⟨id, other, key, different, held, carries, carried⟩
  have indexed := (represents.index key id).mpr ⟨other, held, carried⟩
  have silent := List.findSome?_eq_none_iff.mp free key (IssuedTokens.mem_keys.mpr carries)
  simp [indexed, different] at silent

/-- **Exactly an authorization with a token of another one is refused.** -/
theorem save_eq_error_iff (represents : Represents store stored) (authorization : Authorization) :
    (∃ collision, store.save authorization = .error collision) ↔ Collides stored authorization := by
  unfold AuthorizationStore.save
  cases found : store.collision? authorization.id authorization.tokens.keys with
  | none =>
    have free := represents.not_collides_of_collision? found
    exact ⟨fun ⟨_, refused⟩ => (nomatch refused), fun collides => absurd collides free⟩
  | some collision =>
    obtain ⟨other, key, -, different, held, carries⟩ := represents.collides_of_collision? found
    exact ⟨fun _ => ⟨collision.owner, other, key, different, held, carries⟩, fun _ => ⟨collision, rfl⟩⟩

/-- What is put in without a collision is tied to the map with one more entry. -/
theorem put (represents : Represents store stored) {authorization : Authorization}
    (free : ¬Collides stored authorization) :
    Represents (store.put authorization)
      (Function.update stored authorization.id (some authorization)) where
  byId id := by
    show (store.authorizations.insert authorization.id authorization).get? id = _
    rw [Table.get?_insert_eq, ← funext represents.byId]
    rfl
  own := by
    refine holds_update represents.own fun other held => ?_
    rw [Option.some.inj held]
  index key id := by
    show (insertKeys (store.unindexed authorization.id) authorization.id
      authorization.tokens.keys).get? key = some id ↔ _
    rw [get?_insertKeys]
    by_cases carries : authorization.Carries key
    · rw [if_pos (IssuedTokens.mem_keys.mpr carries)]
      constructor
      · rintro ⟨rfl⟩
        exact ⟨authorization, Function.update_self _ _ _, carries⟩
      · rintro ⟨other, held, carried⟩
        by_contra different
        have apart : id ≠ authorization.id := fun same => different (congrArg some same.symm)
        rw [Function.update_of_ne apart] at held
        exact free ⟨id, other, key, apart, held, carries, carried⟩
    · rw [if_neg fun member => carries (IssuedTokens.mem_keys.mp member), represents.get?_unindexed]
      by_cases same : id = authorization.id
      · subst same
        refine ⟨fun ⟨different, _⟩ => absurd rfl different, ?_⟩
        rintro ⟨other, held, carried⟩
        rw [Function.update_self] at held
        rw [← Option.some.inj held] at carried
        exact absurd carried carries
      · rw [Function.update_of_ne same, represents.index]
        exact and_iff_right same

/-- **An authorization that is saved stands under its identifier, and nothing else changes.** -/
theorem save (represents : Represents store stored) {authorization : Authorization}
    {next : AuthorizationStore} (saved : store.save authorization = .ok next) :
    Represents next (Function.update stored authorization.id (some authorization)) := by
  unfold AuthorizationStore.save at saved
  cases found : store.collision? authorization.id authorization.tokens.keys with
  | none =>
    rw [found] at saved
    cases saved
    exact represents.put (represents.not_collides_of_collision? found)
  | some collision =>
    rw [found] at saved
    cases saved

/-- **An authorization that is removed stands nowhere, and nothing else changes.** -/
theorem remove (represents : Represents store stored) (id : String) :
    Represents (store.remove id).2 (Function.update stored id none) where
  byId other := by
    show (store.authorizations.erase id).get? other = _
    rw [Table.get?_erase_eq, ← funext represents.byId]
    rfl
  own := by
    refine holds_update represents.own fun other held => ?_
    cases held
  index key owner := by
    show (store.unindexed id).get? key = some owner ↔ _
    rw [represents.get?_unindexed]
    by_cases same : owner = id
    · subst same
      simp
    · rw [Function.update_of_ne same, represents.index]
      exact and_iff_right same

end Represents

/-! ### Runs -/

/-- What a store is told to do. -/
inductive Command where
  | save (authorization : Authorization)
  | remove (id : String)

/-- What a command came to. -/
inductive Record where
  | saved (authorization : Authorization)
  | refused (authorization : Authorization) (collision : Collision)
  | removed (id : String) (found : Option Authorization)

/-- One command. A refused authorization leaves the store as it is. -/
def perform (command : Command) (store : AuthorizationStore) : Record × AuthorizationStore :=
  match command with
  | .save authorization =>
    match store.save authorization with
    | .ok next => (.saved authorization, next)
    | .error collision => (.refused authorization collision, store)
  | .remove id => (.removed id (store.remove id).1, (store.remove id).2)

/-- What a record does to the authorization under an identifier. -/
def effectAt (id : String) : Record → Effect Authorization
  | .saved authorization => if authorization.id = id then .write authorization else .keep
  | .refused _ _ => .keep
  | .removed removed _ => if removed = id then .erase else .keep

/-- The authorization that was last saved under an identifier and not removed since. -/
def stored (history : List Record) (id : String) : Option Authorization := latest (effectAt id) history

theorem stored_saved (history : List Record) (authorization : Authorization) :
    stored (history ++ [.saved authorization]) =
      Function.update (stored history) authorization.id (some authorization) := by
  refine latest_concat_update effectAt history _ (fun known => ?_) fun other apart => ?_
  · simp [effectAt, Effect.apply]
  · simp [effectAt, Ne.symm apart]

theorem stored_removed (history : List Record) (id : String) (found : Option Authorization) :
    stored (history ++ [.removed id found]) = Function.update (stored history) id none := by
  refine latest_concat_update effectAt history _ (fun known => ?_) fun other apart => ?_
  · simp [effectAt, Effect.apply]
  · simp [effectAt, Ne.symm apart]

theorem stored_refused (history : List Record) (authorization : Authorization)
    (collision : Collision) :
    stored (history ++ [.refused authorization collision]) = stored history := by
  funext id
  rw [stored, latest_concat]
  rfl

/-- **Every run from the empty store leaves a store that is tied to its history.** -/
theorem represents_trace (commands : List Command) :
    Represents (trace perform commands empty).2 (stored (trace perform commands empty).1) := by
  refine trace_induction perform (fun history store => Represents store (stored history))
    represents_empty (fun history store command represents => ?_) commands
  cases command with
  | save authorization =>
    cases outcome : store.save authorization with
    | ok next =>
      simp only [perform, outcome, stored_saved]
      exact represents.save outcome
    | error collision =>
      simp only [perform, outcome, stored_refused]
      exact represents
  | remove id =>
    simp only [perform, stored_removed]
    exact represents.remove id

/-- **The store of authorizations is a map with unique tokens.** After every run from the empty
store, whatever was refused on the way:

* an identifier finds the authorization that was last saved under it and not removed since, and the
  index leads from a token to the identifier of exactly the stored authorization that carries it;
* no two stored authorizations share a token of one type, and a token finds its authorization under
  its own type only;
* exactly an authorization with a token of another one is refused, which changes nothing;
* a save changes the map at the saved identifier alone, and a removal hands out what stood under
  its identifier and changes the map there alone. -/
theorem authorizationStore_refines_map (commands : List Command) :
    let history := (trace perform commands empty).1
    let store := (trace perform commands empty).2
    (∀ id authorization, store.byId? id = some authorization ↔
      WrittenLast (effectAt id) history authorization) ∧
    Represents store (stored history) ∧
    (∀ key first second authorization other, stored history first = some authorization →
      stored history second = some other → authorization.Carries key → other.Carries key →
      first = second) ∧
    (∀ token type authorization, store.byToken? token type = some authorization ↔
      ∃ id, stored history id = some authorization ∧ authorization.Carries (type, token)) ∧
    (∀ authorization, (∃ collision, store.save authorization = .error collision) ↔
      Collides (stored history) authorization) ∧
    (∀ authorization, Collides (stored history) authorization →
      (perform (.save authorization) store).2 = store) ∧
    (∀ authorization next, store.save authorization = .ok next →
      Represents next (Function.update (stored history) authorization.id (some authorization))) ∧
    ∀ id, (store.remove id).1 = stored history id ∧
      Represents (store.remove id).2 (Function.update (stored history) id none) := by
  intro history store
  have represents : Represents store (stored history) := represents_trace commands
  refine ⟨fun id authorization => ?_, represents, ?_, represents.byToken?_eq_some_iff,
    represents.save_eq_error_iff, fun authorization collides => ?_,
    fun authorization next saved => represents.save saved,
    fun id => ⟨represents.byId id, represents.remove id⟩⟩
  · rw [represents.byId id]
    exact latest_eq_some_iff history authorization
  · intro key first second authorization other firstStored secondStored carries carried
    exact represents.unique firstStored carries secondStored carried
  · obtain ⟨collision, refused⟩ := (represents.save_eq_error_iff authorization).mpr collides
    rw [perform, refused]

end AuthorizationStore

end ClientAssertion
