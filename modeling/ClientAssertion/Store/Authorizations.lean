/-
**The store of authorizations.**

Authorizations are kept by their identifier, with an index from the type and value of a token to
the authorization that carries it.

* `AuthorizationStore.save` adds or replaces an authorization, unless one of its tokens belongs to
  another one, and indexes the tokens anew;
* `AuthorizationStore.remove` takes an authorization and its tokens out.
-/

import ClientAssertion.AuthError
import ClientAssertion.Authorization
import ClientAssertion.Table

namespace ClientAssertion

/-- What a token is found by. -/
abbrev TokenKey := TokenType × String

namespace IssuedTokens

/-- What the tokens are found by. -/
def keys (tokens : IssuedTokens) : List TokenKey :=
  tokens.toList.map fun pair => (pair.1, pair.2.value)

end IssuedTokens

/-- Authorizations with the index of their tokens. -/
structure AuthorizationStore where
  authorizations : Table String Authorization
  /-- The identifier of the authorization that carries a token. -/
  tokens : Table TokenKey String

namespace AuthorizationStore

/-- The store without authorizations. -/
def empty : AuthorizationStore := ⟨.empty, .empty⟩

instance : Inhabited AuthorizationStore := ⟨empty⟩

/-- The authorization with an identifier. -/
def byId? (store : AuthorizationStore) (id : String) : Option Authorization :=
  store.authorizations.get? id

/-- The authorization that carries a token. -/
def byToken? (store : AuthorizationStore) (token : String) (type : TokenType) : Option Authorization :=
  store.tokens.get? (type, token) >>= store.byId?

/-- A token that belongs to another authorization. -/
structure Collision where
  type : TokenType
  owner : String
deriving DecidableEq, Repr

/-- The error that a collision is reported as. -/
def Collision.error (collision : Collision) : AuthError :=
  .storage (collision.type.name ++ " token already belongs to authorization '" ++ collision.owner ++ "'")

/-- The first of the tokens that belongs to another authorization than the one with the
identifier. -/
def collision? (store : AuthorizationStore) (id : String) (keys : List TokenKey) : Option Collision :=
  keys.findSome? fun key =>
    match store.tokens.get? key with
    | some owner => if owner = id then none else some ⟨key.1, owner⟩
    | none => none

/-- The index without some tokens. -/
def eraseKeys (tokens : Table TokenKey String) (keys : List TokenKey) : Table TokenKey String :=
  keys.foldl Table.erase tokens

/-- The index with some tokens of an authorization. -/
def insertKeys (tokens : Table TokenKey String) (id : String) (keys : List TokenKey) :
    Table TokenKey String :=
  keys.foldl (fun tokens key => tokens.insert key id) tokens

/-- The index without the tokens of the stored authorization with an identifier. -/
def unindexed (store : AuthorizationStore) (id : String) : Table TokenKey String :=
  match store.byId? id with
  | some authorization => eraseKeys store.tokens authorization.tokens.keys
  | none => store.tokens

/-- The store with an authorization in it, whatever it held before. -/
def put (store : AuthorizationStore) (authorization : Authorization) : AuthorizationStore where
  authorizations := store.authorizations.insert authorization.id authorization
  tokens := insertKeys (store.unindexed authorization.id) authorization.id authorization.tokens.keys

/-- The store with an authorization added or replaced. -/
def save (store : AuthorizationStore) (authorization : Authorization) :
    Except Collision AuthorizationStore :=
  match store.collision? authorization.id authorization.tokens.keys with
  | some collision => .error collision
  | none => .ok (store.put authorization)

/-- The authorization with an identifier, and the store without it. -/
def remove (store : AuthorizationStore) (id : String) : Option Authorization × AuthorizationStore :=
  (store.byId? id, ⟨store.authorizations.erase id, store.unindexed id⟩)

/-- The store of a list of authorizations. -/
def ofList (authorizations : List Authorization) : Except Collision AuthorizationStore :=
  authorizations.foldlM save empty

end AuthorizationStore

end ClientAssertion
