/-
**The store of client registrations.**

Registrations are kept by their identifier, with an index from the identifier that a client
presents to the one of its registration.

* `ClientStore.save` adds or replaces a valid registration, unless its client identifier belongs
  to another one; a client identifier that a registration gives up is free again;
* `ClientStore.ofList` loads registrations in order and stops at the first that is refused.
-/

import ClientAssertion.AuthError
import ClientAssertion.Client
import ClientAssertion.Table

namespace ClientAssertion

/-- Client registrations with the index of client identifiers. -/
structure ClientStore where
  clients : Table String Client
  /-- The identifier of the registration that holds a client identifier. -/
  ids : Table String String

namespace ClientStore

/-- The store without registrations. -/
def empty : ClientStore := ⟨.empty, .empty⟩

instance : Inhabited ClientStore := ⟨empty⟩

/-- The registration with an identifier. -/
def byId? (store : ClientStore) (id : String) : Option Client := store.clients.get? id

/-- The registration of a client identifier. -/
def byClientId? (store : ClientStore) (clientId : String) : Option Client :=
  store.ids.get? clientId >>= store.byId?

/-- The number of registrations. -/
def size (store : ClientStore) : Nat := store.clients.size

/-- Why a registration is refused. -/
inductive Refusal where
  | invalid (clientId : String) (flaw : Client.Flaw)
  | taken (clientId : String)
deriving DecidableEq, Repr

/-- The error that a refusal is reported as. -/
def Refusal.error : Refusal → AuthError
  | .invalid clientId flaw => .configuration ("client '" ++ clientId ++ "': " ++ flaw.message)
  | .taken clientId => .storage ("client_id '" ++ clientId ++ "' is already registered")

/-- Why the store refuses a registration, if it does. -/
def refusal? (store : ClientStore) (client : Client) : Option Refusal :=
  match client.flaw? with
  | some flaw => some (.invalid client.clientId flaw)
  | none =>
    match store.ids.get? client.clientId with
    | some id => if id = client.id then none else some (.taken client.clientId)
    | none => none

/-- The index without the client identifier that a registration gives up. -/
def releaseId (ids : Table String String) (previous : Option Client) (clientId : String) :
    Table String String :=
  match previous with
  | some previous => if previous.clientId = clientId then ids else ids.erase previous.clientId
  | none => ids

/-- The store with a registration in it, whatever it held before. -/
def put (store : ClientStore) (client : Client) : ClientStore where
  clients := store.clients.insert client.id client
  ids := releaseId (store.ids.insert client.clientId client.id) (store.byId? client.id) client.clientId

/-- The store with a registration added or replaced. -/
def save (store : ClientStore) (client : Client) : Except Refusal ClientStore :=
  match store.refusal? client with
  | some refusal => .error refusal
  | none => .ok (store.put client)

/-- The store of a list of registrations. -/
def ofList (clients : List Client) : Except Refusal ClientStore := clients.foldlM save empty

end ClientStore

end ClientAssertion
