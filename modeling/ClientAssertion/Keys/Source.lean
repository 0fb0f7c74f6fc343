/-
**Sources of key sets.**

A source answers calls for the key set that is published at a URL: for the set as it is known, or
for a fresh one.  What it knows is a state, which an answer may change.

* `fixed`: sets that are registered by their URL;
* `scripted`: answers that are laid down for each call.
-/

import ClientAssertion.AuthError
import ClientAssertion.Event
import ClientAssertion.Jose.Jwk
import ClientAssertion.Table

namespace ClientAssertion

/-- A call to a source of key sets. -/
inductive KeyCall where
  /-- For the set as it is known. -/
  | current (url : String)
  /-- For the set without regard to what is known. -/
  | refresh (url : String)
deriving DecidableEq, Repr

/-- The URL that a call is for. -/
def KeyCall.url : KeyCall → String
  | .current url | .refresh url => url

/-- The answer to a call, with the events and the state that it leaves. -/
structure KeyAnswer (State : Type) where
  result : Except AuthError KeySet
  events : List Event
  state : State

/-- A source of key sets. -/
abbrev KeySource (State : Type) := KeyCall → State → KeyAnswer State

namespace KeySource

/-- What is said of a URL that no set is registered for. -/
def unregistered (url : String) : AuthError :=
  .refused ("No JWK Set registered for '" ++ url ++ "'")

/-- The source of sets that are registered by their URL. -/
def fixed : KeySource (Table String KeySet) := fun call sets =>
  ⟨(match sets.get? call.url with
    | some set => .ok set
    | none => .error (unregistered call.url)), [], sets⟩

/-- What a scripted source answers to the two calls for a URL. -/
structure Script where
  current : Except AuthError KeySet
  refresh : Except AuthError KeySet

/-- The source that answers by a script, the same answer each time. -/
def scripted (script : (url : String) → Script) : KeySource Unit := fun call state =>
  match call with
  | .current url => ⟨(script url).current, [], state⟩
  | .refresh url => ⟨(script url).refresh, [], state⟩

end KeySource

end ClientAssertion
