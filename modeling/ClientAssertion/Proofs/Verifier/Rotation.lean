/-
**How a published key is looked for.**

A set that lacks the key is fetched once more, so that a client which has changed its keys is not
locked out, and no token makes more than the one further request.

* `KeySource.recording` keeps the calls to a source, and `verify_recording`: that changes nothing
  else, so `callsOf` is what a check asks of the source;
* `Rotation` relates the check of a token to its calls, its result and the state that it leaves, one
  case for each way in which the two sets are answered, and `rotation_iff`: a check is exactly that;
* `verify_eq_of_provides`: where a source provides a key, the result is that of the key alone;
* `rotation_direct`: behind a set without the key, a token is checked as by a source that serves the
  fresh set at once;
* `key_rotation` is all of this of every check.
-/

import ClientAssertion.Proofs.Verifier.KeySet

namespace ClientAssertion

variable {State : Type}

namespace KeySource

/-- The source that keeps its calls. -/
def recording (source : KeySource State) : KeySource (State × List KeyCall) := fun call state =>
  ⟨(source call state.1).result, (source call state.1).events,
    ((source call state.1).state, state.2 ++ [call])⟩

/-- The answer to the call for the set as it is known. -/
def known (source : KeySource State) (url : String) (state : State) : KeyAnswer State :=
  source (.current url) state

/-- The answer to the call for a fresh set, behind the one for the set as it is known. -/
def renewed (source : KeySource State) (url : String) (state : State) : KeyAnswer State :=
  source (.refresh url) (source.known url state).state

end KeySource

namespace Verifier

/-! ### Calls -/

/-- Keeping the calls changes nothing else. -/
theorem verify_recording (verifier : Verifier) (source : KeySource State) (token : String)
    (state : State) (log : List KeyCall) :
    verify verifier source.recording token (state, log) =
      let outcome := verify verifier source token state
      ⟨outcome.result, outcome.calls, outcome.events, (outcome.state, log ++ outcome.calls)⟩ := by
  cases verifier with
  | mac => simp [verify]
  | keySet algorithm url =>
    cases headed : Token.header token with
    | error flaw => simp [verify, headed]
    | ok header =>
      simp only [verify, headed, verifyPublished, KeySource.recording]
      cases (source (.current url) state).result with
      | error error => rfl
      | ok set =>
        simp only
        cases set.find? header.keyId algorithm with
        | some jwk => rfl
        | none => simp [verifyRefreshed, KeySource.recording]

/-- The calls to the source in the check of a token. -/
def callsOf (verifier : Verifier) (source : KeySource State) (token : String) (state : State) :
    List KeyCall :=
  (verify verifier source.recording token (state, [])).state.2

theorem callsOf_eq (verifier : Verifier) (source : KeySource State) (token : String)
    (state : State) :
    callsOf verifier source token state = (verify verifier source token state).calls := by
  rw [callsOf, verify_recording]
  exact List.nil_append _

/-! ### Cases -/

/-- **The check of a token under a published key**, with its calls to the source, its result and the
state that it leaves. A token without a readable header asks for nothing; a first set that is not
answered or has the key ends the search, and else the fresh set does. -/
inductive Rotation (source : KeySource State) (algorithm : Algorithm) (url token : String)
    (state : State) : List KeyCall → Except JwtError Decoded → State → Prop where
  | unreadable {flaw : TokenFlaw} (headed : Token.header token = .error flaw) :
      Rotation source algorithm url token state [] (.error (.ofFlaw flaw)) state
  | unavailable {header : Header} {error : AuthError} (headed : Token.header token = .ok header)
      (failed : (source.known url state).result = .error error) :
      Rotation source algorithm url token state [.current url]
        (.error (.keyNotFound error.description)) (source.known url state).state
  | known {header : Header} {set : KeySet} {jwk : Jwk} (headed : Token.header token = .ok header)
      (answered : (source.known url state).result = .ok set)
      (selected : set.Selects header.keyId algorithm jwk) :
      Rotation source algorithm url token state [.current url] (verifyJwk algorithm jwk token)
        (source.known url state).state
  | unrenewed {header : Header} {set : KeySet} {error : AuthError}
      (headed : Token.header token = .ok header)
      (answered : (source.known url state).result = .ok set)
      (lacking : set.Lacks header.keyId algorithm)
      (failed : (source.renewed url state).result = .error error) :
      Rotation source algorithm url token state [.current url, .refresh url]
        (.error (.keyNotFound error.description)) (source.renewed url state).state
  | renewed {header : Header} {set fresh : KeySet} {jwk : Jwk}
      (headed : Token.header token = .ok header)
      (answered : (source.known url state).result = .ok set)
      (lacking : set.Lacks header.keyId algorithm)
      (refetched : (source.renewed url state).result = .ok fresh)
      (selected : fresh.Selects header.keyId algorithm jwk) :
      Rotation source algorithm url token state [.current url, .refresh url]
        (verifyJwk algorithm jwk token) (source.renewed url state).state
  | unidentified {header : Header} {set fresh : KeySet} {keyId : String}
      (headed : Token.header token = .ok header) (named : header.keyId = some keyId)
      (answered : (source.known url state).result = .ok set)
      (lacking : set.Lacks (some keyId) algorithm)
      (refetched : (source.renewed url state).result = .ok fresh)
      (missing : fresh.Lacks (some keyId) algorithm) :
      Rotation source algorithm url token state [.current url, .refresh url]
        (.error (.keyNotFound ("Key '" ++ keyId ++ "' not found in JWK Set at " ++ url)))
        (source.renewed url state).state
  | unsuited {header : Header} {set fresh : KeySet} (headed : Token.header token = .ok header)
      (unnamed : header.keyId = none) (answered : (source.known url state).result = .ok set)
      (lacking : set.Lacks none algorithm)
      (refetched : (source.renewed url state).result = .ok fresh)
      (missing : fresh.Lacks none algorithm) :
      Rotation source algorithm url token state [.current url, .refresh url]
        (.error (.keyNotFound ("No " ++ algorithm.name ++ " signing key in JWK Set at " ++ url)))
        (source.renewed url state).state

section Cases

variable {source : KeySource State} {algorithm : Algorithm} {url token : String} {state : State}
  {header : Header} {set fresh : KeySet} {jwk : Jwk} {error : AuthError}

theorem verify_of_header_error {flaw : TokenFlaw} (headed : Token.header token = .error flaw) :
    verify (.keySet algorithm url) source token state = ⟨.error (.ofFlaw flaw), [], [], state⟩ := by
  simp only [verify, headed]

theorem verify_of_known_error (headed : Token.header token = .ok header)
    (failed : (source.known url state).result = .error error) :
    verify (.keySet algorithm url) source token state =
      ⟨.error (.keyNotFound error.description), [.current url], (source.known url state).events,
        (source.known url state).state⟩ := by
  simp only [KeySource.known] at failed
  simp only [verify, headed, verifyPublished, failed, KeySource.known]

theorem verify_of_selects (headed : Token.header token = .ok header)
    (answered : (source.known url state).result = .ok set)
    (selected : set.Selects header.keyId algorithm jwk) :
    verify (.keySet algorithm url) source token state =
      ⟨verifyJwk algorithm jwk token, [.current url], (source.known url state).events,
        (source.known url state).state⟩ := by
  simp only [KeySource.known] at answered
  simp only [verify, headed, verifyPublished, answered, KeySet.find?_eq_some_iff.mpr selected,
    KeySource.known]

theorem verify_of_lacks (headed : Token.header token = .ok header)
    (answered : (source.known url state).result = .ok set)
    (lacking : set.Lacks header.keyId algorithm) :
    verify (.keySet algorithm url) source token state =
      ⟨(match (source.renewed url state).result with
        | .error error => .error (.keyNotFound error.description)
        | .ok fresh =>
          match fresh.find? header.keyId algorithm with
          | some jwk => verifyJwk algorithm jwk token
          | none => .error (keyMissing header.keyId algorithm url)),
        [.current url, .refresh url],
        (source.known url state).events ++ (source.renewed url state).events,
        (source.renewed url state).state⟩ := by
  simp only [KeySource.known] at answered
  simp only [verify, headed, verifyPublished, answered, KeySet.find?_eq_none_iff.mpr lacking]
  rfl

/-- **Every check is one of the cases, and no other.** -/
theorem rotation_iff {calls : List KeyCall} {result : Except JwtError Decoded} {left : State} :
    Rotation source algorithm url token state calls result left ↔
      calls = callsOf (.keySet algorithm url) source token state ∧
        result = (verify (.keySet algorithm url) source token state).result ∧
        left = (verify (.keySet algorithm url) source token state).state := by
  rw [callsOf_eq]
  constructor
  · intro rotation
    cases rotation with
    | unreadable headed =>
      rw [verify_of_header_error headed]
      exact ⟨rfl, rfl, rfl⟩
    | unavailable headed failed =>
      rw [verify_of_known_error headed failed]
      exact ⟨rfl, rfl, rfl⟩
    | known headed answered selected =>
      rw [verify_of_selects headed answered selected]
      exact ⟨rfl, rfl, rfl⟩
    | unrenewed headed answered lacking failed =>
      rw [verify_of_lacks headed answered lacking, failed]
      exact ⟨rfl, rfl, rfl⟩
    | renewed headed answered lacking refetched selected =>
      rw [verify_of_lacks headed answered lacking, refetched]
      simp only [KeySet.find?_eq_some_iff.mpr selected, and_self]
    | unidentified headed named answered lacking refetched missing =>
      rw [verify_of_lacks headed answered (named ▸ lacking), refetched]
      simp only [named, KeySet.find?_eq_none_iff.mpr missing, keyMissing, and_self]
    | unsuited headed unnamed answered lacking refetched missing =>
      rw [verify_of_lacks headed answered (unnamed ▸ lacking), refetched]
      simp only [unnamed, KeySet.find?_eq_none_iff.mpr missing, keyMissing, and_self]
  · rintro ⟨rfl, rfl, rfl⟩
    cases headed : Token.header token with
    | error flaw =>
      rw [verify_of_header_error headed]
      exact .unreadable headed
    | ok header =>
      cases answered : (source.known url state).result with
      | error error =>
        rw [verify_of_known_error headed answered]
        exact .unavailable headed answered
      | ok set =>
        cases found : set.find? header.keyId algorithm with
        | some jwk =>
          have selected := KeySet.find?_eq_some_iff.mp found
          rw [verify_of_selects headed answered selected]
          exact .known headed answered selected
        | none =>
          have lacking := KeySet.find?_eq_none_iff.mp found
          rw [verify_of_lacks headed answered lacking]
          cases refetched : (source.renewed url state).result with
          | error error => exact .unrenewed headed answered lacking refetched
          | ok fresh =>
            cases found : fresh.find? header.keyId algorithm with
            | some jwk =>
              simp only [found]
              exact .renewed headed answered lacking refetched (KeySet.find?_eq_some_iff.mp found)
            | none =>
              have missing := KeySet.find?_eq_none_iff.mp found
              simp only [found, keyMissing]
              cases named : header.keyId with
              | some keyId =>
                rw [named] at lacking missing
                exact .unidentified headed named answered lacking refetched missing
              | none =>
                rw [named] at lacking missing
                exact .unsuited headed named answered lacking refetched missing

theorem rotation (source : KeySource State) (algorithm : Algorithm) (url token : String)
    (state : State) :
    Rotation source algorithm url token state (callsOf (.keySet algorithm url) source token state)
      (verify (.keySet algorithm url) source token state).result
      (verify (.keySet algorithm url) source token state).state :=
  rotation_iff.mpr ⟨rfl, rfl, rfl⟩

end Cases

/-! ### Laws of the cases -/

section Laws

variable {source : KeySource State} {algorithm : Algorithm} {url token : String} {state : State}
  {header : Header}

/-- The set as it is known is asked for first, and a fresh one at most once after it. -/
theorem Rotation.calls_in_order {calls : List KeyCall} {result : Except JwtError Decoded} {left : State}
    (rotation : Rotation source algorithm url token state calls result left) :
    calls <+: [KeyCall.current url, .refresh url] := by
  cases rotation with
  | unreadable => exact List.nil_prefix
  | unavailable | known => exact List.prefix_append [KeyCall.current url] [.refresh url]
  | unrenewed | renewed | unidentified | unsuited => exact List.prefix_rfl

/-- **Where a source provides a key, the result is that of the key**, whatever else the sets hold. -/
theorem verify_eq_of_provides {jwk : Jwk} (headed : Token.header token = .ok header)
    (provides : Provides source url header.keyId algorithm state jwk) :
    (verify (.keySet algorithm url) source token state).result = verifyJwk algorithm jwk token := by
  cases provides with
  | known answered selected => rw [verify_of_selects headed answered selected]
  | refreshed answered lacking refetched selected =>
    rw [verify_of_lacks headed answered lacking]
    simp only [KeySource.renewed, KeySource.known, refetched, KeySet.find?_eq_some_iff.mpr selected]

/-- **Behind a set without the key, a token is checked as by a source that serves the fresh set at
once.** -/
theorem rotation_direct {set fresh : KeySet} (headed : Token.header token = .ok header)
    (answered : (source.known url state).result = .ok set)
    (lacking : set.Lacks header.keyId algorithm)
    (refetched : (source.renewed url state).result = .ok fresh)
    {Other : Type} {direct : KeySource Other} {other : Other}
    (served : (direct.known url other).result = .ok fresh)
    (servedAgain : (direct.renewed url other).result = .ok fresh) :
    (verify (.keySet algorithm url) source token state).result =
      (verify (.keySet algorithm url) direct token other).result := by
  rw [verify_of_lacks headed answered lacking, refetched]
  cases found : fresh.find? header.keyId algorithm with
  | some jwk =>
    rw [verify_of_selects headed served (KeySet.find?_eq_some_iff.mp found)]
    simp only [found]
  | none => rw [verify_of_lacks headed served (KeySet.find?_eq_none_iff.mp found), servedAgain]

end Laws

/-- **Every token is checked against at most two answers of the source**, the set as it is known and,
where that lacks the key, a fresh one. For every source, whatever it answers, and every token:

* the calls, the result and the state that is left are those of the one case that applies;
* all calls are for the client's URL, and at most one of them is for a fresh set;
* where the source provides a key, the first one of its set that matches, the result is that of the
  check under the key and depends on nothing else of the sets;
* where the first set lacks the key, the result is that of any source which serves the fresh set at
  once: a set without the key causes no rejection that the fresh one would not. -/
theorem key_rotation (source : KeySource State) (algorithm : Algorithm) (url token : String)
    (state : State) :
    let calls := callsOf (.keySet algorithm url) source token state
    let outcome := verify (.keySet algorithm url) source token state
    (∀ made result left, Rotation source algorithm url token state made result left ↔
      made = calls ∧ result = outcome.result ∧ left = outcome.state) ∧
    (∀ call ∈ calls, call.url = url) ∧ calls.count (.refresh url) ≤ 1 ∧
    (∀ header jwk, Token.header token = .ok header →
      Provides source url header.keyId algorithm state jwk →
      outcome.result = verifyJwk algorithm jwk token) ∧
    ∀ header set fresh, Token.header token = .ok header →
      (source.known url state).result = .ok set → set.Lacks header.keyId algorithm →
      (source.renewed url state).result = .ok fresh →
      ∀ {Other : Type} (direct : KeySource Other) (other : Other),
        (direct.known url other).result = .ok fresh → (direct.renewed url other).result = .ok fresh →
        outcome.result = (verify (.keySet algorithm url) direct token other).result := by
  intro calls outcome
  have made := (rotation source algorithm url token state).calls_in_order
  refine ⟨fun _ _ _ => rotation_iff, fun call member => ?_, ?_, fun _ _ => verify_eq_of_provides,
    fun _ _ _ headed answered lacking refetched _ _ _ => rotation_direct headed answered lacking
      refetched⟩
  · have listed := made.subset member
    simp only [List.mem_cons, List.not_mem_nil, or_false] at listed
    rcases listed with rfl | rfl <;> rfl
  · calc calls.count (.refresh url)
      _ ≤ [KeyCall.current url, .refresh url].count (.refresh url) := made.sublist.count_le _
      _ = 1 := by simp

end Verifier

end ClientAssertion
