/-
**A key server that fails locks no client out.**

Once a token was accepted under a key from the server, the set with that key is in the cache.  It
stays there as long as no fetch of its URL succeeds and nobody forgets it, and a set that is known
serves whether it is young or old.

* `delayed` is the cache as a source whose calls come after some time each, and `Visit` is one use of
  it: a call, the check of any token by any verifier, or a loss of what is known;
* `Visit.forget_leave`: the exchanges of a visit can be kept without a change to anything else, and
  `exchangesDuring` are those of many;
* `Stands` says that a set is known of a URL unless a fetch of the URL succeeded, and
  `stands_visits` that it outlasts every run without a loss;
* `known_of_accepted`: behind an accepted token, a set is known that has its key;
* `outage_locks_nobody_out`: so the token is accepted after every such run, without a fresh set.
-/

import ClientAssertion.Proofs.Keys.Transition
import ClientAssertion.Proofs.Verifier.Rotation

namespace ClientAssertion

/-! ### Checks and the states of their source -/

namespace Verifier

variable {State Other : Type}

/-- Every check is one of the cases of a search for a key. -/
theorem exists_rotation (source : KeySource State) (algorithm : Algorithm) (url token : String)
    (state : State) :
    ∃ calls result left, Rotation source algorithm url token state calls result left ∧
      (verify (.keySet algorithm url) source token state).result = result ∧
      (verify (.keySet algorithm url) source token state).state = left :=
  ⟨_, _, _, rotation source algorithm url token state, rfl, rfl⟩

/-- **A law that every answer of a source keeps is kept by every check of a token.** -/
theorem verify_preserves {source : KeySource State} {law : State → Prop}
    (kept : ∀ call state, law state → law (source call state).state) (verifier : Verifier)
    (token : String) {state : State} (holds : law state) :
    law (verifier.verify source token state).state := by
  cases verifier with
  | mac => exact holds
  | keySet algorithm url =>
    -- a check ends behind no call, behind the first or behind the second
    have first : law (source.known url state).state := kept _ _ holds
    have second : law (source.renewed url state).state := kept _ _ first
    obtain ⟨_, _, left, cases, -, ends⟩ := exists_rotation source algorithm url token state
    rw [ends]
    cases cases with
    | unreadable => exact holds
    | unavailable | known => exact first
    | unrenewed | renewed | unidentified | unsuited => exact second

/-- **Sources that answer alike, each by its own states, check alike.** -/
theorem verify_view {source : KeySource State} {other : KeySource Other} {view : State → Other}
    (alike : ∀ call state, other call (view state) =
      ⟨(source call state).result, (source call state).events, view (source call state).state⟩)
    (verifier : Verifier) (token : String) (state : State) :
    verifier.verify other token (view state) =
      let outcome := verifier.verify source token state
      ⟨outcome.result, outcome.calls, outcome.events, view outcome.state⟩ := by
  cases verifier with
  | mac => rfl
  | keySet algorithm url =>
    cases headed : Token.header token with
    | error flaw => simp only [verify, headed]
    | ok header =>
      simp only [verify, headed, verifyPublished, alike]
      cases (source (.current url) state).result with
      | error error => rfl
      | ok set =>
        simp only
        cases set.find? header.keyId algorithm with
        | some jwk => rfl
        | none => simp only [verifyRefreshed, alike]

end Verifier

namespace RemoteKeys

variable {Network : Type}

/-! ### Uses of a cache -/

/-- The cache as a source of keys whose calls come after some time each. -/
def delayed (settings : RemoteSettings) (transport : Transport Network) (delay : KeyCall → Nat) :
    KeySource (RemoteKeys Network) := fun call remote =>
  source settings transport call (remote.advance (delay call))

/-- What a cache is used for. -/
inductive Use where
  | call (call : KeyCall)
  | check (verifier : Verifier) (token : String)
  | invalidate (url : String)
  | clear
deriving DecidableEq

/-- A use of a cache, and how long after the last call each of its own calls comes. -/
structure Visit where
  use : Use
  delay : KeyCall → Nat

/-- A use loses what is known of a URL. -/
def Use.Loses (url : String) (use : Use) : Prop := use = .invalidate url ∨ use = .clear

/-- The cache that a visit leaves. -/
def Visit.leave (settings : RemoteSettings) (transport : Transport Network)
    (remote : RemoteKeys Network) (visit : Visit) : RemoteKeys Network :=
  match visit.use with
  | .call call => (delayed settings transport visit.delay call remote).state
  | .check verifier token =>
    (verifier.verify (delayed settings transport visit.delay) token remote).state
  | .invalidate url => remote.invalidate url
  | .clear => remote.clear

/-- The cache that visits leave, one after the other. -/
def leaveAll (settings : RemoteSettings) (transport : Transport Network) (visits : List Visit)
    (remote : RemoteKeys Network) : RemoteKeys Network :=
  visits.foldl (Visit.leave settings transport) remote

/-- All exchanges that visits make with the server. -/
def exchangesDuring (settings : RemoteSettings) (transport : Transport Network)
    (visits : List Visit) (remote : RemoteKeys Network) : List Exchange :=
  (leaveAll settings (recording transport) visits remote.recorded).network.2

/-! ### Keeping the exchanges -/

/-- A cache whose network keeps the exchanges, without them. -/
def forget (remote : RemoteKeys (Network × List Exchange)) : RemoteKeys Network :=
  ⟨remote.cache, remote.clock, remote.network.1⟩

section Forget

variable (settings : RemoteSettings) (transport : Transport Network)

theorem fetchAndStore_forget (url : String) (remote : RemoteKeys (Network × List Exchange)) :
    fetchAndStore settings transport url remote.forget =
      ((fetchAndStore settings (recording transport) url remote).1,
        (fetchAndStore settings (recording transport) url remote).2.forget) := by
  obtain ⟨cache, clock, network, log⟩ := remote
  simp only [fetchAndStore, forget, fetch_recording]
  cases (fetch settings transport url network).1 with
  | error error => rfl
  | ok keys => rfl

/-- **Keeping the exchanges leaves all answers as they are.** -/
theorem delayed_forget (delay : KeyCall → Nat) (call : KeyCall)
    (remote : RemoteKeys (Network × List Exchange)) :
    delayed settings transport delay call remote.forget =
      let answer := delayed settings (recording transport) delay call remote
      ⟨answer.result, answer.events, answer.state.forget⟩ := by
  have moved : remote.forget.advance (delay call) = (remote.advance (delay call)).forget := rfl
  simp only [delayed, moved]
  generalize remote.advance (delay call) = later
  cases call with
  | current url =>
    have same : later.forget.fresh? settings url = later.fresh? settings url := rfl
    simp only [source, current, same, fetchAndStore_forget]
    cases later.fresh? settings url with
    | some keys => rfl
    | none =>
      rcases fetchAndStore settings (recording transport) url later with ⟨error | keys, left⟩
      · have held : left.forget.cache.get? url = left.cache.get? url := rfl
        simp only [held]
        cases left.cache.get? url with
        | none => rfl
        | some cached => rfl
      · rfl
  | refresh url =>
    simp only [source, refresh, fetchAndStore_forget]
    rcases fetchAndStore settings (recording transport) url later with ⟨error | keys, left⟩
    · rfl
    · rfl

theorem Visit.forget_leave (visit : Visit) (remote : RemoteKeys (Network × List Exchange)) :
    (visit.leave settings (recording transport) remote).forget =
      visit.leave settings transport remote.forget := by
  obtain ⟨use, delay⟩ := visit
  cases use with
  | call call => simp only [leave, delayed_forget]
  | check verifier token =>
    simp only [leave, Verifier.verify_view (delayed_forget settings transport delay)]
  | invalidate url => rfl
  | clear => rfl

theorem forget_leaveAll (visits : List Visit) (remote : RemoteKeys (Network × List Exchange)) :
    (leaveAll settings (recording transport) visits remote).forget =
      leaveAll settings transport visits remote.forget := by
  induction visits generalizing remote with
  | nil => rfl
  | cons visit visits hypothesis =>
    simp only [leaveAll, List.foldl_cons] at hypothesis ⊢
    rw [hypothesis, Visit.forget_leave]

end Forget

/-! ### A set stands until a fetch succeeds -/

section Standing

variable {settings : RemoteSettings} {transport : Transport Network} {url : String}
  {cached : CachedKeys}

/-- The command that a call gives to a cache. -/
def commandOf : KeyCall → Command
  | .current url => .current url
  | .refresh url => .refresh url

theorem transition_delayed (settings : RemoteSettings) (transport : Transport Network)
    (delay : KeyCall → Nat) (call : KeyCall) (remote : RemoteKeys Network) :
    ∃ now exchanges, Transition settings transport now remote.known remote.network (commandOf call)
      exchanges (some (delayed settings transport delay call remote).result)
      (delayed settings transport delay call remote).state.known
      (delayed settings transport delay call remote).state.network := by
  cases call with
  | current => exact ⟨_, _, transition settings transport (remote.advance _) _⟩
  | refresh => exact ⟨_, _, transition settings transport (remote.advance _) _⟩

/-- One of the exchanges fetched a set from a URL. -/
def Renewed (settings : RemoteSettings) (url : String) (exchanges : List Exchange) : Prop :=
  ∃ exchange ∈ exchanges, exchange.url = url ∧ ∃ keys, exchange.Succeeds settings keys

/-- A set is known of a URL, unless a kept exchange fetched one from there. -/
def Stands (settings : RemoteSettings) (url : String) (cached : CachedKeys)
    (remote : RemoteKeys (Network × List Exchange)) : Prop :=
  remote.known url = some cached ∨ Renewed settings url remote.network.2

theorem Renewed.append {exchanges : List Exchange} (renewed : Renewed settings url exchanges)
    (more : List Exchange) : Renewed settings url (exchanges ++ more) := by
  obtain ⟨exchange, member, named, succeeds⟩ := renewed
  exact ⟨exchange, List.mem_append_left more member, named, succeeds⟩

theorem Fetch.log {network left : Network × List Exchange} {exchanges : List Exchange}
    {result : Except AuthError KeySet}
    (fetch : Fetch settings (recording transport) url network exchanges result left) :
    left.2 = network.2 ++ exchanges := by
  cases fetch with
  | refused => exact (List.append_nil _).symm
  | replied => rfl

/-- A fetch with a result is kept as the exchange that fetched it. -/
theorem Fetch.renewed {network left : Network × List Exchange} {exchanges : List Exchange}
    {keys : KeySet}
    (fetch : Fetch settings (recording transport) url network exchanges (.ok keys) left) :
    Renewed settings url left.2 := by
  obtain ⟨reply, rfl, succeeds⟩ := (fetch.ok_iff keys).mp rfl
  rw [fetch.log]
  exact ⟨_, List.mem_append_right _ (List.mem_singleton.mpr rfl), rfl, keys, succeeds⟩

section Transitions

variable {now : Nat} {known next : String → Option CachedKeys}
  {network left : Network × List Exchange} {command : Command} {exchanges : List Exchange}
  {answer : Answer}

theorem Transition.log
    (transition : Transition settings (recording transport) now known network command exchanges
      answer next left) : left.2 = network.2 ++ exchanges := by
  cases transition with
  | fresh | invalidated | cleared => exact (List.append_nil _).symm
  | renewed _ fetch | served _ _ fetch | failed _ fetch | refreshed fetch | unrefreshed fetch =>
    exact fetch.log

/-- **What is known of a URL changes by a loss or by a fetch that succeeds.** -/
theorem Transition.stands
    (transition : Transition settings (recording transport) now known network command exchanges
      answer next left)
    (held : command ≠ .invalidate url) (kept : command ≠ .clear)
    (stands : known url = some cached ∨ Renewed settings url network.2) :
    next url = some cached ∨ Renewed settings url left.2 := by
  rcases stands with same | renewed
  · cases transition with
    | fresh | served | failed | unrefreshed => exact Or.inl same
    | @renewed named _ _ _ _ fetch | @refreshed named _ _ _ fetch =>
      by_cases here : url = named
      · subst here
        exact Or.inr fetch.renewed
      · exact Or.inl ((Function.update_of_ne here _ _).trans same)
    | invalidated named =>
      have apart : url ≠ named := fun here => held (here ▸ rfl)
      exact Or.inl ((Function.update_of_ne apart _ _).trans same)
    | cleared => exact absurd rfl kept
  · exact Or.inr (transition.log ▸ renewed.append exchanges)

/-- **A set that is known is answered**, whatever its age, unless a fetch succeeds. -/
theorem Transition.answers
    (transition : Transition settings (recording transport) now known network (.current url)
      exchanges answer next left)
    (held : known url = some cached) :
    answer = some (.ok cached.keys) ∨ Renewed settings url left.2 := by
  cases transition with
  | fresh found | served found =>
    obtain rfl := Option.some.inj (held.symm.trans found)
    exact Or.inl rfl
  | renewed _ fetch => exact Or.inr fetch.renewed
  | failed absent =>
    rw [held] at absent
    cases absent

end Transitions

theorem stands_delayed (delay : KeyCall → Nat) (call : KeyCall)
    (remote : RemoteKeys (Network × List Exchange)) (stands : Stands settings url cached remote) :
    Stands settings url cached (delayed settings (recording transport) delay call remote).state := by
  obtain ⟨_, _, moved⟩ := transition_delayed settings (recording transport) delay call remote
  cases call with
  | current | refresh => exact moved.stands nofun nofun stands

theorem renewed_delayed (transport : Transport Network) (delay : KeyCall → Nat) (call : KeyCall)
    (remote : RemoteKeys (Network × List Exchange))
    (renewed : Renewed settings url remote.network.2) :
    Renewed settings url
      (delayed settings (recording transport) delay call remote).state.network.2 := by
  obtain ⟨_, _, moved⟩ := transition_delayed settings (recording transport) delay call remote
  rw [moved.log]
  exact renewed.append _

/-- A visit keeps a set standing, unless it loses it. -/
theorem stands_leave {visit : Visit} (kept : ¬visit.use.Loses url)
    {remote : RemoteKeys (Network × List Exchange)} (stands : Stands settings url cached remote) :
    Stands settings url cached (visit.leave settings (recording transport) remote) := by
  obtain ⟨use, delay⟩ := visit
  cases use with
  | call call => exact stands_delayed delay call remote stands
  | check verifier token => exact Verifier.verify_preserves (stands_delayed delay) verifier token stands
  | invalidate named =>
    have moved := transition settings (recording transport) remote (.invalidate named)
    refine moved.stands (fun same => kept (Or.inl ?_)) nofun stands
    rw [Command.invalidate.inj same]
  | clear => exact absurd (Or.inr rfl) kept

/-- **A set stands along every run without a loss.** -/
theorem stands_visits {visits : List Visit} (kept : ∀ visit ∈ visits, ¬visit.use.Loses url)
    {remote : RemoteKeys (Network × List Exchange)} (stands : Stands settings url cached remote) :
    Stands settings url cached (leaveAll settings (recording transport) visits remote) := by
  induction visits generalizing remote with
  | nil => exact stands
  | cons visit visits hypothesis =>
    exact hypothesis (fun later member => kept later (List.mem_cons_of_mem _ member))
      (stands_leave (kept visit List.mem_cons_self) stands)

/-! ### Tokens and their keys -/

variable {algorithm : Algorithm} {token : String} {decoded : Decoded} {delay : KeyCall → Nat}

/-- A set that the cache answers is known of the URL behind the answer. -/
theorem known_of_delayed {call : KeyCall} {remote : RemoteKeys Network} {keys : KeySet}
    (answered : (delayed settings transport delay call remote).result = .ok keys) :
    ∃ cached, (delayed settings transport delay call remote).state.known call.url = some cached ∧
      cached.keys = keys := by
  obtain ⟨_, _, moved⟩ := transition_delayed settings transport delay call remote
  obtain ⟨named, cached, same, held, carries⟩ := moved.known_of_answer (congrArg some answered)
  have here : call.url = named := by
    cases call with
    | current | refresh => exact Option.some.inj same
  exact ⟨cached, by rw [here]; exact held, carries⟩

/-- **Behind an accepted token, a set is known with the key that the token was accepted under.** -/
theorem known_of_accepted {remote : RemoteKeys Network}
    (accepted : ((Verifier.keySet algorithm url).verify (delayed settings transport delay) token
      remote).result = .ok decoded) :
    ∃ header cached jwk, Token.header token = .ok header ∧
      ((Verifier.keySet algorithm url).verify (delayed settings transport delay) token
        remote).state.known url = some cached ∧
      cached.keys.Selects header.keyId algorithm jwk ∧
      Verifier.verifyJwk algorithm jwk token = .ok decoded := by
  obtain ⟨_, result, left, cases, same, ends⟩ :=
    Verifier.exists_rotation (delayed settings transport delay) algorithm url token remote
  rw [ends]
  rw [accepted] at same
  -- only two of the cases end with a key, the others with an error
  cases cases with
  | known headed answered selected =>
    obtain ⟨cached, held, rfl⟩ := known_of_delayed answered
    exact ⟨_, cached, _, headed, held, selected, same.symm⟩
  | renewed headed _ _ refetched selected =>
    obtain ⟨cached, held, rfl⟩ := known_of_delayed refetched
    exact ⟨_, cached, _, headed, held, selected, same.symm⟩
  | unreadable | unavailable | unrenewed | unidentified | unsuited => cases same

/-- **A token whose key is in a set that is known is checked under it**, and by the one call for the
set as it is known, unless a fetch succeeds. -/
theorem verify_of_stands (transport : Transport Network) (delay : KeyCall → Nat)
    {header : Header} {jwk : Jwk}
    {remote : RemoteKeys (Network × List Exchange)} (headed : Token.header token = .ok header)
    (stands : Stands settings url cached remote)
    (selected : cached.keys.Selects header.keyId algorithm jwk) :
    let outcome := (Verifier.keySet algorithm url).verify
      (delayed settings (recording transport) delay) token remote
    outcome.result = Verifier.verifyJwk algorithm jwk token ∧ outcome.calls = [.current url] ∨
      Renewed settings url outcome.state.network.2 := by
  intro outcome
  have grows : Renewed settings url remote.network.2 →
      Renewed settings url outcome.state.network.2 :=
    Verifier.verify_preserves (renewed_delayed transport delay) _ token
  rcases stands with held | renewed
  · obtain ⟨_, _, moved⟩ :=
      transition_delayed settings (recording transport) delay (.current url) remote
    rcases moved.answers held with answered | renewed
    · have same : outcome = _ := Verifier.verify_of_selects headed (Option.some.inj answered) selected
      rw [same]
      exact Or.inl ⟨rfl, rfl⟩
    · -- the first call has fetched, and every end of the check lies behind it
      have again := renewed_delayed transport delay (.refresh url) _ renewed
      refine Or.inr ?_
      obtain ⟨_, _, left, cases, -, ends⟩ := Verifier.exists_rotation
        (delayed settings (recording transport) delay) algorithm url token remote
      rw [show outcome.state = left from ends]
      cases cases with
      | unreadable failed => cases headed.symm.trans failed
      | unavailable | known => exact renewed
      | unrenewed | renewed | unidentified | unsuited => exact again
  · exact Or.inr (grows renewed)

end Standing

/-- **A key server that fails locks no client out.** A token that was accepted under the keys of a URL
is accepted after every run of calls for key sets and checks of tokens, for this URL and others and
after any times, in which what is known of the URL is not forgotten and no fetch of it succeeds. Its
header and its claims are the same, and the check makes no call but the first. -/
theorem outage_locks_nobody_out {settings : RemoteSettings} {transport : Transport Network}
    {algorithm : Algorithm} {url token : String} {decoded : Decoded} {first again : KeyCall → Nat}
    {remote left : RemoteKeys Network} {visits : List Visit}
    (accepted : ((Verifier.keySet algorithm url).verify (delayed settings transport first) token
      remote).result = .ok decoded)
    (leaves : ((Verifier.keySet algorithm url).verify (delayed settings transport first) token
      remote).state = left)
    (kept : ∀ visit ∈ visits, ¬visit.use.Loses url)
    (outage : ∀ exchange ∈ exchangesDuring settings transport
        (visits ++ [⟨.check (.keySet algorithm url) token, again⟩]) left,
      exchange.url = url → ∀ keys, ¬exchange.Succeeds settings keys) :
    let outcome := (Verifier.keySet algorithm url).verify (delayed settings transport again) token
      (leaveAll settings transport visits left)
    outcome.result = .ok decoded ∧ outcome.calls = [.current url] := by
  intro outcome
  obtain ⟨header, cached, jwk, headed, held, selected, verified⟩ := known_of_accepted accepted
  rw [leaves] at held
  -- the same run, with its exchanges
  have stands : Stands settings url cached
      (leaveAll settings (recording transport) visits left.recorded) :=
    stands_visits kept (Or.inl held)
  have checked := verify_of_stands transport again headed stands selected
  have unrenewed : ¬Renewed settings url ((Verifier.keySet algorithm url).verify
      (delayed settings (recording transport) again) token
      (leaveAll settings (recording transport) visits left.recorded)).state.network.2 := by
    rintro ⟨exchange, member, named, keys, succeeds⟩
    refine outage exchange ?_ named keys succeeds
    rw [exchangesDuring, leaveAll, List.foldl_append]
    exact member
  obtain ⟨result, calls⟩ := checked.resolve_right unrenewed
  -- and without them
  have same := Verifier.verify_view (delayed_forget settings transport again)
    (.keySet algorithm url) token (leaveAll settings (recording transport) visits left.recorded)
  rw [forget_leaveAll] at same
  have view : outcome = _ := same
  rw [view]
  exact ⟨result.trans verified, calls⟩

section Unreachable

/-- A key set with one short key. -/
def shortKeys : Bytes := .ofText ("\x7b\"keys\":[\x7b\"kty\":\"RSA\",\"e\":\"Aw\",\"n\":\"" ++
  "utSzuzcfUxIEFpd03vPiFjWMDBisGWjjtoEGmqwJzQl5zU5jCXqhcuV5jnk1IyLQ9jfEagV7LbJI0MFD7gwMkQ\"\x7d]\x7d")

/-- A token without claims, signed under the short key. -/
def shortToken : String := "eyJhbGciOiJSUzI1NiJ9.e30." ++
  "DQf95E4xh_aC6D5bqHAhP8fVXeWpKzz0m1IYgb10HsbEbFxodZ7ihie0yM_tsnDWkHQM9CCcFljQST2l83cW2w"

/-- A server that serves a set once and cannot be reached afterwards. -/
def servesOnce (keys : Bytes) : Transport Bool := fun _ served =>
  (if served then .unreachable else .response 200 none (some keys), true)

/-- A check of a token against the server's keys, two hours after what was before. -/
def checkLater (token : String) : Visit :=
  ⟨.check (.keySet .rs256 "https://client.example.com/jwks") token, fun _ => 7200000000000⟩

/-- What the check of the token under the short key comes to. -/
def shortOutcome (delay : KeyCall → Nat) (remote : RemoteKeys Bool) :
    Verifier.Outcome (RemoteKeys Bool) :=
  (Verifier.keySet .rs256 "https://client.example.com/jwks").verify
    (delayed {} (servesOnce shortKeys) delay) shortToken remote

/-- While its server cannot be reached, a token is accepted as before, also behind another one that
names a key which the known set lacks. -/
theorem outage_locks_nobody_out_unreachable : ∃ decoded,
    (shortOutcome (fun _ => 0) (new false)).result = .ok decoded ∧
      (shortOutcome (checkLater shortToken).delay (leaveAll {} (servesOnce shortKeys)
        [checkLater "eyJhbGciOiJSUzI1NiIsImtpZCI6ImsyIn0.e30."]
        (shortOutcome (fun _ => 0) (new false)).state)).result = .ok decoded := by
  obtain ⟨decoded, accepted⟩ :
      ∃ decoded, (shortOutcome (fun _ => 0) (new false)).result = .ok decoded := by
    have isOk : (shortOutcome (fun _ => 0) (new false)).result.toBool = true := by decide +kernel
    generalize (shortOutcome (fun _ => 0) (new false)).result = result at isOk
    cases result with
    | error error => cases isOk
    | ok decoded => exact ⟨decoded, rfl⟩
  have exchanged : exchangesDuring {} (servesOnce shortKeys)
      ([checkLater "eyJhbGciOiJSUzI1NiIsImtpZCI6ImsyIn0.e30."] ++ [checkLater shortToken])
      (shortOutcome (fun _ => 0) (new false)).state =
        List.replicate 3 ⟨"https://client.example.com/jwks", .unreachable⟩ := by
    decide +kernel
  have kept : ∀ visit ∈ [checkLater "eyJhbGciOiJSUzI1NiIsImtpZCI6ImsyIn0.e30."],
      ¬visit.use.Loses "https://client.example.com/jwks" := by
    intro visit member
    obtain rfl := List.mem_singleton.mp member
    simp [Use.Loses, checkLater]
  refine ⟨decoded, accepted, (outage_locks_nobody_out accepted rfl kept ?_).1⟩
  intro exchange member _ keys succeeds
  have unreachable : exchange ∈
      List.replicate 3 ⟨"https://client.example.com/jwks", .unreachable⟩ := exchanged ▸ member
  obtain rfl := List.eq_of_mem_replicate unreachable
  cases succeeds.yields

end Unreachable

end RemoteKeys

end ClientAssertion
