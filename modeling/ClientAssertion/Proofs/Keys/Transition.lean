/-
**Single commands to a cache of key sets.**

* `run` is a command to a cache, and `exchangesIn` what it exchanges with the server: the same
  command, run over a transport that keeps its exchanges;
* `Transition` says what one command may do, by the age of what is known and by the result of the
  one fetch that is made where that is too old;
* `transition`: every command does so.
-/

import ClientAssertion.Proofs.History
import ClientAssertion.Proofs.Keys.Fetch

namespace ClientAssertion.RemoteKeys

variable {Network : Type}

/-! ### Commands -/

/-- What a cache is told to do. -/
inductive Command where
  | current (url : String)
  | refresh (url : String)
  | invalidate (url : String)
  | clear
deriving DecidableEq

/-- The URL that a command names. -/
def Command.url? : Command → Option String
  | .current url | .refresh url | .invalidate url => some url
  | .clear => none

/-- What is answered to a command. -/
abbrev Answer := Option (Except AuthError KeySet)

/-- The answer to a command and the cache that it leaves. -/
def run (settings : RemoteSettings) (transport : Transport Network) (remote : RemoteKeys Network) :
    Command → Answer × RemoteKeys Network
  | .current url =>
    let answer := source settings transport (.current url) remote
    (some answer.result, answer.state)
  | .refresh url =>
    let answer := source settings transport (.refresh url) remote
    (some answer.result, answer.state)
  | .invalidate url => (none, remote.invalidate url)
  | .clear => (none, remote.clear)

/-- What a cache knows of the URLs. -/
def known (remote : RemoteKeys Network) : String → Option CachedKeys := remote.cache.get?

/-- The same cache over a network that keeps the exchanges. -/
def recorded (remote : RemoteKeys Network) : RemoteKeys (Network × List Exchange) :=
  ⟨remote.cache, remote.clock, remote.network, []⟩

/-- The exchanges of a command. -/
def exchangesIn (settings : RemoteSettings) (transport : Transport Network)
    (remote : RemoteKeys Network) (command : Command) : List Exchange :=
  (run settings (recording transport) remote.recorded command).2.network.2

/-! ### Single commands -/

/-- **One command to a cache that knows key sets.** A set that is young enough is answered without
a request. An older one is fetched anew, and serves on if that fails. -/
inductive Transition (settings : RemoteSettings) (transport : Transport Network) (now : Nat)
    (known : String → Option CachedKeys) (network : Network) :
    Command → List Exchange → Answer → (String → Option CachedKeys) → Network → Prop where
  | fresh {url : String} {cached : CachedKeys} (held : known url = some cached)
      (young : now - cached.fetchedAt < settings.timeToLive.nanoseconds) :
      Transition settings transport now known network (.current url) [] (some (.ok cached.keys))
        known network
  | renewed {url : String} {exchanges : List Exchange} {keys : KeySet} {left : Network}
      (old : ∀ cached, known url = some cached →
        settings.timeToLive.nanoseconds ≤ now - cached.fetchedAt)
      (fetch : Fetch settings transport url network exchanges (.ok keys) left) :
      Transition settings transport now known network (.current url) exchanges (some (.ok keys))
        (Function.update known url (some ⟨keys, now⟩)) left
  | served {url : String} {cached : CachedKeys} {exchanges : List Exchange} {error : AuthError}
      {left : Network} (held : known url = some cached)
      (old : settings.timeToLive.nanoseconds ≤ now - cached.fetchedAt)
      (fetch : Fetch settings transport url network exchanges (.error error) left) :
      Transition settings transport now known network (.current url) exchanges
        (some (.ok cached.keys)) known left
  | failed {url : String} {exchanges : List Exchange} {error : AuthError} {left : Network}
      (absent : known url = none)
      (fetch : Fetch settings transport url network exchanges (.error error) left) :
      Transition settings transport now known network (.current url) exchanges
        (some (.error error)) known left
  | refreshed {url : String} {exchanges : List Exchange} {keys : KeySet} {left : Network}
      (fetch : Fetch settings transport url network exchanges (.ok keys) left) :
      Transition settings transport now known network (.refresh url) exchanges (some (.ok keys))
        (Function.update known url (some ⟨keys, now⟩)) left
  | unrefreshed {url : String} {exchanges : List Exchange} {error : AuthError} {left : Network}
      (fetch : Fetch settings transport url network exchanges (.error error) left) :
      Transition settings transport now known network (.refresh url) exchanges
        (some (.error error)) known left
  | invalidated (url : String) :
      Transition settings transport now known network (.invalidate url) [] none
        (Function.update known url none) network
  | cleared : Transition settings transport now known network .clear [] none (fun _ => none) network

section Equations

variable {settings : RemoteSettings} {transport : Transport Network} {url : String}
  {remote : RemoteKeys Network} {left : Network} {keys : KeySet} {error : AuthError}

theorem fetchAndStore_of_ok
    (fetched : fetch settings transport url remote.network = (.ok keys, left)) :
    fetchAndStore settings transport url remote =
      (.ok keys, ⟨remote.cache.insert url ⟨keys, remote.clock⟩, remote.clock, left⟩) := by
  rw [fetchAndStore, fetched]

theorem fetchAndStore_of_error
    (fetched : fetch settings transport url remote.network = (.error error, left)) :
    fetchAndStore settings transport url remote =
      (.error error, ⟨remote.cache, remote.clock, left⟩) := by
  rw [fetchAndStore, fetched]

theorem fresh?_eq_some_iff : remote.fresh? settings url = some keys ↔
    ∃ cached, remote.known url = some cached ∧ cached.keys = keys ∧
      remote.clock - cached.fetchedAt < settings.timeToLive.nanoseconds := by
  unfold fresh? known
  cases held : remote.cache.get? url with
  | none => simp
  | some cached =>
    by_cases young : remote.clock - cached.fetchedAt < settings.timeToLive.nanoseconds
    · simp [young]
    · simp [young]

theorem old_of_fresh?_eq_none (stale : remote.fresh? settings url = none) :
    ∀ cached, remote.known url = some cached →
      settings.timeToLive.nanoseconds ≤ remote.clock - cached.fetchedAt := by
  intro cached held
  refine Nat.not_lt.mp fun young => ?_
  rw [fresh?_eq_some_iff.mpr ⟨cached, held, rfl, young⟩] at stale
  cases stale

theorem run_current_of_fresh (fresh : remote.fresh? settings url = some keys) :
    run settings transport remote (.current url) = (some (.ok keys), remote) := by
  simp only [run, source, current, fresh]

theorem run_current_of_ok (stale : remote.fresh? settings url = none)
    (fetched : fetch settings transport url remote.network = (.ok keys, left)) :
    run settings transport remote (.current url) =
      (some (.ok keys), ⟨remote.cache.insert url ⟨keys, remote.clock⟩, remote.clock, left⟩) := by
  simp only [run, source, current, stale, fetchAndStore_of_ok fetched]

theorem run_current_of_error (stale : remote.fresh? settings url = none)
    (fetched : fetch settings transport url remote.network = (.error error, left)) :
    run settings transport remote (.current url) =
      (some (match remote.known url with
        | some cached => .ok cached.keys
        | none => .error error), ⟨remote.cache, remote.clock, left⟩) := by
  simp only [run, source, current, stale, fetchAndStore_of_error fetched, known]
  cases remote.cache.get? url with
  | none => rfl
  | some cached => rfl

theorem run_refresh_of_ok
    (fetched : fetch settings transport url remote.network = (.ok keys, left)) :
    run settings transport remote (.refresh url) =
      (some (.ok keys), ⟨remote.cache.insert url ⟨keys, remote.clock⟩, remote.clock, left⟩) := by
  simp only [run, source, refresh, fetchAndStore_of_ok fetched]

theorem run_refresh_of_error
    (fetched : fetch settings transport url remote.network = (.error error, left)) :
    run settings transport remote (.refresh url) =
      (some (.error error), ⟨remote.cache, remote.clock, left⟩) := by
  simp only [run, source, refresh, fetchAndStore_of_error fetched]

/-- Keeping the exchanges leaves a fetch as it is. -/
theorem fetch_recorded {result : Except AuthError KeySet}
    (fetched : fetch settings transport url remote.network = (result, left)) :
    fetch settings (recording transport) url remote.recorded.network =
      (result, left, exchangesOf settings transport url remote.network) := by
  show fetch settings (recording transport) url (remote.network, []) = _
  rw [fetch_recording, fetched, List.nil_append]

theorem exchangesIn_current_of_fresh (fresh : remote.fresh? settings url = some keys) :
    exchangesIn settings transport remote (.current url) = [] := by
  have same : remote.recorded.fresh? settings url = some keys := fresh
  rw [exchangesIn, run_current_of_fresh same]
  rfl

theorem exchangesIn_current_of_old (stale : remote.fresh? settings url = none) :
    exchangesIn settings transport remote (.current url) =
      exchangesOf settings transport url remote.network := by
  have same : remote.recorded.fresh? settings url = none := stale
  rcases fetched : fetch settings transport url remote.network with ⟨error | keys, left⟩
  · rw [exchangesIn, run_current_of_error same (fetch_recorded fetched)]
  · rw [exchangesIn, run_current_of_ok same (fetch_recorded fetched)]

theorem exchangesIn_refresh (settings : RemoteSettings) (transport : Transport Network) (url : String)
    (remote : RemoteKeys Network) :
    exchangesIn settings transport remote (.refresh url) =
      exchangesOf settings transport url remote.network := by
  rcases fetched : fetch settings transport url remote.network with ⟨error | keys, left⟩
  · rw [exchangesIn, run_refresh_of_error (fetch_recorded fetched)]
  · rw [exchangesIn, run_refresh_of_ok (fetch_recorded fetched)]

end Equations

/-- No command takes time. -/
theorem clock_run (settings : RemoteSettings) (transport : Transport Network)
    (remote : RemoteKeys Network) (command : Command) :
    (run settings transport remote command).2.clock = remote.clock := by
  cases command with
  | current url =>
    cases fresh : remote.fresh? settings url with
    | some keys => rw [run_current_of_fresh fresh]
    | none =>
      rcases fetched : fetch settings transport url remote.network with ⟨error | keys, left⟩
      · rw [run_current_of_error fresh fetched]
      · rw [run_current_of_ok fresh fetched]
  | refresh url =>
    rcases fetched : fetch settings transport url remote.network with ⟨error | keys, left⟩
    · rw [run_refresh_of_error fetched]
    · rw [run_refresh_of_ok fetched]
  | invalidate | clear => rfl

/-- **Every command is a transition.** -/
theorem transition (settings : RemoteSettings) (transport : Transport Network)
    (remote : RemoteKeys Network) (command : Command) :
    Transition settings transport remote.clock remote.known remote.network command
      (exchangesIn settings transport remote command) (run settings transport remote command).1
      (run settings transport remote command).2.known
      (run settings transport remote command).2.network := by
  cases command with
  | current url =>
    cases fresh : remote.fresh? settings url with
    | some keys =>
      obtain ⟨cached, held, rfl, young⟩ := fresh?_eq_some_iff.mp fresh
      rw [run_current_of_fresh fresh, exchangesIn_current_of_fresh fresh]
      exact .fresh held young
    | none =>
      have old := old_of_fresh?_eq_none fresh
      have fetch := fetch_eq settings transport url remote.network
      rw [exchangesIn_current_of_old fresh]
      rcases fetched : RemoteKeys.fetch settings transport url remote.network with ⟨error | keys, left⟩
      · rw [fetched] at fetch
        rw [run_current_of_error fresh fetched]
        cases held : remote.known url with
        | none => exact .failed held fetch
        | some cached => exact .served held (old cached held) fetch
      · rw [fetched] at fetch
        rw [run_current_of_ok fresh fetched]
        simp only [known, Table.get?_insert_eq]
        exact .renewed old fetch
  | refresh url =>
    have fetch := fetch_eq settings transport url remote.network
    rw [exchangesIn_refresh]
    rcases fetched : RemoteKeys.fetch settings transport url remote.network with ⟨error | keys, left⟩
    · rw [fetched] at fetch
      rw [run_refresh_of_error fetched]
      exact .unrefreshed fetch
    · rw [fetched] at fetch
      rw [run_refresh_of_ok fetched]
      simp only [known, Table.get?_insert_eq]
      exact .refreshed fetch
  | invalidate url =>
    simp only [run, invalidate, known, Table.get?_erase_eq]
    exact .invalidated url
  | clear => exact .cleared

namespace Transition

variable {settings : RemoteSettings} {transport : Transport Network} {now : Nat}
  {known next : String → Option CachedKeys} {network left : Network} {command : Command}
  {exchanges : List Exchange} {answer : Answer}

theorem exchanges_eq_nil_or_fetch
    (transition : Transition settings transport now known network command exchanges answer next left) :
    exchanges = [] ∨ ∃ url result, command.url? = some url ∧
      Fetch settings transport url network exchanges result left := by
  cases transition with
  | fresh | invalidated | cleared => exact Or.inl rfl
  | renewed _ fetch | served _ _ fetch | failed _ fetch | refreshed fetch | unrefreshed fetch =>
    exact Or.inr ⟨_, _, rfl, fetch⟩

theorem exchanges_length_le_one
    (transition : Transition settings transport now known network command exchanges answer next left) :
    exchanges.length ≤ 1 := by
  rcases transition.exchanges_eq_nil_or_fetch with rfl | ⟨url, result, -, fetch⟩
  · exact Nat.zero_le 1
  · exact fetch.length_le_one

/-- Only the URL that a command names is requested, and only if it may be. -/
theorem of_mem_exchanges
    (transition : Transition settings transport now known network command exchanges answer next left)
    {exchange : Exchange} (member : exchange ∈ exchanges) :
    command.url? = some exchange.url ∧ IsSecure settings exchange.url := by
  rcases transition.exchanges_eq_nil_or_fetch with rfl | ⟨url, result, named, fetch⟩
  · cases member
  · obtain ⟨same, secure⟩ := fetch.of_mem member
    rw [same]
    exact ⟨named, secure⟩

/-- **Nothing is changed at a URL that a command does not name**, unless everything is forgotten. -/
theorem elsewhere
    (transition : Transition settings transport now known network command exchanges answer next left)
    (kept : command ≠ .clear) {url : String} (apart : command.url? ≠ some url) :
    next url = known url := by
  have different : ∀ {named}, some named ≠ some url → url ≠ named := fun ne same => ne (same ▸ rfl)
  cases transition with
  | fresh | served | failed | unrefreshed => rfl
  | renewed | refreshed | invalidated => exact Function.update_of_ne (different apart) _ _
  | cleared => exact absurd rfl kept

/-- **A failed fetch changes nothing.** -/
theorem unchanged
    (transition : Transition settings transport now known network command exchanges answer next left)
    (kept : command ≠ .clear) (held : ∀ url, command ≠ .invalidate url)
    (failed : ∀ exchange ∈ exchanges, ∀ keys, ¬exchange.Succeeds settings keys) : next = known := by
  cases transition with
  | fresh | served | failed | unrefreshed => rfl
  | renewed _ fetch | refreshed fetch =>
    obtain ⟨reply, rfl, succeeds⟩ := (fetch.ok_iff _).mp rfl
    exact absurd succeeds (failed _ (List.mem_singleton.mpr rfl) _)
  | invalidated url => exact absurd rfl (held url)
  | cleared => exact absurd rfl kept

/-- **A set that is answered is known afterwards.** -/
theorem known_of_answer {keys : KeySet}
    (transition : Transition settings transport now known network command exchanges answer next left)
    (answered : answer = some (.ok keys)) :
    ∃ url cached, command.url? = some url ∧ next url = some cached ∧ cached.keys = keys := by
  cases transition with
  | fresh held | served held =>
    exact ⟨_, _, rfl, held, Except.ok.inj (Option.some.inj answered)⟩
  | renewed | refreshed =>
    exact ⟨_, _, rfl, Function.update_self _ _ _, Except.ok.inj (Option.some.inj answered)⟩
  | failed | unrefreshed => cases answered
  | invalidated | cleared => cases answered

/-- No set is known to be fetched later than now. -/
theorem fetchedAt_le
    (transition : Transition settings transport now known network command exchanges answer next left)
    (past : ∀ url cached, known url = some cached → cached.fetchedAt ≤ now) :
    ∀ url cached, next url = some cached → cached.fetchedAt ≤ now := by
  have present : ∀ keys (cached : CachedKeys), some ⟨keys, now⟩ = some cached →
      cached.fetchedAt ≤ now := by
    intro keys cached same
    obtain rfl := Option.some.inj same
    exact Nat.le_refl now
  cases transition with
  | fresh | served | failed | unrefreshed => exact past
  | renewed | refreshed => exact holds_update past (present _)
  | invalidated => exact holds_update past nofun
  | cleared => exact nofun

end Transition

end ClientAssertion.RemoteKeys
