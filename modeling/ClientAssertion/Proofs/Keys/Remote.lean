/-
**The cache of key sets holds the last successful fetches.**

* `Occurrence` is what happens to what is known of a URL, and `effectAt` what that does to it:
  exactly a successful fetch writes, exactly an invalidation or a clearance erases;
* `LatestFetch` says that a set was fetched with success and that nothing after that renewed or
  forgot it;
* `known_trace` ties the cache to that along every run, and `remoteKeys_refines_latest_fetch` says
  with it what every further command does.
-/

import ClientAssertion.Proofs.Keys.Transition

namespace ClientAssertion.RemoteKeys

variable {Network : Type}

/-! ### Occurrences -/

/-- What happens to what is known of a URL. -/
inductive Occurrence where
  | exchanged (time : Nat) (exchange : Exchange)
  | invalidated (url : String)
  | cleared

/-- The key set that an exchange fetched. -/
def Exchange.keys? (settings : RemoteSettings) (exchange : Exchange) : Option KeySet :=
  if isAllowed settings exchange.url then (keysOfReply settings exchange.reply).toOption else none

theorem Exchange.keys?_eq_some_iff {settings : RemoteSettings} {exchange : Exchange}
    {keys : KeySet} : exchange.keys? settings = some keys ↔ exchange.Succeeds settings keys := by
  have yields : (keysOfReply settings exchange.reply).toOption = some keys ↔
      Yields settings exchange.reply keys := by
    rw [← keysOfReply_eq_ok_iff]
    cases keysOfReply settings exchange.reply <;> simp [Except.toOption]
  unfold Exchange.keys?
  split_ifs with allowed
  · rw [yields]
    exact ⟨fun yields => ⟨isAllowed_iff.mp allowed, yields⟩, fun succeeds => succeeds.yields⟩
  · exact ⟨nofun, fun succeeds => absurd (isAllowed_iff.mpr succeeds.secure) allowed⟩

/-- What an occurrence does to what is known of a URL. -/
def effectAt (settings : RemoteSettings) (url : String) : Occurrence → Effect CachedKeys
  | .exchanged time exchange =>
    if exchange.url = url then
      match exchange.keys? settings with
      | some keys => .write ⟨keys, time⟩
      | none => .keep
    else .keep
  | .invalidated named => if named = url then .erase else .keep
  | .cleared => .erase

section Effects

variable {settings : RemoteSettings} {url : String} {occurrence : Occurrence}

theorem effectAt_exchanged_of_succeeds {time : Nat} {exchange : Exchange} {keys : KeySet}
    (succeeds : exchange.Succeeds settings keys) :
    effectAt settings exchange.url (.exchanged time exchange) = .write ⟨keys, time⟩ := by
  rw [effectAt, if_pos rfl, Exchange.keys?_eq_some_iff.mpr succeeds]

theorem effectAt_exchanged_of_fails {time : Nat} {exchange : Exchange}
    (fails : ∀ keys, ¬exchange.Succeeds settings keys) :
    effectAt settings url (.exchanged time exchange) = .keep := by
  have absent : exchange.keys? settings = none := by
    refine Option.eq_none_iff_forall_ne_some.mpr fun keys fetched => ?_
    exact fails keys (Exchange.keys?_eq_some_iff.mp fetched)
  rw [effectAt, absent]
  exact ite_self _

/-- **Exactly a successful fetch of a URL writes there**, its set and its time. -/
theorem effectAt_eq_write_iff {cached : CachedKeys} :
    effectAt settings url occurrence = .write cached ↔
      ∃ reply, occurrence = .exchanged cached.fetchedAt ⟨url, reply⟩ ∧
        Exchange.Succeeds settings ⟨url, reply⟩ cached.keys := by
  constructor
  · intro writes
    cases occurrence with
    | exchanged time exchange =>
      obtain ⟨named, reply⟩ := exchange
      by_cases same : named = url
      · subst same
        cases fetched : Exchange.keys? settings ⟨named, reply⟩ with
        | none =>
          rw [effectAt, if_pos rfl, fetched] at writes
          cases writes
        | some keys =>
          rw [effectAt, if_pos rfl, fetched] at writes
          obtain rfl := Effect.write.inj writes
          exact ⟨reply, rfl, Exchange.keys?_eq_some_iff.mp fetched⟩
      · rw [effectAt, if_neg same] at writes
        cases writes
    | invalidated named =>
      by_cases same : named = url
      · rw [effectAt, if_pos same] at writes
        cases writes
      · rw [effectAt, if_neg same] at writes
        cases writes
    | cleared => cases writes
  · rintro ⟨reply, rfl, succeeds⟩
    exact effectAt_exchanged_of_succeeds succeeds

/-- **Everything keeps what is known of a URL** but a loss of it and a successful fetch. -/
theorem effectAt_eq_keep_iff : effectAt settings url occurrence = .keep ↔
    occurrence ≠ .invalidated url ∧ occurrence ≠ .cleared ∧
      ∀ time reply keys, occurrence = .exchanged time ⟨url, reply⟩ →
        ¬Exchange.Succeeds settings ⟨url, reply⟩ keys := by
  constructor
  · intro keeps
    refine ⟨?_, ?_, ?_⟩
    · rintro rfl
      rw [effectAt, if_pos rfl] at keeps
      cases keeps
    · rintro rfl
      cases keeps
    · rintro time reply keys rfl succeeds
      rw [effectAt_exchanged_of_succeeds succeeds] at keeps
      cases keeps
  · rintro ⟨kept, uncleared, unfetched⟩
    cases occurrence with
    | exchanged time exchange =>
      obtain ⟨named, reply⟩ := exchange
      by_cases same : named = url
      · subst same
        exact effectAt_exchanged_of_fails fun keys => unfetched time reply keys rfl
      · rw [effectAt, if_neg same]
    | invalidated named =>
      by_cases same : named = url
      · subst same
        exact absurd rfl kept
      · rw [effectAt, if_neg same]
    | cleared => exact absurd rfl uncleared

end Effects

/-- **A set was the last one that was fetched from a URL**, at a time of which nothing since
renewed or forgot it. -/
def LatestFetch (settings : RemoteSettings) (occurrences : List Occurrence) (url : String)
    (cached : CachedKeys) : Prop :=
  ∃ before reply after,
    occurrences = before ++ .exchanged cached.fetchedAt ⟨url, reply⟩ :: after ∧
    Exchange.Succeeds settings ⟨url, reply⟩ cached.keys ∧
    ∀ later ∈ after, later ≠ .invalidated url ∧ later ≠ .cleared ∧
      ∀ time reply keys, later = .exchanged time ⟨url, reply⟩ →
        ¬Exchange.Succeeds settings ⟨url, reply⟩ keys

theorem writtenLast_iff_latestFetch (settings : RemoteSettings) (occurrences : List Occurrence)
    (url : String) (cached : CachedKeys) :
    WrittenLast (effectAt settings url) occurrences cached ↔
      LatestFetch settings occurrences url cached := by
  constructor
  · rintro ⟨before, writer, after, split, writes, kept⟩
    obtain ⟨reply, rfl, succeeds⟩ := effectAt_eq_write_iff.mp writes
    exact ⟨before, reply, after, split, succeeds,
      fun later member => effectAt_eq_keep_iff.mp (kept later member)⟩
  · rintro ⟨before, reply, after, split, succeeds, kept⟩
    exact ⟨before, _, after, split, effectAt_eq_write_iff.mpr ⟨reply, rfl, succeeds⟩,
      fun later member => effectAt_eq_keep_iff.mpr (kept later member)⟩

/-- What was last fetched from the URLs and not forgotten since. -/
def lastFetched (settings : RemoteSettings) (occurrences : List Occurrence) (url : String) :
    Option CachedKeys := latest (effectAt settings url) occurrences

/-! ### Runs -/

/-- A command after some nanoseconds. -/
structure Step where
  elapsed : Nat
  command : Command

/-- What a step came to. -/
structure Record where
  time : Nat
  command : Command
  exchanges : List Exchange
  answer : Answer

/-- What happened in a step. -/
def Record.occurrences (record : Record) : List Occurrence :=
  match record.command with
  | .current _ | .refresh _ => record.exchanges.map (.exchanged record.time)
  | .invalidate url => [.invalidated url]
  | .clear => [.cleared]

/-- One step. -/
def perform (settings : RemoteSettings) (transport : Transport Network) (step : Step)
    (remote : RemoteKeys Network) : Record × RemoteKeys Network :=
  let remote := remote.advance step.elapsed
  let (answer, next) := run settings transport remote step.command
  (⟨remote.clock, step.command, exchangesIn settings transport remote step.command, answer⟩, next)

theorem transition_perform (settings : RemoteSettings) (transport : Transport Network) (step : Step)
    (remote : RemoteKeys Network) :
    Transition settings transport (remote.clock + step.elapsed) remote.known remote.network
      step.command (perform settings transport step remote).1.exchanges
      (perform settings transport step remote).1.answer
      (perform settings transport step remote).2.known
      (perform settings transport step remote).2.network :=
  transition settings transport (remote.advance step.elapsed) step.command

theorem clock_perform (settings : RemoteSettings) (transport : Transport Network) (step : Step)
    (remote : RemoteKeys Network) :
    (perform settings transport step remote).2.clock = remote.clock + step.elapsed :=
  clock_run settings transport (remote.advance step.elapsed) step.command

theorem lastFetched_append_failed {settings : RemoteSettings} (occurrences : List Occurrence)
    (time : Nat) {exchanges : List Exchange}
    (failed : ∀ exchange ∈ exchanges, ∀ keys, ¬exchange.Succeeds settings keys) :
    lastFetched settings (occurrences ++ exchanges.map (.exchanged time)) =
      lastFetched settings occurrences := by
  funext url
  refine latest_append_keep _ _ fun occurrence member => ?_
  obtain ⟨exchange, exchanged, rfl⟩ := List.mem_map.mp member
  exact effectAt_exchanged_of_fails (failed exchange exchanged)

theorem lastFetched_concat_succeeds {settings : RemoteSettings} (occurrences : List Occurrence)
    (time : Nat) {exchange : Exchange} {keys : KeySet} (succeeds : exchange.Succeeds settings keys) :
    lastFetched settings (occurrences ++ [.exchanged time exchange]) =
      Function.update (lastFetched settings occurrences) exchange.url (some ⟨keys, time⟩) := by
  refine latest_concat_update (effectAt settings) occurrences _ (fun known => ?_)
    fun other apart => ?_
  · rw [effectAt_exchanged_of_succeeds succeeds]
    rfl
  · rw [effectAt, if_neg (Ne.symm apart)]

/-- **A transition from what was last fetched leads to what was last fetched.** -/
theorem Transition.lastFetched {settings : RemoteSettings} {transport : Transport Network} {now : Nat}
    {network left : Network} {command : Command} {exchanges : List Exchange} {answer : Answer}
    {next : String → Option CachedKeys} {occurrences : List Occurrence}
    (transition : Transition settings transport now (RemoteKeys.lastFetched settings occurrences)
      network command exchanges answer next left) :
    next = RemoteKeys.lastFetched settings
      (occurrences ++ (Record.mk now command exchanges answer).occurrences) := by
  cases transition with
  | fresh => exact (congrArg _ (List.append_nil occurrences)).symm
  | renewed _ fetch | refreshed fetch =>
    obtain ⟨reply, rfl, succeeds⟩ := (fetch.ok_iff _).mp rfl
    exact (lastFetched_concat_succeeds occurrences now succeeds).symm
  | served _ _ fetch | failed _ fetch | unrefreshed fetch =>
    exact (lastFetched_append_failed occurrences now (fetch.not_succeeds nofun)).symm
  | invalidated url =>
    refine (latest_concat_update (effectAt settings) occurrences _ (fun known => ?_)
      fun other apart => ?_).symm
    · rw [effectAt, if_pos rfl]
      rfl
    · rw [effectAt, if_neg (Ne.symm apart)]
  | cleared =>
    funext url
    exact (latest_concat (effectAt settings url) occurrences .cleared).symm

/-- **After every run a cache knows what was last fetched and not forgotten since**, none of it
fetched later than now. -/
theorem known_trace (settings : RemoteSettings) (transport : Transport Network) (network : Network)
    (steps : List Step) :
    let history := (trace (perform settings transport) steps (new network)).1
    let remote := (trace (perform settings transport) steps (new network)).2
    remote.known = lastFetched settings (history.flatMap Record.occurrences) ∧
      ∀ url cached, remote.known url = some cached → cached.fetchedAt ≤ remote.clock := by
  have nothing : ∀ url cached, (new network).known url = some cached →
      cached.fetchedAt ≤ (new network).clock := by
    intro url cached held
    have absent : (none : Option CachedKeys) = some cached := held
    cases absent
  refine trace_induction (perform settings transport) (fun history remote =>
    remote.known = lastFetched settings (history.flatMap Record.occurrences) ∧
      ∀ url cached, remote.known url = some cached → cached.fetchedAt ≤ remote.clock)
    ⟨rfl, nothing⟩ (fun history remote step hypothesis => ?_) steps
  obtain ⟨same, past⟩ := hypothesis
  have moved := transition_perform settings transport step remote
  refine ⟨?_, ?_⟩
  · rw [same] at moved
    rw [List.flatMap_append, List.flatMap_singleton]
    exact moved.lastFetched
  · rw [clock_perform]
    exact moved.fetchedAt_le fun url cached held =>
      Nat.le_trans (past url cached held) (Nat.le_add_right _ _)

/-- **The cache of key sets refines what was last fetched.** After every run from the empty cache,
over every network and by a clock that is never set back:

* a set is known of a URL with a time exactly when it was fetched then, and no later fetch of the
  URL succeeded and neither an invalidation nor a clearance followed; none is from the future;
* every further step is a `Transition` at the time to which the step moves the clock;
* it makes one request at most, to the URL that it names, and that only if it may be requested;
* it changes nothing at other URLs unless it forgets everything, and nothing at all where it asks
  for a set and no fetch succeeds;
* a set that it answers is the one that is known of the URL afterwards. -/
theorem remoteKeys_refines_latest_fetch (settings : RemoteSettings) (transport : Transport Network)
    (network : Network) (steps : List Step) :
    let history := (trace (perform settings transport) steps (new network)).1
    let remote := (trace (perform settings transport) steps (new network)).2
    (∀ url cached, remote.cache.get? url = some cached ↔
      LatestFetch settings (history.flatMap Record.occurrences) url cached) ∧
    (∀ url cached, remote.cache.get? url = some cached → cached.fetchedAt ≤ remote.clock) ∧
    ∀ step : Step,
      let record := (perform settings transport step remote).1
      let next := (perform settings transport step remote).2
      Transition settings transport (remote.clock + step.elapsed) remote.cache.get? remote.network
        step.command record.exchanges record.answer next.cache.get? next.network ∧
      record.time = remote.clock + step.elapsed ∧ next.clock = record.time ∧
      record.exchanges.length ≤ 1 ∧
      (∀ exchange ∈ record.exchanges, step.command.url? = some exchange.url ∧
        IsSecure settings exchange.url) ∧
      (∀ url, step.command ≠ .clear → step.command.url? ≠ some url →
        next.cache.get? url = remote.cache.get? url) ∧
      (step.command ≠ .clear → (∀ url, step.command ≠ .invalidate url) →
        (∀ exchange ∈ record.exchanges, ∀ keys, ¬exchange.Succeeds settings keys) →
        next.cache.get? = remote.cache.get?) ∧
      ∀ keys, record.answer = some (.ok keys) → ∃ url cached, step.command.url? = some url ∧
        next.cache.get? url = some cached ∧ cached.keys = keys := by
  intro history remote
  obtain ⟨same, past⟩ := known_trace settings transport network steps
  refine ⟨fun url cached => ?_, past, fun step => ?_⟩
  · show remote.known url = some cached ↔ _
    rw [same, lastFetched, latest_eq_some_iff, writtenLast_iff_latestFetch]
  · have moved := transition_perform settings transport step remote
    exact ⟨moved, rfl, clock_perform settings transport step remote, moved.exchanges_length_le_one,
      fun _ member => moved.of_mem_exchanges member, fun _ kept apart => moved.elsewhere kept apart,
      moved.unchanged,
      fun _ answered => moved.known_of_answer answered⟩

end ClientAssertion.RemoteKeys
