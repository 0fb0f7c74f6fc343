/-
**What was saved is loaded again.**

Registrations, requests, claims and authorizations are kept as JSON texts, indented or without
blanks, which people edit: a file may hold its members in any order, with unknown ones among them,
with `null` for what is absent, without what has a default, or as a list.  The maps of a value are
written in whichever order their entries come out, which need not be the same the next time.

* `Survives`: a value is loaded again from both texts that are saved of it, and from their document;
* `Settles`: whatever document a value was read from, it survives being saved, and what is loaded
  then is saved as the same text;
* `SettlesInAnyOrder`: so it is with maps in any order, and what is saved in two orders differs in
  nothing else;
* `saved_documents_survive`: all values that can be read survive, and all their documents settle;
* `settings_survive`: so do the settings of the server, with spans of any length, and they are as
  valid as before.
-/

import ClientAssertion.Proofs.Saved.Authorization
import ClientAssertion.Proofs.Saved.Claims
import ClientAssertion.Proofs.Saved.Client
import ClientAssertion.Proofs.Saved.Settings

namespace ClientAssertion

variable {α : Type}

/-- The value that is loaded from a text. -/
def load? (read : Json → Option α) (text : String) : Option α := (Json.ofText? text).bind read

/-- A value is loaded again from what is saved of it. -/
structure Survives (read : Json → Option α) (write : α → Json) (value : α) : Prop where
  document : read (write value) = some value
  compact : load? read (write value).compact = some value
  pretty : load? read (write value).pretty = some value

/-- A document is settled once it is loaded and saved: what was read of it survives, and what is
loaded of either text is saved as this text again. -/
def Settles (read : Json → Option α) (write : α → Json) : Prop :=
  ∀ document value, read document = some value → Survives read write value ∧
    ∀ layout ∈ [Json.compact, Json.pretty],
      (load? read (layout (write value))).map (fun again => layout (write again)) =
        some (layout (write value))

/-- A document is settled in whichever order its maps are saved: as `Settles` has it where their
entries come out in one order, and where they come out in another one the next time, what is saved of
the value that is loaded is the same up to the order of members. -/
def SettlesInAnyOrder (read : Json → Option α) (write : Arrangement Json → α → Json) : Prop :=
  ∀ first : Arrangement Json, Settles read (write first) ∧
    ∀ document value, read document = some value → ∀ layout ∈ [Json.compact, Json.pretty],
      ∃ again, load? read (layout (write first value)) = some again ∧
        ∀ second : Arrangement Json, Json.Alike (write first value) (write second again)

section Lossless

variable {read : Json → Option α} {write : α → Json} {Storable : α → Prop}

theorem Json.Lossless.survives (lossless : Json.Lossless read write Storable) {value : α}
    (storable : Storable value) : Survives read write value := by
  have back := lossless.read_write value storable
  have writable := lossless.writable value
  refine ⟨back, ?_, ?_⟩
  · rw [load?, Json.ofText?_compact writable, Option.bind_some, back]
  · rw [load?, Json.ofText?_pretty writable, Option.bind_some, back]

theorem Json.Lossless.settles (lossless : Json.Lossless read write Storable) :
    Settles read write := by
  intro document value isRead
  have survives := lossless.survives (lossless.storable document value isRead)
  refine ⟨survives, List.forall_mem_cons.mpr ⟨?_, List.forall_mem_singleton.mpr ?_⟩⟩
  · rw [survives.compact, Option.map_some]
  · rw [survives.pretty, Option.map_some]

theorem settlesInAnyOrder {write : Arrangement Json → α → Json}
    (lossless : ∀ arrangement, Json.Lossless read (write arrangement) Storable)
    (alike : ∀ first second value, Json.Alike (write first value) (write second value)) :
    SettlesInAnyOrder read write := by
  refine fun first => ⟨(lossless first).settles, fun document value isRead => ?_⟩
  have survives := (lossless first).survives ((lossless first).storable document value isRead)
  exact List.forall_mem_cons.mpr ⟨⟨value, survives.compact, fun second => alike first second value⟩,
    List.forall_mem_singleton.mpr ⟨value, survives.pretty, fun second => alike first second value⟩⟩

end Lossless

/-- **What was saved is loaded again.**  Every registration and every request survives, as do claims
whose times fit into 64 bits and authorizations whose tokens have times with years of four digits,
these to the nanosecond and with their offsets.  The further parameters of a request and the tokens
of an authorization may come out in any order.  Claims and authorizations that were read are such, so
that every document of these kinds settles. -/
theorem saved_documents_survive :
    ((∀ client, Survives Client.ofJson? Client.toJson client) ∧
        Settles Client.ofJson? Client.toJson) ∧
      ((∀ arrangement request,
          Survives AuthorizationRequest.ofJson? (AuthorizationRequest.toJson arrangement) request) ∧
        SettlesInAnyOrder AuthorizationRequest.ofJson? AuthorizationRequest.toJson) ∧
      ((∀ claims : Claims, claims.TimesFit → Survives Claims.ofJson? Claims.toJson claims) ∧
        Settles Claims.ofJson? Claims.toJson) ∧
      (∀ arrangement, ∀ authorization : Authorization, authorization.HasYears →
          Survives Authorization.ofJson? (Authorization.toJson arrangement) authorization) ∧
        SettlesInAnyOrder Authorization.ofJson? Authorization.toJson :=
  ⟨⟨fun _ => Client.lossless.survives trivial, Client.lossless.settles⟩,
    ⟨fun arrangement _ => (AuthorizationRequest.lossless arrangement).survives trivial,
      settlesInAnyOrder AuthorizationRequest.lossless AuthorizationRequest.alike_toJson⟩,
    ⟨fun _ => Claims.lossless.survives, Claims.lossless.settles⟩,
    fun arrangement _ => (Authorization.lossless arrangement).survives,
    settlesInAnyOrder Authorization.lossless Authorization.alike_toJson⟩

namespace Sample

/-- The last nanosecond of the year 0 on a clock that is half an hour behind. -/
def time : Timestamp := ⟨⟨0, 12, 31, by decide⟩, ⟨23, 59, 59, 999999999, by decide⟩, -30, by decide⟩

/-- A token with an expiry far from today. -/
def issued : IssuedToken := { value := "token", issuedAt := time, expiresAt := some time }

/-- An authorization with texts that are escaped, two tokens and two further parameters. -/
def authorization : Authorization where
  id := "1"
  registeredClientId := "\"\\\n\x00é😀"
  principalName := ""
  grantType := .authorizationCode
  request := some
    { clientId := "client-1"
      codeChallenge := some ""
      further := .ofPairs [("resource", "b"), ("audience", "a")] }
  tokens := { code := some issued, refreshToken := some issued }

theorem hasYears_authorization : authorization.HasYears := by
  have year : time.HasYear := ⟨by decide, by decide⟩
  rintro (_ | _ | _) _ ⟨⟩ <;>
  · refine ⟨year, ?_⟩
    rintro _ ⟨⟩
    exact year

/-- A registration as a list, without the settings, which have a default. -/
def list : Json := .array [.text "1", .text "client-1", .null, .null, .texts ["none"], .texts []]

end Sample

/-- An authorization that is written with its maps reversed is read, and what is saved then with the
maps as they are held is alike. -/
theorem saved_documents_survive_escaped :
    Survives Authorization.ofJson? (Authorization.toJson .reversed) Sample.authorization ∧
      (∃ again,
        load? Authorization.ofJson? (Sample.authorization.toJson .reversed).compact =
          some again ∧
        Json.Alike (Sample.authorization.toJson .reversed) (again.toJson .asGiven)) ∧
      Survives Client.ofJson? Client.toJson
        { id := "1", clientId := "client-1", methods := [.none] } := by
  have survives :=
    saved_documents_survive.2.2.2.1 .reversed Sample.authorization Sample.hasYears_authorization
  have settles := saved_documents_survive.2.2.2.2 .reversed
  refine ⟨survives, ?_, (saved_documents_survive.1.2 Sample.list _ rfl).1⟩
  obtain ⟨again, isLoaded, alike⟩ := settles.2 _ _ survives.document _ List.mem_cons_self
  exact ⟨again, isLoaded, alike .asGiven⟩

/-! ### Settings -/

/-- **Settings survive, and their spans to the nanosecond.**

* Seconds that 64 bits hold and nanoseconds below a second are a span, whose text denotes it;
* settings with such spans survive, if the limit on the size of a reply fits into 64 bits, and what
  is loaded has the same flaw or none;
* settings that were read are such, so that every document of settings settles. -/
theorem settings_survive :
    (∀ seconds < 2 ^ 64, ∀ nanoseconds < 10 ^ 9, ∃ span : Span, span.seconds = seconds ∧
        span.subsecond = nanoseconds ∧ Span.ofText? span.text = some span) ∧
      (∀ settings : Settings, settings.keys.maxResponseSize < 2 ^ 64 →
        Survives Settings.ofJson? Settings.toJson settings ∧
          ∀ layout ∈ [Json.compact, Json.pretty],
            (load? Settings.ofJson? (layout settings.toJson)).map Settings.validate =
              some settings.validate) ∧
      Settles Settings.ofJson? Settings.toJson := by
  refine ⟨fun seconds fits nanoseconds below => ?_, fun settings fits => ?_,
    Settings.lossless.settles⟩
  · obtain ⟨span, isSeconds, isFraction⟩ := Span.exists_of_seconds fits below
    exact ⟨span, isSeconds, isFraction, span.ofText?_text⟩
  · have survives := Settings.lossless.survives fits
    refine ⟨survives, List.forall_mem_cons.mpr ⟨?_, List.forall_mem_singleton.mpr ?_⟩⟩
    · rw [survives.compact, Option.map_some]
    · rw [survives.pretty, Option.map_some]

/-- Settings with the longest span, the shortest one and the largest size survive, without an issuer
that would make them valid. -/
theorem settings_survive_longest :
    let longest : Span := ⟨(1 <<< 64) * 1000000000 - 1, by decide⟩
    let settings : Settings :=
      { issuer := ""
        keys := { timeToLive := longest, requestTimeout := .zero, maxResponseSize := 2 ^ 64 - 1 } }
    longest.seconds = 2 ^ 64 - 1 ∧ longest.subsecond = 999999999 ∧
      Survives Settings.ofJson? Settings.toJson settings ∧
      (load? Settings.ofJson? settings.toJson.compact).map Settings.validate =
        some (.error (.missing "issuer")) := by
  intro longest settings
  obtain ⟨-, survive, -⟩ := settings_survive
  obtain ⟨survives, validates⟩ := survive settings (by decide)
  exact ⟨by decide, by decide, survives, validates _ List.mem_cons_self⟩

end ClientAssertion
