/-
**The secret of a client decides nothing but whether a signature is right.**

* `Token.CarriesMac`: the signature of a token is the code of what it signs under a secret, and
  `Token.verify_secret_congr`: secrets of which both or neither has that code check it alike;
* `Verifier.resolve_alike`: registrations that are equal but for such secrets have verifiers that
  check a token alike, or lack the same;
* `Directory.withSecret`: the stores with another secret in one registration, and
  `ClientStore.AlikeButSecret.ofStores`: two stores in memory that differ in it are of that kind;
* `preliminary_withSecret` and `conclude_alike`: the checks before the assertion and behind it;
* `secret_decides_signature_only`: so two authentications agree but for the secret itself.
-/

import ClientAssertion.Proofs.Endpoint.Acceptance

namespace ClientAssertion

/-! ### Signatures -/

namespace Token

/-- The signature of a token is the code of what it signs under a secret. -/
def CarriesMac (hash : Hash) (secret token : String) : Prop :=
  ∃ parts, Parts.of? token = some parts ∧ Base64Url.decodeChars? parts.signature =
    some (hash.hmac (Bytes.ofText secret) (Bytes.ofText parts.signed))

/-- Of a key, the check of a token depends on nothing but what it says of its signature. -/
theorem verify_congr {algorithm : Algorithm} {token : String} {first second : Key}
    {check other : Key.Check} (prepared : first.verifier? algorithm = .ok check)
    (preparedOther : second.verifier? algorithm = .ok other)
    (same : ∀ parts signature, Parts.of? token = some parts →
      Base64Url.decodeChars? parts.signature = some signature →
      check (Bytes.ofText parts.signed) signature = other (Bytes.ofText parts.signed) signature) :
    verify algorithm first token = verify algorithm second token := by
  simp only [verify, prepared, preparedOther]
  cases cut : Parts.of? token with
  | none => rfl
  | some parts =>
    cases decoded : Base64Url.decodeChars? parts.signature with
    | none => simp only [orFlaw, bind, Except.bind, decoded]
    | some signature =>
      simp only [orFlaw, bind, Except.bind, decoded, same parts signature cut decoded]

/-- **Secrets of which both or neither has the code of a token check it alike.** -/
theorem verify_secret_congr {algorithm : Algorithm} {token first second : String}
    (codes : ∀ hash, algorithm.mac? = some hash →
      (CarriesMac hash first token ↔ CarriesMac hash second token)) :
    verify algorithm (.secret (Bytes.ofText first)) token =
      verify algorithm (.secret (Bytes.ofText second)) token := by
  cases mac : algorithm.mac? with
  | none =>
    -- an algorithm of another kind has no check under any secret
    have unsuited : ∀ secret, (Key.secret secret).verifier? algorithm = .error .keyFormat := by
      intro secret
      cases algorithm <;> first | rfl | cases mac
    simp only [verify, unsuited]
  | some hash =>
    refine verify_congr (Key.verifier?_secret mac _) (Key.verifier?_secret mac _) ?_
    intro parts signature cut decoded
    have right : ∀ secret, CarriesMac hash secret token ↔
        Key.checkMac hash (Bytes.ofText secret) (Bytes.ofText parts.signed) signature = true := by
      intro secret
      simp only [CarriesMac, cut, Option.some.injEq, exists_eq_left', decoded, Key.checkMac,
        beq_iff_eq]
      exact eq_comm
    rw [Bool.eq_iff_iff, ← right, ← right]
    exact codes hash mac

end Token

/-! ### Registrations -/

/-- A registration without its secret. -/
def Client.withoutSecret (client : Client) : Client := { client with clientSecret := none }

/-- The registration with another secret, or none, if it is the one with an identifier. -/
def Client.withSecretAt (id : String) (secret : Option String) (client : Client) : Client :=
  if client.id = id then { client with clientSecret := secret } else client

theorem Client.withoutSecret_withSecretAt (id : String) (secret : Option String) (client : Client) :
    (client.withSecretAt id secret).withoutSecret = client.withoutSecret := by
  unfold withSecretAt
  split_ifs <;> rfl

/-- **The secrets of two registrations check a token alike** as far as the method uses them: both are
there, and both or neither has the code that the token carries as its signature. -/
inductive Client.ChecksAlike (token : String) (first second : Client) : AuthMethod → Prop where
  | equal {method : AuthMethod} (same : first = second) : ChecksAlike token first second method
  | unused {method : AuthMethod} (other : method ≠ .clientSecretJwt) :
      ChecksAlike token first second method
  | used {secret other : String} (held : first.clientSecret = some secret)
      (nonempty : secret ≠ "") (heldOther : second.clientSecret = some other)
      (nonemptyOther : other ≠ "")
      (codes : ∀ algorithm hash, first.settings.signingAlgorithm = some algorithm →
        algorithm.mac? = some hash →
        (Token.CarriesMac hash secret token ↔ Token.CarriesMac hash other token)) :
      ChecksAlike token first second .clientSecretJwt

/-- **Two registrations have verifiers that check a token alike**, or they lack the same. -/
inductive Verifier.Alike (token : String) : Except Missing Verifier → Except Missing Verifier → Prop where
  | lacking (missing : Missing) : Alike token (.error missing) (.error missing)
  | found {first second : Verifier}
      (same : ∀ {State : Type} (source : KeySource State) (state : State),
        first.verify source token state = second.verify source token state) :
      Alike token (.ok first) (.ok second)

theorem Verifier.Alike.refl (token : String) (result : Except Missing Verifier) :
    Alike token result result := by
  cases result with
  | error missing => exact .lacking missing
  | ok verifier => exact .found fun _ _ => rfl

/-- **Of the secret, what checks a client's assertions depends on whether it is right for them and on
nothing else.** -/
theorem Verifier.resolve_alike {first second : Client} {token : String} {method : AuthMethod}
    (same : first.withoutSecret = second.withoutSecret)
    (checks : first.ChecksAlike token second method) :
    Alike token (resolve first method) (resolve second method) := by
  have settings : first.settings = second.settings := (Client.mk.inj same).2.2.2.2.2.2
  cases checks with
  | equal equal =>
    rw [equal]
    exact .refl token _
  | unused other =>
    have equal : resolve first method = resolve second method := by
      unfold resolve
      rw [settings]
      cases second.settings.signingAlgorithm <;> cases method <;> first | rfl | exact absurd rfl other
    rw [equal]
    exact .refl token _
  | @used secret other held nonempty heldOther nonemptyOther codes =>
    have isSecret := Client.secret?_eq_some_iff.mpr ⟨held, nonempty⟩
    have isOther := Client.secret?_eq_some_iff.mpr ⟨heldOther, nonemptyOther⟩
    unfold resolve
    rw [← settings, isSecret, isOther]
    cases registered : first.settings.signingAlgorithm with
    | none => exact .lacking _
    | some algorithm =>
      cases kind : algorithm.isMac with
      | false => 
        simp only [kind]
        exact .lacking _
      | true =>
        have checked := Token.verify_secret_congr fun hash => codes algorithm hash registered
        simp only [kind, if_true]
        refine .found fun source state => ?_
        simp only [verify, verifyKey, checked]

/-! ### Stages -/

/-- The result of an authentication without the secret of its client. -/
def AuthenticatedClient.withoutSecret (accepted : AuthenticatedClient) : AuthenticatedClient :=
  { accepted with client := accepted.client.withoutSecret }

/-- All of an authentication but the secret of its client. -/
def Authentication.withoutSecret {State : Type} (outcome : Authentication State) :
    Authentication State :=
  { outcome with result := outcome.result.map AuthenticatedClient.withoutSecret }

/-- The directory in which one registration has another secret, or none. -/
def Directory.withSecret (directory : Directory) (id : String) (secret : Option String) :
    Directory where
  client clientId :=
    match directory.client clientId with
    | .answered record => .answered (record.map (Client.withSecretAt id secret))
    | .failed error => .failed error
    | .stalled => .stalled
  authorization := directory.authorization
  timeout := directory.timeout

/-- **Two stores of registrations are equal** but for the secret of one registration. -/
structure ClientStore.AlikeButSecret (id : String) (secret : Option String)
    (first second : ClientStore) : Prop where
  clients : ∀ other, second.byId? other = (first.byId? other).map (Client.withSecretAt id secret)
  ids : ∀ clientId, second.ids.get? clientId = first.ids.get? clientId

/-- The directory of such a store is the one with the other secret. -/
theorem ClientStore.AlikeButSecret.ofStores {id : String} {secret : Option String}
    {first second : ClientStore} (alike : AlikeButSecret id secret first second)
    (authorizations : AuthorizationStore) (timeout : Span) :
    Directory.ofStores second authorizations timeout =
      (Directory.ofStores first authorizations timeout).withSecret id secret := by
  have found : second.byClientId? = fun clientId =>
      (first.byClientId? clientId).map (Client.withSecretAt id secret) := by
    funext clientId
    simp only [byClientId?, alike.ids, Option.bind_eq_bind, Option.map_bind]
    exact congrArg _ (funext alike.clients)
  simp only [Directory.ofStores, Directory.withSecret, found]

/-- **Two secrets of a registration check a request alike** as far as they are used for it: if the
client claims to know the secret, both are there, and both or neither has the code that the request's
assertion carries as its signature. -/
inductive ChecksAlike (directory : Directory) (id : String) (request : AuthRequest) :
    Option String → Option String → Prop where
  | unused {secret other : Option String} (method : request.method ≠ .clientSecretJwt) :
      ChecksAlike directory id request secret other
  | used {secret other : String} (nonempty : secret ≠ "") (nonemptyOther : other ≠ "")
      (codes : ∀ client algorithm hash token,
        directory.findClient request.clientId = .ok (some client) → client.id = id →
        client.settings.signingAlgorithm = some algorithm → algorithm.mac? = some hash →
        request.credentials = some token →
        (Token.CarriesMac hash secret token ↔ Token.CarriesMac hash other token)) :
      ChecksAlike directory id request (some secret) (some other)

/-- **The checks before the assertion find the same** but for secrets that check the assertion alike,
or they reject for the same reason. -/
inductive PreliminaryAlike : Except Rejection Admission → Except Rejection Admission → Prop where
  | rejected (rejection : Rejection) : PreliminaryAlike (.error rejection) (.error rejection)
  | admitted {first second : Client} {token : String} {verifier other : Verifier}
      (client : first.withoutSecret = second.withoutSecret)
      (same : ∀ {State : Type} (source : KeySource State) (state : State),
        verifier.verify source token state = other.verify source token state) :
      PreliminaryAlike (.ok ⟨first, token, verifier⟩) (.ok ⟨second, token, other⟩)

section Stages

variable {directory : Directory} {id : String} {request : AuthRequest}

theorem findClient_withSecret (directory : Directory) (id : String) (secret : Option String)
    (clientId : String) :
    (directory.withSecret id secret).findClient clientId =
      (directory.findClient clientId).map (Option.map (Client.withSecretAt id secret)) := by
  simp only [Directory.findClient, Directory.withSecret]
  cases directory.client clientId with
  | answered | failed | stalled => rfl

/-- A client that is found is the same with either secret, but for what checks its assertion. -/
theorem ChecksAlike.client {secret other : Option String} {client : Client} {token : String}
    (alike : ChecksAlike directory id request secret other)
    (found : directory.findClient request.clientId = .ok (some client))
    (presented : request.credentials = some token) :
    (client.withSecretAt id secret).ChecksAlike token (client.withSecretAt id other)
      request.method := by
  by_cases is : client.id = id
  · simp only [Client.withSecretAt, if_pos is]
    cases alike with
    | unused method => exact .unused method
    | used nonempty nonemptyOther codes =>
      by_cases method : request.method = .clientSecretJwt
      · rw [method]
        exact .used rfl nonempty rfl nonemptyOther fun algorithm hash registered mac =>
          codes client algorithm hash token found is registered mac presented
      · exact .unused method
  · simp only [Client.withSecretAt, if_neg is]
    exact .equal rfl

theorem preliminary_of_alike {other : Directory} {first second : Client}
    (found : directory.findClient request.clientId = .ok (some first))
    (foundOther : other.findClient request.clientId = .ok (some second))
    (same : first.withoutSecret = second.withoutSecret)
    (checks : ∀ token, request.credentials = some token →
      first.ChecksAlike token second request.method) :
    PreliminaryAlike (preliminary directory request) (preliminary other request) := by
  obtain ⟨sameId, -, -, -, sameMethods, -, -⟩ := Client.mk.inj same
  have supports : first.supports request.method = second.supports request.method := by
    rw [Client.supports, Client.supports, sameMethods]
  simp only [preliminary, found, foundOther, supports]
  by_cases permitted : request.method.usesAssertion = true ∧ second.supports request.method = true
  · simp only [permitted, and_self, if_true]
    cases presented : request.credentials.filter (· ≠ "") with
    | none => exact .rejected _
    | some token =>
      have given := (filter_ne_empty_eq_some_iff.mp presented).1
      have resolved := Verifier.resolve_alike same (checks token given)
      simp only [sameId]
      generalize Verifier.resolve first request.method = answer at resolved ⊢
      generalize Verifier.resolve second request.method = otherAnswer at resolved ⊢
      cases resolved with
      | lacking missing => exact .rejected _
      | found checked => exact .admitted same checked
  · rw [if_neg permitted, if_neg permitted]
    exact .rejected _

theorem preliminary_withSecret {secret other : Option String}
    (alike : ChecksAlike directory id request secret other) :
    PreliminaryAlike (preliminary (directory.withSecret id secret) request)
      (preliminary (directory.withSecret id other) request) := by
  have looked := fun secret => findClient_withSecret directory id secret request.clientId
  cases found : directory.findClient request.clientId with
  | error error =>
    simp only [found, Except.map] at looked
    simp only [preliminary, looked]
    exact .rejected _
  | ok record =>
    simp only [found, Except.map] at looked
    cases record with
    | none =>
      simp only [Option.map_none] at looked
      simp only [preliminary, looked]
      exact .rejected _
    | some client =>
      refine preliminary_of_alike (looked secret) (looked other) ?_ fun token => alike.client found
      rw [Client.withoutSecret_withSecretAt, Client.withoutSecret_withSecretAt]

/-- Of a registration, the check of a code depends on its settings and on nothing else. -/
theorem checkGrant_congr {first second : Client} (settings : first.settings = second.settings) :
    checkGrant directory first request = checkGrant directory second request := by
  simp only [checkGrant, checkVerifier, settings]

/-- What follows a right assertion is the same but for the secret. -/
theorem conclude_alike (directory : Directory) (request : AuthRequest) {first second : Client}
    (same : first.withoutSecret = second.withoutSecret)
    (assertion : Assertion) :
    (conclude directory request first assertion).1.map AuthenticatedClient.withoutSecret =
        (conclude directory request second assertion).1.map AuthenticatedClient.withoutSecret ∧
      (conclude directory request first assertion).2 =
        (conclude directory request second assertion).2 := by
  obtain ⟨-, sameClientId, -, -, -, -, settings⟩ := Client.mk.inj same
  simp only [conclude, checkGrant_congr settings]
  cases checkGrant directory second request with
  | passed =>
    refine ⟨?_, rfl⟩
    simp only [Except.map, AuthenticatedClient.withoutSecret, same]
  | unbound =>
    refine ⟨?_, by simp only [unboundCodeEvent, sameClientId]⟩
    simp only [Except.map, AuthenticatedClient.withoutSecret, same]
  | rejected rejection => exact ⟨rfl, by rw [sameClientId]⟩

end Stages

/-- **The secret of a client decides nothing but whether a signature is right.** Over every directory,
source of keys, server, instant and state, and for every request: if two secrets of a registration
check the request alike, the two authentications come to the same, but for the secret of the client
itself. The results are equal, or the errors with all that they carry, and so are the events, the
calls to the source and the state that is left. -/
theorem secret_decides_signature_only {State : Type} {directory : Directory} {id : String}
    {secret other : Option String} {request : AuthRequest}
    (alike : ChecksAlike directory id request secret other) (source : KeySource State)
    (provider : Provider) (now : Instant) (state : State) :
    (authenticate (directory.withSecret id secret) source provider now request state).withoutSecret =
      (authenticate (directory.withSecret id other) source provider now request
        state).withoutSecret := by
  have before := preliminary_withSecret alike
  unfold authenticate
  generalize preliminary (directory.withSecret id secret) request = first at before ⊢
  generalize preliminary (directory.withSecret id other) request = second at before ⊢
  cases before with
  | rejected rejection => rfl
  | @admitted client otherClient token verifier checker same checked =>
    simp only [Assertion.validate, checked]
    cases (checker.verify source token state).result >>= Assertion.ofDecoded token _ now with
    | error error => rfl
    | ok assertion =>
      -- What follows looks up no client, so both directories are the same to it.
      obtain ⟨results, events⟩ :
          (conclude (directory.withSecret id secret) request client assertion).1.map
              AuthenticatedClient.withoutSecret =
            (conclude (directory.withSecret id other) request otherClient assertion).1.map
              AuthenticatedClient.withoutSecret ∧
          (conclude (directory.withSecret id secret) request client assertion).2 =
            (conclude (directory.withSecret id other) request otherClient assertion).2 :=
        conclude_alike directory request same assertion
      simp only [Authentication.withoutSecret, results, events]

/-- A secret and a longer one whose codes are the same decide the same of an assertion: it is
accepted. -/
theorem secret_decides_signature_only_padded :
    let clientOf : String → Client := fun secret =>
      { id := "registration-1", clientId := "client-1", clientSecret := some secret
        methods := [.clientSecretJwt], settings := { signingAlgorithm := some .hs256 } }
    let storeOf := fun secret => (trace ClientStore.perform [clientOf secret] .empty).2
    let directoryOf := fun secret => Directory.ofStores (storeOf secret) .empty .zero
    let request : AuthRequest := ⟨"client-1", .clientSecretJwt, some Sample.token, .empty⟩
    (authenticate (directoryOf "secret") KeySource.fixed Sample.provider Sample.now request
        .empty).withoutSecret =
      (authenticate (directoryOf "secret\x00") KeySource.fixed Sample.provider Sample.now request
        .empty).withoutSecret ∧
    ∃ accepted, (authenticate (directoryOf "secret") KeySource.fixed Sample.provider Sample.now request
      .empty).result = .ok accepted := by
  intro clientOf storeOf directoryOf request
  have codes : ∀ message, Hash.hmac .sha256 (Bytes.ofText "secret") message =
      Hash.hmac .sha256 (Bytes.ofText "secret\x00") message := by
    have block : Hash.keyBlock .sha256 (Bytes.ofText "secret") =
        Hash.keyBlock .sha256 (Bytes.ofText "secret\x00") := by decide +kernel
    intro message
    simp only [Hash.hmac, block]
  have alike : ChecksAlike (directoryOf "secret") "registration-1" request (some "secret")
      (some "secret\x00") := by
    refine .used (by decide) (by decide) ?_
    rintro client algorithm hash presented ⟨rfl⟩ - ⟨rfl⟩ ⟨rfl⟩ ⟨rfl⟩
    simp only [Token.CarriesMac, codes]
  have stores : ∀ secret, ClientStore.AlikeButSecret "registration-1" (some secret)
      (storeOf "secret") (storeOf secret) := by
    intro secret
    refine ⟨fun id => ?_, fun clientId => rfl⟩
    show (Table.empty.insert "registration-1" (clientOf secret)).get? id =
      ((Table.empty.insert "registration-1" (clientOf "secret")).get? id).map _
    rw [Table.get?_insert, Table.get?_insert]
    split_ifs <;> rfl
  -- both directories are the first one with a secret put in
  have first : directoryOf "secret" = (directoryOf "secret").withSecret "registration-1" _ :=
    (stores "secret").ofStores .empty .zero
  have second : directoryOf "secret\x00" = (directoryOf "secret").withSecret "registration-1" _ :=
    (stores "secret\x00").ofStores .empty .zero
  have decided := secret_decides_signature_only alike KeySource.fixed Sample.provider Sample.now .empty
  rw [← first, ← second] at decided
  have known : (directoryOf "secret").findClient "client-1" = .ok (some (clientOf "secret")) := rfl
  obtain ⟨accepted, accepts⟩ := Sample.authenticates KeySource.fixed .empty known
    (by simp [clientOf]) rfl rfl (by rw [Table.get?_empty]; exact (Option.some_ne_none _).symm)
  exact ⟨decided, accepted, accepts⟩

end ClientAssertion
