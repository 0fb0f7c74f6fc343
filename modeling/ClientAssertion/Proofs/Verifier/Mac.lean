/-
**Assertions with a message authentication code have one form.**

* `verify_mac_eq_ok_iff`: under a secret, the accepted tokens are exactly the compact forms of a
  header with the algorithm, of readable claims and of the code of both;
* `mac_assertion_form`: the same of a registration, with its two halves.  Every token that is made
  so is accepted, whatever it claims, and behind a signing input no other text is accepted as the
  signature.
-/

import ClientAssertion.Proofs.Verifier.Resolve

namespace ClientAssertion.Verifier

open Token (compact signingInput)

variable {State : Type}

/-- The code of a header and a payload as a token carries it. -/
def macOf (hash : Hash) (secret : String) (header payload : Bytes) : Bytes :=
  hash.hmac (Bytes.ofText secret) (Bytes.ofText (signingInput header payload))

/-- **Under a secret exactly the tokens with the code of their header and payload are accepted.** -/
theorem verify_mac_eq_ok_iff {algorithm : Algorithm} {hash : Hash} (mac : algorithm.mac? = some hash)
    (secret : String) (source : KeySource State) (token : String) (state : State)
    (decoded : Decoded) :
    (verify (.mac algorithm secret) source token state).result = .ok decoded ↔
      ∃ header payload, token = compact header payload (macOf hash secret header payload) ∧
        Header.read? header = some decoded.header ∧ decoded.header.algorithm = algorithm ∧
        Claims.ofPayload? payload = some decoded.claims := by
  show verifyKey algorithm (.secret (Bytes.ofText secret)) token = .ok decoded ↔ _
  rw [verifyKey_eq_ok_iff, Token.verify_eq_ok_iff]
  simp only [Token.Signed, Key.accepts_secret_iff mac]
  constructor
  · rintro ⟨header, payload, signature, written, isHeader, same, rfl, isClaims⟩
    exact ⟨header, payload, written, isHeader, same, isClaims⟩
  · rintro ⟨header, payload, written, isHeader, same, isClaims⟩
    exact ⟨header, payload, _, written, isHeader, same, rfl, isClaims⟩

theorem ofPayload?_eq_some_iff {payload : Bytes} {claims : Claims} :
    Claims.ofPayload? payload = some claims ↔
      ∃ document, Json.read? payload = some document ∧ Claims.ofJson? document = some claims ∧
        Claims.hasReadablePositions document = true := by
  unfold Claims.ofPayload? Claims.ofPayloadJson?
  simp only [Option.bind_eq_bind, Option.bind_eq_some_iff, Option.ite_none_right_eq_some]
  exact exists_congr fun document => and_congr_right fun _ => and_comm

/-- **Assertions under a client's secret have exactly one accepted form.** The registration of a
client with a secret and an algorithm of codes has a verifier, and for every token, source of keys
and state:

* the verifier accepts the token with a header and claims exactly when header and payload are octets
  that read as these, the header with the registered algorithm, and the token is their compact form
  with the code of both under the secret;
* so every token that is made of a readable header and payload is accepted as what they are,
  whatever the payload claims;
* behind a signing input no text but the written form of its code is accepted as the signature. -/
theorem mac_assertion_form (client : Client) {algorithm : Algorithm} {hash : Hash} {secret : String}
    (registered : client.settings.signingAlgorithm = some algorithm)
    (mac : algorithm.mac? = some hash) (held : client.clientSecret = some secret)
    (nonempty : secret ≠ "") :
    ∃ verifier, resolve client .clientSecretJwt = .ok verifier ∧
      ∀ {State : Type} (source : KeySource State) (state : State),
        (∀ token header claims,
          (verifier.verify source token state).result = .ok ⟨header, claims⟩ ↔
            ∃ headerOctets payload,
              token = compact headerOctets payload (macOf hash secret headerOctets payload) ∧
              Header.read? headerOctets = some header ∧ header.algorithm = algorithm ∧
              ∃ document, Json.read? payload = some document ∧
                Claims.ofJson? document = some claims ∧
                Claims.hasReadablePositions document = true) ∧
        (∀ headerOctets payload header document claims,
          Header.read? headerOctets = some header → header.algorithm = algorithm →
          Json.read? payload = some document → Claims.ofJson? document = some claims →
          Claims.hasReadablePositions document = true →
          (verifier.verify source (compact headerOctets payload
            (macOf hash secret headerOctets payload)) state).result = .ok ⟨header, claims⟩) ∧
        ∀ input signature decoded, '.' ∈ input.toList →
          (verifier.verify source (input ++ "." ++ signature) state).result = .ok decoded →
          signature = Base64Url.encode (hash.hmac (Bytes.ofText secret) (Bytes.ofText input)) := by
  have kind : algorithm.isMac = true := by rw [algorithm.isMac_eq_isSome, mac]; rfl
  refine ⟨.mac algorithm secret, resolve_eq_ok_iff.mpr (.secret registered kind held nonempty),
    fun source state => ⟨fun token header claims => ?_, ?_, ?_⟩⟩
  · simp only [verify_mac_eq_ok_iff mac, ofPayload?_eq_some_iff]
  · intro headerOctets payload header document claims isHeader same isDocument isClaims positions
    refine (verify_mac_eq_ok_iff mac secret source _ state _).mpr ⟨headerOctets, payload, rfl,
      isHeader, same, ofPayload?_eq_some_iff.mpr ⟨document, isDocument, isClaims, positions⟩⟩
  · intro input signature decoded dotted accepted
    obtain ⟨header, payload, written, -, -, -⟩ :=
      (verify_mac_eq_ok_iff mac secret source _ state decoded).mp accepted
    obtain ⟨rfl, rfl⟩ := Token.compact_eq_append dotted written.symm
    rfl

/-- A client with the secret `secret` has its assertion without any claims accepted. -/
theorem mac_assertion_form_no_claims :
    let client : Client :=
      { id := "registration-1", clientId := "client-1", clientSecret := some "secret"
        methods := [.clientSecretJwt], settings := { signingAlgorithm := some .hs256 } }
    let header := Bytes.ofText "\x7b\"alg\":\"HS256\"\x7d"
    let payload := Bytes.ofText "\x7b\x7d"
    (client.settings.signingAlgorithm = some .hs256 ∧ Algorithm.hs256.mac? = some .sha256 ∧
      client.clientSecret = some "secret" ∧ "secret" ≠ "") ∧
    ∃ verifier, resolve client .clientSecretJwt = .ok verifier ∧
      ∃ decoded, Header.read? header = some decoded.header ∧
        decoded.claims = ⟨none, none, none, none, none, none, none⟩ ∧
        ∀ source : KeySource Unit,
          (verifier.verify source (compact header payload (macOf .sha256 "secret" header payload))
            ()).result = .ok decoded := by
  intro client header payload
  have facts : client.settings.signingAlgorithm = some .hs256 ∧
      Algorithm.hs256.mac? = some .sha256 ∧ client.clientSecret = some "secret" ∧ "secret" ≠ "" := by
    decide
  obtain ⟨verifier, resolved, law⟩ :=
    mac_assertion_form client facts.1 facts.2.1 facts.2.2.1 facts.2.2.2
  have readable : ∃ found, Header.read? header = some found ∧ found.algorithm = .hs256 := by
    refine ⟨(Header.read? header).get (by decide +kernel), (Option.some_get _).symm, ?_⟩
    decide +kernel
  obtain ⟨found, isHeader, same⟩ := readable
  exact ⟨facts, verifier, resolved, ⟨found, ⟨none, none, none, none, none, none, none⟩⟩, isHeader, rfl,
    fun source => (law source ()).2.1 header payload found (.object []) _ isHeader same rfl rfl rfl⟩

end ClientAssertion.Verifier
