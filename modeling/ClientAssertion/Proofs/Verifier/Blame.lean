/-
**Whether the token or the key is to blame.**

* `Jwk.Judges` relates a published key and a token that can be read to the verdict on it, one case
  for each, and `judges_iff`: a check has exactly that verdict;
* `Jwk.Pointless`: a published Edwards curve key whose octets are no point of the curve, and
  `Jwk.Short`: one with too few octets, under which no check gives an answer;
* `malformed_iff_pointless`: a token that can be read is called malformed under such a key, and under
  no other;
* `malformed_blame`: whatever else is called malformed cannot be read.
-/

import ClientAssertion.Proofs.Jose.Flaw
import ClientAssertion.Proofs.Verifier.Rotation

namespace ClientAssertion

/-! ### Published keys -/

/-- A published Edwards curve key whose first 32 octets are no point of the curve. -/
def Jwk.Pointless (jwk : Jwk) : Prop :=
  ∃ curve octets, jwk.numbers = .edwardsCurve curve (Base64Url.encode octets) ∧
    32 ≤ octets.length ∧ Ed25519.point? (octets.take 32) = none

/-- A published Edwards curve key with fewer than 32 octets. -/
def Jwk.Short (jwk : Jwk) : Prop :=
  ∃ curve octets, jwk.numbers = .edwardsCurve curve (Base64Url.encode octets) ∧ octets.length < 32

/-- **The verdict under a published key on a token that can be read.** A key that cannot be used is
an invalid one, but for an Edwards curve key: under one that is no point the token is called
malformed, and under one that is too short the check is broken off. -/
inductive Jwk.Judges (jwk : Jwk) (algorithm : Algorithm) (decoded : Decoded) (input : String)
    (signature : Bytes) : Except JwtError Decoded → Prop where
  | unspelt {text : String} (listed : text ∈ jwk.numbers.written)
      (foreign : ∀ octets, text ≠ Base64Url.encode octets) :
      Judges jwk algorithm decoded input signature (.error (.invalidKey "Invalid JWK: Base64 error"))
  | otherAlgorithm {key : Key} (spelt : jwk.numbers.key? = some key)
      (other : decoded.header.algorithm ≠ algorithm) :
      Judges jwk algorithm decoded input signature (.error (.invalidAlgorithm "InvalidAlgorithm"))
  | otherFamily {key : Key} (spelt : jwk.numbers.key? = some key)
      (named : decoded.header.algorithm = algorithm)
      (other : jwk.numbers.family ≠ algorithm.family) :
      Judges jwk algorithm decoded input signature (.error (.invalidKey "InvalidKeyFormat"))
  | noCurvePoint {octets : Bytes} {curve : Ecdsa.Curve}
      (spelt : jwk.numbers.key? = some (.ellipticCurve octets))
      (named : decoded.header.algorithm = algorithm) (used : algorithm.curve? = some curve)
      (outside : curve.point? octets = none) :
      Judges jwk algorithm decoded input signature (.error (.invalidKey "InvalidEcdsaKey"))
  | short (edwards : algorithm = .edDSA) (named : decoded.header.algorithm = algorithm)
      (few : jwk.Short) : Judges jwk algorithm decoded input signature (.error .aborted)
  | noEdwardsPoint (edwards : algorithm = .edDSA) (named : decoded.header.algorithm = algorithm)
      (pointless : jwk.Pointless) :
      Judges jwk algorithm decoded input signature (.error (.malformed "InvalidEddsaKey"))
  | forged {key : Key} {check : Key.Check} (spelt : jwk.numbers.key? = some key)
      (named : decoded.header.algorithm = algorithm) (usable : key.verifier? algorithm = .ok check)
      (wrong : ¬key.Accepts algorithm input signature) :
      Judges jwk algorithm decoded input signature (.error .invalidSignature)
  | signed {key : Key} (spelt : jwk.numbers.key? = some key)
      (named : decoded.header.algorithm = algorithm)
      (right : key.Accepts algorithm input signature) :
      Judges jwk algorithm decoded input signature (.ok decoded)

theorem Jwk.pointless_iff {jwk : Jwk} :
    jwk.Pointless ↔ ∃ octets, jwk.numbers.key? = some (.edwardsCurve octets) ∧
      32 ≤ octets.length ∧ Ed25519.point? (octets.take 32) = none := by
  simp only [KeyNumbers.key?_eq_edwardsCurve_iff, Jwk.Pointless]
  exact exists_comm.trans (exists_congr fun octets => exists_and_right)

theorem Jwk.short_iff {jwk : Jwk} :
    jwk.Short ↔ ∃ octets, jwk.numbers.key? = some (.edwardsCurve octets) ∧ octets.length < 32 := by
  simp only [KeyNumbers.key?_eq_edwardsCurve_iff, Jwk.Short]
  exact exists_comm.trans (exists_congr fun octets => exists_and_right)

/-- A published key that states its numbers and nothing else. -/
def Jwk.bare (numbers : KeyNumbers) : Jwk :=
  ⟨none, none, none, none, none, none, none, none, numbers⟩

/-- Such a key matches exactly the headers that name no key. -/
theorem Jwk.bare_matches_iff {numbers : KeyNumbers} {keyId : Option String}
    {algorithm : Algorithm} : (Jwk.bare numbers).Matches keyId algorithm ↔ keyId = none := by
  constructor
  · intro matched
    cases keyId with
    | none => rfl
    | some id => exact nomatch matched.identified id rfl
  · rintro rfl
    constructor <;> simp [Jwk.bare]

/-- The source that serves one set for every URL. -/
def KeySource.serving (set : KeySet) : KeySource Unit := scripted fun _ => ⟨.ok set, .ok set⟩

namespace Verifier

theorem verifyJwk_of_key? {algorithm : Algorithm} {jwk : Jwk} {key : Key}
    (spelt : jwk.numbers.key? = some key) (token : String) :
    verifyJwk algorithm jwk token = verifyKey algorithm key token := by
  rw [verifyJwk, spelt]

section Published

variable {algorithm : Algorithm} {jwk : Jwk} {key : Key} {header payload signature : Bytes}
  {decoded : Decoded} (isHeader : Header.read? header = some decoded.header)
  (isClaims : Claims.ofPayload? payload = some decoded.claims)

include isHeader isClaims

theorem verifyKey_of_algorithm_ne (other : decoded.header.algorithm ≠ algorithm) :
    verifyKey algorithm key (Token.compact header payload signature) =
      .error (.invalidAlgorithm "InvalidAlgorithm") := by
  rw [verifyKey, Token.verify_compact isHeader isClaims, if_pos other]
  rfl

theorem verifyKey_of_unusable {flaw : TokenFlaw} (named : decoded.header.algorithm = algorithm)
    (unusable : key.Unusable algorithm flaw) :
    verifyKey algorithm key (Token.compact header payload signature) = .error (.ofFlaw flaw) := by
  rw [verifyKey, Token.verify_compact isHeader isClaims, if_neg (not_not.mpr named),
    Key.verifier?_eq_error_iff.mpr unusable]
  rfl

theorem verifyKey_of_usable {check : Key.Check} (named : decoded.header.algorithm = algorithm)
    (usable : key.verifier? algorithm = .ok check) :
    verifyKey algorithm key (Token.compact header payload signature) =
      if check (Bytes.ofText (Token.signingInput header payload)) signature then .ok decoded
      else .error .invalidSignature := by
  rw [verifyKey, Token.verify_compact isHeader isClaims, if_neg (not_not.mpr named), usable]
  simp only
  split_ifs <;> rfl

/-- **A check has exactly the verdict under the key.** -/
theorem judges_iff {verdict : Except JwtError Decoded} :
    jwk.Judges algorithm decoded (Token.signingInput header payload) signature verdict ↔
      verifyJwk algorithm jwk (Token.compact header payload signature) = verdict := by
  constructor
  · intro judges
    cases judges with
    | unspelt listed foreign =>
      rw [verifyJwk, KeyNumbers.key?_eq_none_iff.mpr ⟨_, listed, foreign⟩]
      rfl
    | otherAlgorithm spelt other =>
      rw [verifyJwk_of_key? spelt, verifyKey_of_algorithm_ne isHeader isClaims other]
    | otherFamily spelt named other =>
      rw [← KeyNumbers.family_of_key? spelt] at other
      rw [verifyJwk_of_key? spelt, verifyKey_of_unusable isHeader isClaims named (.foreign other)]
      rfl
    | noCurvePoint spelt named used outside =>
      rw [verifyJwk_of_key? spelt,
        verifyKey_of_unusable isHeader isClaims named (.curve used outside)]
      rfl
    | short edwards named few =>
      obtain rfl := edwards
      obtain ⟨octets, spelt, few⟩ := Jwk.short_iff.mp few
      rw [verifyJwk_of_key? spelt, verifyKey_of_unusable isHeader isClaims named (.short few)]
      rfl
    | noEdwardsPoint edwards named pointless =>
      obtain rfl := edwards
      obtain ⟨octets, spelt, enough, outside⟩ := Jwk.pointless_iff.mp pointless
      rw [verifyJwk_of_key? spelt,
        verifyKey_of_unusable isHeader isClaims named (.edwardsCurve enough outside)]
      rfl
    | forged spelt named usable wrong =>
      rw [verifyJwk_of_key? spelt, verifyKey_of_usable isHeader isClaims named usable,
        if_neg fun right => wrong ⟨_, usable, right⟩]
    | signed spelt named right =>
      obtain ⟨check, usable, right⟩ := right
      rw [verifyJwk_of_key? spelt, verifyKey_of_usable isHeader isClaims named usable, if_pos right]
  · rintro rfl
    cases spelt : jwk.numbers.key? with
    | none =>
      obtain ⟨text, listed, foreign⟩ := KeyNumbers.key?_eq_none_iff.mp spelt
      rw [verifyJwk, spelt]
      exact .unspelt listed foreign
    | some key =>
      rw [verifyJwk_of_key? spelt]
      by_cases other : decoded.header.algorithm ≠ algorithm
      · rw [verifyKey_of_algorithm_ne isHeader isClaims other]
        exact .otherAlgorithm spelt other
      have named := of_not_not other
      cases prepared : key.verifier? algorithm with
      | error flaw =>
        have unusable := Key.verifier?_eq_error_iff.mp prepared
        rw [verifyKey_of_unusable isHeader isClaims named unusable]
        cases unusable with
        | foreign other => exact .otherFamily spelt named (KeyNumbers.family_of_key? spelt ▸ other)
        | curve used outside => exact .noCurvePoint spelt named used outside
        | short few => exact .short rfl named (Jwk.short_iff.mpr ⟨_, spelt, few⟩)
        | edwardsCurve enough outside =>
          exact .noEdwardsPoint rfl named (Jwk.pointless_iff.mpr ⟨_, spelt, enough, outside⟩)
      | ok check =>
        rw [verifyKey_of_usable isHeader isClaims named prepared]
        split_ifs with right
        · exact .signed spelt named ⟨check, prepared, right⟩
        · refine .forged spelt named prepared ?_
          rintro ⟨other, same, accepts⟩
          obtain rfl := Except.ok.inj (prepared.symm.trans same)
          exact right accepts

/-- Under a secret no token that can be read is called malformed. -/
theorem verifyKey_secret_ne_malformed {octets : Bytes} {message : String} :
    verifyKey algorithm (.secret octets) (Token.compact header payload signature) ≠
      .error (.malformed message) := by
  intro called
  by_cases other : decoded.header.algorithm ≠ algorithm
  · rw [verifyKey_of_algorithm_ne isHeader isClaims other] at called
    cases called
  have named := of_not_not other
  cases prepared : (Key.secret octets).verifier? algorithm with
  | error flaw =>
    have unusable := Key.verifier?_eq_error_iff.mp prepared
    rw [verifyKey_of_unusable isHeader isClaims named unusable] at called
    cases unusable with
    | foreign => cases called
  | ok check =>
    rw [verifyKey_of_usable isHeader isClaims named prepared] at called
    split_ifs at called
    cases called

end Published

/-! ### Any token -/

section Any

variable {State : Type} {source : KeySource State} {algorithm : Algorithm} {jwk : Jwk}
  {token : String} {state : State} {decoded : Decoded} {message : String}

theorem verifyJwk_eq_malformed_iff (reads : Token.Reads token decoded) :
    verifyJwk algorithm jwk token = .error (.malformed message) ↔
      algorithm = .edDSA ∧ decoded.header.algorithm = .edDSA ∧ jwk.Pointless ∧
        message = "InvalidEddsaKey" := by
  obtain ⟨header, payload, signature, rfl, isHeader, isClaims⟩ := reads
  rw [← judges_iff isHeader isClaims]
  constructor
  · intro judges
    cases judges with
    | noEdwardsPoint edwards named pointless => exact ⟨edwards, named.trans edwards, pointless, rfl⟩
  · rintro ⟨edwards, named, pointless, rfl⟩
    exact .noEdwardsPoint edwards (named.trans edwards.symm) pointless

/-- A published key is to blame for what is said of the form of a token that can be read. -/
theorem exists_provides_of_malformed {url : String} {header : Header}
    (headed : Token.header token = .ok header)
    (called : (verify (.keySet algorithm url) source token state).result =
      .error (.malformed message)) :
    ∃ jwk, Provides source url header.keyId algorithm state jwk ∧
      verifyJwk algorithm jwk token = .error (.malformed message) := by
  obtain ⟨calls, left, ends⟩ : ∃ calls left,
      Rotation source algorithm url token state calls (.error (.malformed message)) left :=
    ⟨_, _, called ▸ rotation source algorithm url token state⟩
  -- a check under a key is no constructor, so the case that applies is found for any result
  generalize verdict : (Except.error (JwtError.malformed message) : Except JwtError Decoded) = result
    at ends
  cases ends with
  | unreadable other =>
    rw [headed] at other
    cases other
  | known other answered selected =>
    obtain rfl := Except.ok.inj (headed.symm.trans other)
    exact ⟨_, .known answered selected, rfl⟩
  | renewed other answered lacking refetched selected =>
    obtain rfl := Except.ok.inj (headed.symm.trans other)
    exact ⟨_, .refreshed answered lacking refetched selected, rfl⟩
  | unavailable | unrenewed | unidentified | unsuited => cases verdict

/-- **A verifier is led to an Edwards curve key that is no point**, by a header with the key's
algorithm. -/
def LedToPointless (verifier : Verifier) (source : KeySource State) (state : State)
    (header : Header) : Prop :=
  ∃ url jwk, verifier = .keySet .edDSA url ∧ header.algorithm = .edDSA ∧
    Provides source url header.keyId .edDSA state jwk ∧ jwk.Pointless

/-- **A token that can be read is called malformed exactly for an Edwards curve key that is no
point.** -/
theorem malformed_iff_pointless {verifier : Verifier} (reads : Token.Reads token decoded) :
    (verify verifier source token state).result = .error (.malformed message) ↔
      verifier.LedToPointless source state decoded.header ∧ message = "InvalidEddsaKey" := by
  cases verifier with
  | mac algorithm secret =>
    obtain ⟨header, payload, signature, rfl, isHeader, isClaims⟩ := reads
    exact ⟨fun called => absurd called (verifyKey_secret_ne_malformed isHeader isClaims),
      fun ⟨⟨_, _, other, _⟩, _⟩ => nomatch other⟩
  | keySet algorithm url =>
    constructor
    · intro called
      obtain ⟨jwk, provides, called⟩ := exists_provides_of_malformed reads.header_eq called
      obtain ⟨rfl, named, pointless, rfl⟩ := (verifyJwk_eq_malformed_iff reads).mp called
      exact ⟨⟨url, jwk, rfl, named, provides, pointless⟩, rfl⟩
    · rintro ⟨⟨other, jwk, same, named, provides, pointless⟩, rfl⟩
      obtain ⟨rfl, rfl⟩ := Verifier.keySet.inj same
      rw [verify_eq_of_provides reads.header_eq provides]
      exact (verifyJwk_eq_malformed_iff reads).mpr ⟨rfl, named, pointless, rfl⟩

end Any

/-- **A token is called malformed for what is wrong with it, or for one kind of key.** For every
verifier, source of keys, token and state:

* a token that is called malformed cannot be read, or it can be and the verifier is led to an Edwards
  curve key that is no point;
* a token that can be read is called malformed in exactly that case, whatever keys the source holds;
* a token that can be read has the verdict under the key that is provided for it: any other key that
  cannot be used is called an invalid one, but for an Edwards curve key that is too short, under which
  there is no answer, and under a key that can be used the signature decides. -/
theorem malformed_blame {State : Type} (verifier : Verifier) (source : KeySource State)
    (token : String) (state : State) :
    let result := (verify verifier source token state).result
    (∀ message, result = .error (.malformed message) →
      Token.Undecodable token ∨ ∃ decoded, Token.Reads token decoded ∧
        verifier.LedToPointless source state decoded.header) ∧
    (∀ decoded, Token.Reads token decoded →
      ((∃ message, result = .error (.malformed message)) ↔
        verifier.LedToPointless source state decoded.header)) ∧
    ∀ header payload signature decoded, token = Token.compact header payload signature →
      Header.read? header = some decoded.header → Claims.ofPayload? payload = some decoded.claims →
      ∀ algorithm url jwk, verifier = .keySet algorithm url →
        Provides source url decoded.header.keyId algorithm state jwk →
        ∀ verdict, jwk.Judges algorithm decoded (Token.signingInput header payload) signature verdict ↔
          result = verdict := by
  intro result
  refine ⟨fun message called => ?_, fun decoded reads => ?_, ?_⟩
  · by_cases readable : ∃ decoded, Token.Reads token decoded
    · obtain ⟨decoded, reads⟩ := readable
      exact .inr ⟨decoded, reads, ((malformed_iff_pointless reads).mp called).1⟩
    · exact .inl (Token.undecodable_iff.mpr fun decoded reads => readable ⟨decoded, reads⟩)
  · constructor
    · rintro ⟨message, called⟩
      exact ((malformed_iff_pointless reads).mp called).1
    · intro led
      exact ⟨_, (malformed_iff_pointless reads).mpr ⟨led, rfl⟩⟩
  · rintro header payload signature decoded rfl isHeader isClaims algorithm url jwk rfl provides
      verdict
    have reads : Token.Reads _ decoded := ⟨header, payload, signature, rfl, isHeader, isClaims⟩
    rw [judges_iff isHeader isClaims]
    show _ ↔ (verify _ _ _ _).result = _
    rw [verify_eq_of_provides reads.header_eq provides]

/-- A token that can be read is called malformed because the client publishes an Edwards curve key
that is no point. -/
theorem malformed_without_point :
    let client : Client :=
      { id := "registration-1", clientId := "client-1", methods := [.privateKeyJwt]
        settings :=
          { signingAlgorithm := some .edDSA, keySetUrl := some "https://client.example.com/jwks" } }
    let jwk := Jwk.bare (.edwardsCurve .ed25519 "AgAAAAAAAAAAAAAAAAAAAAAAAAAAAAAAAAAAAAAAAAA")
    let header := Bytes.ofText "\x7b\"alg\":\"EdDSA\"\x7d"
    let token := Token.compact header (Bytes.ofText "\x7b\x7d") (List.replicate 64 0)
    ∃ verifier, resolve client .privateKeyJwt = .ok verifier ∧ ¬Token.Undecodable token ∧
      (verify verifier (.serving ⟨[jwk]⟩) token ()).result = .error (.malformed "InvalidEddsaKey") := by
  intro client jwk header token
  obtain ⟨found, isHeader, named, unnamed⟩ : ∃ found, Header.read? header = some found ∧
      found.algorithm = .edDSA ∧ found.keyId = none := by
    refine ⟨(Header.read? header).get (by decide +kernel), (Option.some_get _).symm, ?_⟩
    decide +kernel
  have isClaims : Claims.ofPayload? (Bytes.ofText "\x7b\x7d") =
      some ⟨none, none, none, none, none, none, none⟩ := by
    decide +kernel
  have reads : Token.Reads token ⟨found, _⟩ := ⟨_, _, _, rfl, isHeader, isClaims⟩
  have pointless : jwk.Pointless :=
    ⟨.ed25519, 2 :: List.replicate 31 0, by decide +kernel, by decide, by decide +kernel⟩
  have selected : KeySet.Selects ⟨[jwk]⟩ found.keyId .edDSA jwk :=
    ⟨Jwk.bare_matches_iff.mpr unnamed, [], [], rfl, List.forall_mem_nil _⟩
  have led : LedToPointless (.keySet .edDSA "https://client.example.com/jwks")
      (.serving ⟨[jwk]⟩) () found :=
    ⟨_, jwk, rfl, named, .known rfl selected, pointless⟩
  exact ⟨.keySet .edDSA "https://client.example.com/jwks", rfl,
    fun wrong => Token.undecodable_iff.mp wrong _ reads,
    (malformed_iff_pointless reads).mpr ⟨led, rfl⟩⟩

end Verifier

end ClientAssertion
