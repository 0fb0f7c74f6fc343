/-
**What is read of a token without a check is what an accepted one claims.**

Two readers look for the issuer.  One takes a token apart at its last two dots and reads all claims,
the other wants exactly two dots and reads issuer and subject alone.

* `Claims.identifiers?_of_ofPayload?`: of an object, both find the same issuer and subject;
* `Verifier.signed_of_verify`: an accepted token is signed, so it has two dots;
* `Token.clientId_of_verify`: so the identifier that is read without a check is the issuer of an
  accepted token.
-/

import ClientAssertion.Proofs.Json.Record
import ClientAssertion.Proofs.Verifier.KeySet
import ClientAssertion.Proofs.Verifier.Mac

namespace ClientAssertion

/-! ### Claims -/

namespace Claims

theorem ofJson?_object {members : List (Option String × Json)} {claims : Claims}
    (read : ofJson? (.object members) = some claims) :
    ∃ fields, Json.knownMembers? names members = some fields ∧
      Json.optional? fields "iss" Json.asText? = some claims.issuer ∧
      Json.optional? fields "sub" Json.asText? = some claims.subject := by
  simp only [ofJson?, Json.fields?, Option.bind_eq_bind, Option.bind_eq_some_iff, Option.pure_def,
    Option.some.injEq] at read
  obtain ⟨fields, known, issuer, isIssuer, subject, isSubject, audience, -, expiresAt, -, notBefore, -,
    issuedAt, -, id, -, rfl⟩ := read
  exact ⟨fields, known, isIssuer, isSubject⟩

/-- **Of an object, issuer and subject are read alone as among all claims**: fewer known names may
be repeated, but these two may not. -/
theorem identifiers?_of_ofPayload? {payload : Bytes} {members : List (Option String × Json)}
    {claims : Claims} (object : Json.read? payload = some (.object members))
    (read : ofPayload? payload = some claims) :
    identifiers? payload = some (claims.issuer, claims.subject) := by
  obtain ⟨document, isDocument, isClaims, -⟩ := Verifier.ofPayload?_eq_some_iff.mp read
  obtain rfl := Option.some.inj (object.symm.trans isDocument)
  obtain ⟨fields, known, isIssuer, isSubject⟩ := ofJson?_object isClaims
  obtain ⟨part, knownPart, same⟩ := Json.knownMembers?_fewer ["iss", "sub"] (by decide) known
  have issuer : Json.optional? part "iss" Json.asText? = some claims.issuer := by
    rw [← isIssuer, Json.optional?, Json.optional?, Json.defaulted?, Json.defaulted?,
      same "iss" (by decide)]
  have subject : Json.optional? part "sub" Json.asText? = some claims.subject := by
    rw [← isSubject, Json.optional?, Json.optional?, Json.defaulted?, Json.defaulted?,
      same "sub" (by decide)]
  simp only [identifiers?, object, Json.fields?, knownPart, issuer, subject, Option.bind_eq_bind,
    Option.bind_some, Option.pure_def]

end Claims

/-! ### Tokens -/

namespace Token

/-- The payload of a token is a JSON object. -/
def CarriesObject (token : String) : Prop :=
  ∃ parts payload members, Parts.of? token = some parts ∧
    Base64Url.decodeChars? parts.payload = some payload ∧
    Json.read? payload = some (.object members)

/-- The identifier that a token claims is never empty. -/
theorem clientId_ne_empty {token issuer : String} (claimed : clientId token = .ok issuer) :
    issuer ≠ "" := by
  unfold clientId at claimed
  split at claimed
  case h_2 => cases claimed
  split at claimed
  case h_2 => cases claimed
  split at claimed
  case h_2 => cases claimed
  split at claimed
  case h_2 => cases claimed
  split_ifs at claimed with empty
  obtain rfl := Except.ok.inj claimed
  exact empty

theorem exactParts?_compact (header payload signature : Bytes) :
    exactParts? (compact header payload signature) =
      some (Parts.ofOctets header payload signature) := by
  have free : '.' ∉ (Parts.ofOctets header payload signature).header :=
    Base64Url.dot_not_mem_encodeChars header
  simp only [exactParts?, Parts.of?_compact, Option.bind_eq_bind, Option.bind_some, if_neg free]

theorem clientId_compact {header payload signature : Bytes} {issuer : String}
    {subject : Option String} (identified : Claims.identifiers? payload = some (some issuer, subject))
    (nonempty : issuer ≠ "") : clientId (compact header payload signature) = .ok issuer := by
  have decoded : Base64Url.decodeChars? (Parts.ofOctets header payload signature).payload =
      some payload := Base64Url.decodeChars?_encodeChars payload
  simp only [clientId, exactParts?_compact, decoded, identified, Option.some_or, if_neg nonempty]

/-- **The issuer of a signed token with an object is the identifier that it claims.** -/
theorem clientId_of_signed {algorithm : Algorithm} {key : Key} {token issuer : String}
    {decoded : Decoded} (signed : Signed algorithm key token decoded) (object : CarriesObject token)
    (issued : decoded.claims.issuer = some issuer) (nonempty : issuer ≠ "") :
    clientId token = .ok issuer := by
  obtain ⟨header, payload, signature, rfl, -, -, -, isClaims⟩ := signed
  obtain ⟨parts, octets, members, cut, decodedPart, isObject⟩ := object
  rw [Parts.of?_compact] at cut
  obtain rfl := Option.some.inj cut
  obtain rfl := Option.some.inj
    ((Base64Url.decodeChars?_encodeChars payload).symm.trans decodedPart)
  have identified := Claims.identifiers?_of_ofPayload? isObject isClaims
  rw [issued] at identified
  exact clientId_compact identified nonempty

end Token

/-! ### Accepted tokens -/

/-- A token that is accepted, by a secret or by a published key, is signed under a key. -/
theorem Verifier.signed_of_verify {State : Type} {verifier : Verifier} {source : KeySource State}
    {token : String} {state : State} {decoded : Decoded}
    (accepted : (verifier.verify source token state).result = .ok decoded) :
    ∃ key, Token.Signed verifier.algorithm key token decoded := by
  cases verifier with
  | mac algorithm secret =>
    exact ⟨_, Token.verify_eq_ok_iff.mp (verifyKey_eq_ok_iff.mp accepted)⟩
  | keySet algorithm url =>
    obtain ⟨_, key, -, -, signed⟩ := verify_keySet_eq_ok_iff.mp accepted
    exact ⟨key, signed⟩

/-- **The issuer of an accepted token with an object is the identifier that it claims.** -/
theorem Token.clientId_of_verify {State : Type} {verifier : Verifier} {source : KeySource State}
    {token issuer : String} {state : State} {decoded : Decoded} (object : CarriesObject token)
    (accepted : (verifier.verify source token state).result = .ok decoded)
    (issued : decoded.claims.issuer = some issuer) (nonempty : issuer ≠ "") :
    clientId token = .ok issuer := by
  obtain ⟨_, signed⟩ := Verifier.signed_of_verify accepted
  exact clientId_of_signed signed object issued nonempty

end ClientAssertion
