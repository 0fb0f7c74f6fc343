/-
**Claims are read back from their documents.**

* `Claims.TimesFit`: the times of claims fit into 64 bits, as those of all claims that were read do;
* `Claims.lossless`: such claims lose nothing, whether their audience is one text or a list.
-/

import ClientAssertion.Jose.Claims
import ClientAssertion.Proofs.Json.Document

namespace ClientAssertion

/-! ### Audiences -/

namespace Audience

/-- One text and a list of texts are read back as what they were. -/
theorem ofJson?_toJson (audience : Audience) : ofJson? audience.toJson = some audience := by
  cases audience with
  | one audience => rfl
  | many audiences =>
    have read := Json.asList?_texts audiences
    exact congrArg (Option.map Audience.many) read

theorem writable_toJson (audience : Audience) : audience.toJson.Writable := by
  cases audience with
  | one audience => exact .text audience
  | many audiences => exact Json.writable_texts audiences

end Audience

/-! ### Claims -/

namespace Claims

/-- The times of claims fit into 64 bits with a sign. -/
structure TimesFit (claims : Claims) : Prop where
  expiresAt : ∀ time ∈ claims.expiresAt, Json.FitsInt64 time
  notBefore : ∀ time ∈ claims.notBefore, Json.FitsInt64 time
  issuedAt : ∀ time ∈ claims.issuedAt, Json.FitsInt64 time

/-- The columns of claims. -/
def columns (claims : Claims) : List (String × Option Json) :=
  [("iss", claims.issuer.map .text), ("sub", claims.subject.map .text),
    ("aud", claims.audience.map Audience.toJson), ("exp", claims.expiresAt.map .int),
    ("nbf", claims.notBefore.map .int), ("iat", claims.issuedAt.map .int),
    ("jti", claims.tokenId.map .text)]

theorem toJson_eq (claims : Claims) : claims.toJson = .ofMembers (Json.present claims.columns) := by
  simp only [toJson, columns, Json.present_map, Json.present_nil, List.append_assoc, List.append_nil]

theorem writable_toJson (claims : Claims) : claims.toJson.Writable := by
  rw [toJson_eq]
  refine Json.writable_present ?_
  simp [columns, Json.Writable.text, Json.Writable.int, Audience.writable_toJson]

theorem ofJson?_toJson {claims : Claims} (fit : claims.TimesFit) :
    ofJson? claims.toJson = some claims := by
  obtain ⟨fields, read, found⟩ := Json.exists_fields claims.columns names rfl (by decide)
  rw [← toJson_eq] at read
  have issuer : fields.lookup "iss" = claims.issuer.map .text := found _
  have subject : fields.lookup "sub" = claims.subject.map .text := found _
  have audience : fields.lookup "aud" = claims.audience.map Audience.toJson := found _
  have expiresAt : fields.lookup "exp" = claims.expiresAt.map .int := found _
  have notBefore : fields.lookup "nbf" = claims.notBefore.map .int := found _
  have issuedAt : fields.lookup "iat" = claims.issuedAt.map .int := found _
  have tokenId : fields.lookup "jti" = claims.tokenId.map .text := found _
  have integer {time : Int} (fits : Json.FitsInt64 time) : (Json.int time).asInt64? = some time :=
    Json.asInt64?_eq_some_iff.mpr ⟨Json.integer?_int time, fits⟩
  simp only [ofJson?, Option.bind_eq_bind, Option.bind_eq_some_iff]
  exact ⟨fields, read, _, Json.optional?_written issuer rfl fun _ _ => rfl,
    _, Json.optional?_written subject rfl fun _ _ => rfl,
    _, Json.optional?_written audience rfl fun held _ => held.ofJson?_toJson,
    _, Json.optional?_written expiresAt rfl fun time held => integer (fit.expiresAt time held),
    _, Json.optional?_written notBefore rfl fun time held => integer (fit.notBefore time held),
    _, Json.optional?_written issuedAt rfl fun time held => integer (fit.issuedAt time held),
    _, Json.optional?_written tokenId rfl fun _ _ => rfl, rfl⟩

/-- The times of claims that were read fit. -/
theorem timesFit_of_ofJson? {document : Json} {claims : Claims}
    (read : ofJson? document = some claims) : claims.TimesFit := by
  have fits {fields : List (String × Json)} {name : String} {time : Option Int}
      (taken : Json.optional? fields name Json.asInt64? = some time) :
      ∀ held ∈ time, Json.FitsInt64 held := by
    intro held isHeld
    obtain ⟨document, isTime⟩ := Json.exists_of_optional? taken held isHeld
    exact (Json.asInt64?_eq_some_iff.mp isTime).2
  simp only [ofJson?, Option.bind_eq_bind, Option.bind_eq_some_iff] at read
  obtain ⟨fields, -, issuer, -, subject, -, audience, -, _, expiresAt, _, notBefore, _, issuedAt, id, -,
    ⟨⟩⟩ := read
  exact ⟨fits expiresAt, fits notBefore, fits issuedAt⟩

/-- **Claims lose nothing** if their times fit into 64 bits, as those that were read do. -/
theorem lossless : Json.Lossless ofJson? toJson TimesFit :=
  ⟨writable_toJson, fun _ => ofJson?_toJson, fun _ _ => timesFit_of_ofJson?⟩

end Claims

end ClientAssertion
