/-
**Authorizations are read back from their documents.**

The tokens and the further parameters come out in any order, and are read alike in all of them.

* `AuthorizationRequest.lossless`: a request loses nothing, whatever texts and further parameters it
  holds;
* `Authorization.HasYears`: the times of an authorization's tokens have years of four digits, as those of
  all authorizations that were read do;
* `Authorization.lossless`: such authorizations lose nothing, neither in the times to the nanosecond
  nor in the offsets of their clocks;
* `alike_toJson`: two documents of one value differ in nothing but the order of members.
-/

import ClientAssertion.Authorization
import ClientAssertion.Proofs.Dictionary
import ClientAssertion.Proofs.Json.Alike
import ClientAssertion.Proofs.Json.Document
import ClientAssertion.Proofs.Time.Timestamp

namespace ClientAssertion

/-! ### Requests -/

namespace AuthorizationRequest

/-- The columns of a request; further parameters are left out where there are none. -/
def columns (arrangement : Arrangement Json) (request : AuthorizationRequest) :
    List (String × Option Json) :=
  [("clientId", some (.text request.clientId)), ("redirectUri", request.redirectUri.map .text),
    ("scopes", some (.texts request.scopes)), ("state", request.state.map .text),
    ("codeChallenge", request.codeChallenge.map .text),
    ("codeChallengeMethod", request.codeChallengeMethod.map .text),
    ("additionalParameters",
      if request.further.entries = [] then none else some (furtherJson arrangement request.further))]

theorem toJson_eq (arrangement : Arrangement Json) (request : AuthorizationRequest) :
    request.toJson arrangement = .ofMembers (Json.present (request.columns arrangement)) := by
  by_cases none : request.further.entries = []
  · simp only [toJson, columns, if_pos none, Json.present_map, Json.present_some, Json.present_none,
      Json.present_nil, List.append_assoc, List.cons_append]
  · simp only [toJson, columns, if_neg none, Json.present_map, Json.present_some, Json.present_nil,
      List.append_assoc, List.cons_append]

theorem writable_furtherJson (arrangement : Arrangement Json) (further : Dictionary String) :
    (furtherJson arrangement further).Writable := by
  refine .ofMembers fun member known => ?_
  obtain ⟨entry, -, rfl⟩ := List.mem_map.mp ((arrangement.perm _).subset known)
  exact .text entry.2

theorem writable_toJson (arrangement : Arrangement Json) (request : AuthorizationRequest) :
    (request.toJson arrangement).Writable := by
  rw [toJson_eq]
  refine Json.writable_present ?_
  simp [columns, Json.Writable.text, Json.writable_texts, writable_furtherJson]

/-- Further parameters are read back from any order of them. -/
theorem parameters?_furtherJson (arrangement : Arrangement Json) (further : Dictionary String) :
    parameters? (furtherJson arrangement further) = some further := by
  obtain ⟨arranged, perm, pairs⟩ :
      ∃ arranged, arranged.Perm further.entries ∧
        (furtherJson arrangement further).asPairs? some Json.asText? = some arranged :=
    Json.asPairs?_arranged id .text arrangement fun _ _ => ⟨rfl, rfl⟩
  rw [parameters?, pairs, Option.map_some, Dictionary.ofPairs_of_perm perm]

theorem ofJson?_toJson (arrangement : Arrangement Json) (request : AuthorizationRequest) :
    ofJson? (request.toJson arrangement) = some request := by
  obtain ⟨fields, read, found⟩ := Json.exists_fields (request.columns arrangement) names rfl (by decide)
  rw [← toJson_eq] at read
  have clientId : fields.lookup "clientId" = some (.text request.clientId) := found _
  have redirectUri : fields.lookup "redirectUri" = request.redirectUri.map .text := found _
  have scopes : fields.lookup "scopes" = some (.texts request.scopes) := found _
  have state : fields.lookup "state" = request.state.map .text := found _
  have challenge : fields.lookup "codeChallenge" = request.codeChallenge.map .text := found _
  have method : fields.lookup "codeChallengeMethod" = request.codeChallengeMethod.map .text := found _
  have further : fields.lookup "additionalParameters" =
    if request.further.entries = [] then none
    else some (furtherJson arrangement request.further) := found _
  have parameters : Json.defaulted? fields "additionalParameters" .empty parameters? =
      some request.further := by
    by_cases none : request.further.entries = []
    · rw [if_pos none] at further
      rw [Json.defaulted?, further, ← Dictionary.ofPairs_entries request.further, none]
      rfl
    · rw [if_neg none] at further
      exact Json.defaulted?_written further (parameters?_furtherJson _ _)
  simp only [ofJson?, Option.bind_eq_bind, Option.bind_eq_some_iff]
  exact ⟨fields, read, _, Json.defaulted?_written clientId rfl,
    _, Json.optional?_written redirectUri rfl fun _ _ => rfl,
    _, Json.defaulted?_written scopes (Json.asList?_texts _),
    _, Json.optional?_written state rfl fun _ _ => rfl,
    _, Json.optional?_written challenge rfl fun _ _ => rfl,
    _, Json.optional?_written method rfl fun _ _ => rfl, _, parameters, rfl⟩

/-- **A request loses nothing**, whatever it holds. -/
theorem lossless (arrangement : Arrangement Json) :
    Json.Lossless ofJson? (toJson arrangement) fun _ => True :=
  ⟨writable_toJson arrangement, fun request _ => request.ofJson?_toJson arrangement,
    fun _ _ _ => trivial⟩

/-- Two documents of a request differ in the order of its further parameters. -/
theorem alike_toJson (first second : Arrangement Json) (request : AuthorizationRequest) :
    Json.Alike (request.toJson first) (request.toJson second) := by
  by_cases none : request.further.entries = []
  · simp only [toJson, if_pos none]
    exact .refl _
  · simp only [toJson, if_neg none]
    exact Json.alike_member _ [] _ (Json.alike_arranged first second _)

end AuthorizationRequest

/-! ### Tokens -/

namespace IssuedToken

/-- The times of a token have years of four digits. -/
structure HasYears (token : IssuedToken) : Prop where
  issuedAt : token.issuedAt.HasYear
  expiresAt : ∀ expiry ∈ token.expiresAt, expiry.HasYear

/-- The columns of a token. -/
def columns (token : IssuedToken) : List (String × Option Json) :=
  [("value", some (.text token.value)), ("issuedAt", some (.text token.issuedAt.text)),
    ("expiresAt", token.expiresAt.map fun expiry => .text expiry.text),
    ("invalidated", some (.bool token.invalidated))]

theorem toJson_eq (token : IssuedToken) : token.toJson = .ofMembers (Json.present token.columns) := by
  simp only [toJson, columns, Json.present_map, Json.present_some, Json.present_nil,
    List.cons_append, List.nil_append]

theorem writable_toJson (token : IssuedToken) : token.toJson.Writable := by
  rw [toJson_eq]
  refine Json.writable_present ?_
  simp [columns, Json.Writable.text, Json.Writable.bool]

theorem time?_text {time : Timestamp} (hasYear : time.HasYear) : time? (.text time.text) = some time := by
  rw [time?, Json.text, Json.asText?, Option.bind_eq_bind, Option.bind_some,
    Timestamp.ofText?_text hasYear]

theorem ofJson?_toJson {token : IssuedToken} (years : token.HasYears) :
    ofJson? token.toJson = some token := by
  obtain ⟨fields, read, found⟩ := Json.exists_fields token.columns names rfl (by decide)
  rw [← toJson_eq] at read
  have value : fields.lookup "value" = some (.text token.value) := found _
  have issuedAt : fields.lookup "issuedAt" = some (.text token.issuedAt.text) := found _
  have expiresAt : fields.lookup "expiresAt" =
    token.expiresAt.map fun expiry => .text expiry.text := found _
  have invalidated : fields.lookup "invalidated" = some (.bool token.invalidated) := found _
  simp only [ofJson?, Option.bind_eq_bind, Option.bind_eq_some_iff]
  exact ⟨fields, read, _, Json.required?_written value rfl,
    _, Json.required?_written issuedAt (time?_text years.issuedAt),
    _, Json.optional?_written expiresAt rfl fun expiry held => time?_text (years.expiresAt expiry held),
    _, Json.defaulted?_written invalidated rfl, rfl⟩

theorem hasYear_of_time? {document : Json} {time : Timestamp} (read : time? document = some time) :
    time.HasYear := by
  obtain ⟨text, -, isTime⟩ := Option.bind_eq_some_iff.mp read
  exact Timestamp.hasYear_of_ofText? isTime

/-- The times of a token that was read have years. -/
theorem hasYears_of_ofJson? {document : Json} {token : IssuedToken}
    (read : ofJson? document = some token) : token.HasYears := by
  simp only [ofJson?, Option.bind_eq_bind, Option.bind_eq_some_iff] at read
  obtain ⟨fields, -, value, -, _, issuedAt, _, expiresAt, invalidated, -, ⟨⟩⟩ := read
  obtain ⟨_, isIssue⟩ := Json.exists_of_required? issuedAt
  refine ⟨hasYear_of_time? isIssue, fun expiry held => ?_⟩
  obtain ⟨document, isExpiry⟩ := Json.exists_of_optional? expiresAt expiry held
  exact hasYear_of_time? isExpiry

end IssuedToken

namespace IssuedTokens

/-- The times of all tokens have years of four digits. -/
def HasYears (tokens : IssuedTokens) : Prop :=
  ∀ type, ∀ token ∈ tokens.get? type, token.HasYears

theorem get?_of_mem_toList {tokens : IssuedTokens} {pair : TokenType × IssuedToken}
    (member : pair ∈ tokens.toList) : tokens.get? pair.1 = some pair.2 := by
  obtain ⟨type, -, held⟩ := List.mem_filterMap.mp member
  obtain ⟨token, isToken, rfl⟩ := Option.map_eq_some_iff.mp held
  exact isToken

theorem ofPairs_toList (tokens : IssuedTokens) : ofPairs tokens.toList = tokens := by
  obtain ⟨code, accessToken, refreshToken⟩ := tokens
  cases code <;> cases accessToken <;> cases refreshToken <;> rfl

/-- Tokens of two types are put in in either order. -/
theorem insert_comm (tokens : IssuedTokens) {type other : TokenType} (distinct : type ≠ other)
    (token second : IssuedToken) :
    (tokens.insert type token).insert other second =
      (tokens.insert other second).insert type token := by
  cases type <;> cases other <;> first | rfl | exact absurd rfl distinct

/-- Tokens are those of their list in any order. -/
theorem ofPairs_of_perm {tokens : IssuedTokens} {pairs : List (TokenType × IssuedToken)}
    (perm : pairs.Perm tokens.toList) : ofPairs pairs = tokens := by
  have single : ∀ first ∈ tokens.toList, ∀ second ∈ tokens.toList, first.1 = second.1 →
      first = second := by
    intro first isFirst second isSecond same
    have isToken := get?_of_mem_toList isFirst
    rw [same, get?_of_mem_toList isSecond] at isToken
    exact Prod.ext same (Option.some.inj isToken).symm
  rw [ofPairs, foldl_of_perm (fun start _ _ different => insert_comm start different _ _) perm single,
    ← ofPairs, ofPairs_toList]

theorem writable_toJson (arrangement : Arrangement Json) (tokens : IssuedTokens) :
    (tokens.toJson arrangement).Writable := by
  refine .ofMembers fun member known => ?_
  obtain ⟨pair, -, rfl⟩ := List.mem_map.mp ((arrangement.perm _).subset known)
  exact pair.2.writable_toJson

/-- Tokens are read back from any order of them. -/
theorem ofJson?_toJson (arrangement : Arrangement Json) {tokens : IssuedTokens}
    (years : tokens.HasYears) : ofJson? (tokens.toJson arrangement) = some tokens := by
  obtain ⟨arranged, perm, pairs⟩ :
      ∃ arranged, arranged.Perm tokens.toList ∧
        (tokens.toJson arrangement).asPairs? TokenType.ofName? IssuedToken.ofJson? = some arranged :=
    Json.asPairs?_arranged TokenType.name IssuedToken.toJson arrangement fun pair member =>
      ⟨TokenType.ofName?_name pair.1,
        IssuedToken.ofJson?_toJson (years pair.1 pair.2 (get?_of_mem_toList member))⟩
  rw [ofJson?, pairs, Option.map_some, ofPairs_of_perm perm]

/-- Tokens that are put in are all that tokens of pairs hold. -/
theorem get?_foldl_insert {start : IssuedTokens} {pairs : List (TokenType × IssuedToken)}
    {type : TokenType} {token : IssuedToken}
    (held : (pairs.foldl (fun tokens pair => tokens.insert pair.1 pair.2) start).get? type =
      some token) : start.get? type = some token ∨ ∃ pair ∈ pairs, pair.2 = token := by
  induction pairs generalizing start with
  | nil => exact .inl held
  | cons pair pairs hypothesis =>
    obtain before | ⟨other, member, same⟩ := hypothesis held
    · rw [get?_insert] at before
      split at before
      · exact .inr ⟨pair, List.mem_cons_self, Option.some.inj before⟩
      · exact .inl before
    · exact .inr ⟨other, List.mem_cons_of_mem _ member, same⟩

/-- The times of tokens that were read have years. -/
theorem hasYears_of_ofJson? {document : Json} {tokens : IssuedTokens}
    (read : ofJson? document = some tokens) : tokens.HasYears := by
  obtain ⟨pairs, arePairs, rfl⟩ := Option.map_eq_some_iff.mp read
  intro type token held
  obtain none | ⟨pair, member, rfl⟩ := get?_foldl_insert held
  · cases type <;> cases none
  · obtain ⟨part, isToken⟩ := Json.exists_of_asPairs? arePairs pair member
    exact IssuedToken.hasYears_of_ofJson? isToken

end IssuedTokens

/-! ### Authorizations -/

namespace Authorization

/-- The times of an authorization's tokens have years of four digits. -/
def HasYears (authorization : Authorization) : Prop := authorization.tokens.HasYears

/-- The columns of an authorization. -/
def columns (arrangement : Arrangement Json) (authorization : Authorization) :
    List (String × Option Json) :=
  [("id", some (.text authorization.id)),
    ("registeredClientId", some (.text authorization.registeredClientId)),
    ("principalName", some (.text authorization.principalName)),
    ("authorizationGrantType", some (.text authorization.grantType.name)),
    ("authorizationRequest", authorization.request.map (AuthorizationRequest.toJson arrangement)),
    ("tokens", some (authorization.tokens.toJson arrangement))]

theorem toJson_eq (arrangement : Arrangement Json) (authorization : Authorization) :
    authorization.toJson arrangement =
      .ofMembers (Json.present (authorization.columns arrangement)) := by
  simp only [toJson, columns, Json.present_map, Json.present_some, Json.present_nil,
    List.cons_append, List.nil_append]

theorem writable_toJson (arrangement : Arrangement Json) (authorization : Authorization) :
    (authorization.toJson arrangement).Writable := by
  rw [toJson_eq]
  refine Json.writable_present ?_
  simp [columns, Json.Writable.text, AuthorizationRequest.writable_toJson,
    IssuedTokens.writable_toJson]

theorem ofJson?_toJson (arrangement : Arrangement Json) {authorization : Authorization}
    (years : authorization.HasYears) :
    ofJson? (authorization.toJson arrangement) = some authorization := by
  obtain ⟨fields, read, found⟩ :=
    Json.exists_fields (authorization.columns arrangement) names rfl (by decide)
  rw [← toJson_eq] at read
  have id : fields.lookup "id" = some (.text authorization.id) := found _
  have client : fields.lookup "registeredClientId" =
    some (.text authorization.registeredClientId) := found _
  have principal : fields.lookup "principalName" = some (.text authorization.principalName) := found _
  have grantType : fields.lookup "authorizationGrantType" =
    some (.text authorization.grantType.name) := found _
  have request : fields.lookup "authorizationRequest" =
    authorization.request.map (AuthorizationRequest.toJson arrangement) := found _
  have tokens : fields.lookup "tokens" = some (authorization.tokens.toJson arrangement) := found _
  simp only [ofJson?, Option.bind_eq_bind, Option.bind_eq_some_iff]
  exact ⟨fields, read, _, Json.required?_written id rfl, _, Json.required?_written client rfl,
    _, Json.required?_written principal rfl,
    _, Json.required?_written grantType (GrantType.ofName?_name _),
    _, Json.optional?_written request rfl fun held _ => held.ofJson?_toJson arrangement,
    _, Json.defaulted?_written tokens (IssuedTokens.ofJson?_toJson arrangement years), rfl⟩

/-- The times of an authorization that was read have years. -/
theorem hasYears_of_ofJson? {document : Json} {authorization : Authorization}
    (read : ofJson? document = some authorization) : authorization.HasYears := by
  simp only [ofJson?, Option.bind_eq_bind, Option.bind_eq_some_iff] at read
  obtain ⟨fields, -, id, -, client, -, principal, -, grantType, -, request, -, tokens, taken, ⟨⟩⟩ := read
  rw [Json.defaulted?] at taken
  split at taken
  · cases taken
    rintro (_ | _ | _) _ ⟨⟩
  · exact IssuedTokens.hasYears_of_ofJson? taken

/-- **An authorization loses nothing** if the times of its tokens have years of four digits, as
those of an authorization that was read have. -/
theorem lossless (arrangement : Arrangement Json) :
    Json.Lossless ofJson? (toJson arrangement) HasYears :=
  ⟨writable_toJson arrangement, fun _ => ofJson?_toJson arrangement, fun _ _ => hasYears_of_ofJson?⟩

/-- Two documents of an authorization differ in the order of its tokens and of the further
parameters of its request. -/
theorem alike_toJson (first second : Arrangement Json) (authorization : Authorization) :
    Json.Alike (authorization.toJson first) (authorization.toJson second) :=
  (Json.alike_optional _ _ _ _ (AuthorizationRequest.alike_toJson first second)).trans
    (Json.alike_member _ [] _ (Json.alike_arranged first second _))

end Authorization

end ClientAssertion
