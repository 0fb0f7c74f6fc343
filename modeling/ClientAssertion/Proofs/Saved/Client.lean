/-
**Registrations are read back from their documents.**

* `ClientSettings.ofJson?_toJson` and `Client.lossless`: settings and whole registrations lose nothing,
  whatever texts they hold.
-/

import ClientAssertion.Client
import ClientAssertion.Proofs.Json.Document

namespace ClientAssertion

/-! ### Settings -/

namespace ClientSettings

/-- The columns of settings. -/
def columns (settings : ClientSettings) : List (String × Option Json) :=
  [("tokenEndpointAuthenticationSigningAlgorithm",
      settings.signingAlgorithm.map fun algorithm => .text algorithm.name),
    ("jwkSetUrl", settings.keySetUrl.map .text),
    ("requireProofKey", some (.bool settings.requireProofKey))]

theorem toJson_eq (settings : ClientSettings) :
    settings.toJson = .ofMembers (Json.present settings.columns) := by
  simp only [toJson, columns, Json.present_map, Json.present_some, Json.present_nil,
    List.append_assoc]

theorem writable_toJson (settings : ClientSettings) : settings.toJson.Writable := by
  rw [toJson_eq]
  refine Json.writable_present ?_
  simp [columns, Json.Writable.text, Json.Writable.bool]

/-- Settings are read back, whatever they hold. -/
theorem ofJson?_toJson (settings : ClientSettings) : ofJson? settings.toJson = some settings := by
  obtain ⟨fields, read, found⟩ := Json.exists_fields settings.columns names rfl (by decide)
  rw [← toJson_eq] at read
  have algorithm : fields.lookup "tokenEndpointAuthenticationSigningAlgorithm" =
    settings.signingAlgorithm.map fun algorithm => .text algorithm.name := found _
  have url : fields.lookup "jwkSetUrl" = settings.keySetUrl.map .text := found _
  have proofKey : fields.lookup "requireProofKey" = some (.bool settings.requireProofKey) := found _
  simp only [ofJson?, Option.bind_eq_bind, Option.bind_eq_some_iff]
  exact ⟨fields, read, _, Json.optional?_written algorithm rfl fun _ _ => Algorithm.ofName?_name _,
    _, Json.optional?_written url rfl fun _ _ => rfl, _, Json.defaulted?_written proofKey rfl, rfl⟩

end ClientSettings

/-! ### Registrations -/

namespace Client

/-- The columns of a registration. -/
def columns (client : Client) : List (String × Option Json) :=
  [("id", some (.text client.id)), ("clientId", some (.text client.clientId)),
    ("clientSecret", client.clientSecret.map .text), ("clientName", client.name.map .text),
    ("clientAuthenticationMethods", some (.texts (client.methods.map AuthMethod.name))),
    ("authorizationGrantTypes", some (.texts (client.grantTypes.map GrantType.name))),
    ("clientSettings", some client.settings.toJson)]

theorem toJson_eq (client : Client) : client.toJson = .ofMembers (Json.present client.columns) := by
  simp only [toJson, columns, Json.present_map, Json.present_some, Json.present_nil,
    List.append_assoc, List.cons_append, List.nil_append]

theorem writable_toJson (client : Client) : client.toJson.Writable := by
  rw [toJson_eq]
  refine Json.writable_present ?_
  simp [columns, Json.Writable.text, Json.writable_texts, ClientSettings.writable_toJson]

/-- A registration is read back with its settings. -/
theorem ofJson?_toJson (client : Client) : ofJson? client.toJson = some client := by
  obtain ⟨fields, read, found⟩ := Json.exists_fields client.columns names rfl (by decide)
  rw [← toJson_eq] at read
  have id : fields.lookup "id" = some (.text client.id) := found _
  have clientId : fields.lookup "clientId" = some (.text client.clientId) := found _
  have secret : fields.lookup "clientSecret" = client.clientSecret.map .text := found _
  have name : fields.lookup "clientName" = client.name.map .text := found _
  have methods : fields.lookup "clientAuthenticationMethods" =
    some (.texts (client.methods.map AuthMethod.name)) := found _
  have grantTypes : fields.lookup "authorizationGrantTypes" =
    some (.texts (client.grantTypes.map GrantType.name)) := found _
  have settings : fields.lookup "clientSettings" = some client.settings.toJson := found _
  simp only [ofJson?, Option.bind_eq_bind, Option.bind_eq_some_iff]
  exact ⟨fields, read, _, Json.required?_written id rfl, _, Json.required?_written clientId rfl,
    _, Json.optional?_written secret rfl fun _ _ => rfl,
    _, Json.optional?_written name rfl fun _ _ => rfl,
    _, Json.required?_written methods (Json.asList?_choices AuthMethod.ofName?_name _),
    _, Json.defaulted?_written grantTypes (Json.asList?_choices GrantType.ofName?_name _),
    _, Json.defaulted?_written settings client.settings.ofJson?_toJson, rfl⟩

/-- **A registration loses nothing**, whatever it holds. -/
theorem lossless : Json.Lossless ofJson? toJson fun _ => True :=
  ⟨writable_toJson, fun client _ => client.ofJson?_toJson, fun _ _ _ => trivial⟩

end Client

end ClientAssertion
