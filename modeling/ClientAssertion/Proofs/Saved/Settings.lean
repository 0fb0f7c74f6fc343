/-
**Settings of the server are read back from their documents.**

* `RemoteSettings.SizeFits`: the limit on the size of a reply fits into 64 bits, as all that were
  read do;
* `Settings.lossless`: such settings lose nothing, whatever their spans are.
-/

import ClientAssertion.Proofs.Json.Document
import ClientAssertion.Proofs.Time.Span
import ClientAssertion.Settings.Basic

namespace ClientAssertion

/-- A span is read back from the text that is written of it. -/
theorem Span.ofJson?_text (span : Span) : ofJson? (.text span.text) = some span := span.ofText?_text

/-! ### Endpoints -/

namespace Endpoints

/-- The columns of endpoints. -/
def columns (endpoints : Endpoints) : List (String × Option Json) :=
  endpoints.toList.map fun entry => (entry.1, some (.text entry.2))

theorem toJson_eq (endpoints : Endpoints) :
    endpoints.toJson = .ofMembers (Json.present endpoints.columns) := rfl

theorem writable_toJson (endpoints : Endpoints) : endpoints.toJson.Writable := by
  refine .ofMembers fun member known => ?_
  obtain ⟨entry, -, rfl⟩ := List.mem_map.mp known
  exact .text entry.2

/-- Endpoints are read back, whatever their paths are. -/
theorem ofJson?_toJson (endpoints : Endpoints) : ofJson? endpoints.toJson = some endpoints := by
  obtain ⟨fields, read, found⟩ := Json.exists_fields endpoints.columns names rfl (by decide)
  rw [← toJson_eq] at read
  have written {name path : String} (default : String)
      (isPath : (endpoints.columns.lookup name).join = some (.text path)) :
      Json.defaulted? fields name default Json.asText? = some path :=
    Json.defaulted?_written ((found name).trans isPath) rfl
  simp only [ofJson?, ofSettings?, Option.bind_eq_bind, Option.bind_eq_some_iff]
  exact ⟨fields, read, _, written _ rfl, _, written _ rfl, _, written _ rfl, _, written _ rfl,
    _, written _ rfl, rfl⟩

end Endpoints

/-! ### Sets of keys -/

namespace RemoteSettings

/-- The limit on the size of a reply fits into 64 bits. -/
def SizeFits (settings : RemoteSettings) : Prop := settings.maxResponseSize < 18446744073709551616

/-- The columns of the settings. -/
def columns (settings : RemoteSettings) : List (String × Option Json) :=
  [("ttl", some (.text settings.timeToLive.text)),
    ("request_timeout", some (.text settings.requestTimeout.text)),
    ("max_response_size", some (.nat settings.maxResponseSize)),
    ("require_https", some (.bool settings.requireHttps))]

theorem toJson_eq (settings : RemoteSettings) :
    settings.toJson = .ofMembers (Json.present settings.columns) := rfl

theorem writable_toJson (settings : RemoteSettings) : settings.toJson.Writable := by
  rw [toJson_eq]
  refine Json.writable_present ?_
  have size : (Json.nat settings.maxResponseSize).Writable := .int settings.maxResponseSize
  simp [columns, Json.Writable.text, Json.Writable.bool, size]

/-- The settings of key sets are read back. -/
theorem ofJson?_toJson {settings : RemoteSettings} (fits : settings.SizeFits) :
    ofJson? settings.toJson = some settings := by
  obtain ⟨fields, read, found⟩ := Json.exists_fields settings.columns names rfl (by decide)
  rw [← toJson_eq] at read
  have timeToLive : fields.lookup "ttl" = some (.text settings.timeToLive.text) := found _
  have timeout : fields.lookup "request_timeout" = some (.text settings.requestTimeout.text) :=
    found _
  have size : fields.lookup "max_response_size" = some (.nat settings.maxResponseSize) := found _
  have https : fields.lookup "require_https" = some (.bool settings.requireHttps) := found _
  have number : (Json.nat settings.maxResponseSize).asNat64? = some settings.maxResponseSize :=
    Json.asNat64?_eq_some_iff.mpr ⟨Json.integer?_int settings.maxResponseSize, fits⟩
  simp only [ofJson?, Option.bind_eq_bind, Option.bind_eq_some_iff]
  exact ⟨fields, read, _, Json.defaulted?_written timeToLive (Span.ofJson?_text _),
    _, Json.defaulted?_written timeout (Span.ofJson?_text _), _, Json.defaulted?_written size number,
    _, Json.defaulted?_written https rfl, rfl⟩

/-- The limit of settings that were read fits. -/
theorem sizeFits_of_ofJson? {document : Json} {settings : RemoteSettings}
    (read : ofJson? document = some settings) : settings.SizeFits := by
  simp only [ofJson?, Option.bind_eq_bind, Option.bind_eq_some_iff] at read
  obtain ⟨fields, -, timeToLive, -, timeout, -, size, taken, https, -, ⟨⟩⟩ := read
  obtain rfl | ⟨_, isSize⟩ := Json.eq_or_exists_of_defaulted? taken
  · exact (by decide : RemoteSettings.defaultMaxResponseSize < 18446744073709551616)
  · exact (Json.asNat64?_eq_some_iff.mp isSize).2

end RemoteSettings

/-! ### All settings -/

namespace Settings

/-- The columns of the settings of the stores. -/
def storageColumns (settings : Settings) : List (String × Option Json) :=
  [("lookup_timeout", some (.text settings.lookupTimeout.text))]

/-- The columns of settings. -/
def columns (settings : Settings) : List (String × Option Json) :=
  [("issuer", some (.text settings.issuer)), ("endpoints", some settings.endpoints.toJson),
    ("jwks", some settings.keys.toJson),
    ("storage", some (.ofMembers (Json.present settings.storageColumns)))]

theorem toJson_eq (settings : Settings) :
    settings.toJson = .ofMembers (Json.present settings.columns) := rfl

theorem writable_toJson (settings : Settings) : settings.toJson.Writable := by
  have storage : (Json.ofMembers (Json.present settings.storageColumns)).Writable :=
    Json.writable_present (by simp [storageColumns, Json.Writable.text])
  rw [toJson_eq]
  refine Json.writable_present ?_
  simp [columns, Json.Writable.text, Endpoints.writable_toJson, RemoteSettings.writable_toJson, storage]

/-- So are the settings of the stores. -/
theorem lookupTimeoutOfJson?_toJson (settings : Settings) :
    lookupTimeoutOfJson? (.ofMembers (Json.present settings.storageColumns)) =
      some settings.lookupTimeout := by
  obtain ⟨fields, read, found⟩ := Json.exists_fields settings.storageColumns ["lookup_timeout"] rfl
    (by decide)
  have timeout : fields.lookup "lookup_timeout" = some (.text settings.lookupTimeout.text) := found _
  rw [lookupTimeoutOfJson?, read]
  exact Json.defaulted?_written timeout (Span.ofJson?_text _)

/-- Settings are read back section by section. -/
theorem ofJson?_toJson {settings : Settings} (fits : settings.keys.SizeFits) :
    ofJson? settings.toJson = some settings := by
  obtain ⟨fields, read, found⟩ := Json.exists_fields settings.columns names rfl (by decide)
  rw [← toJson_eq] at read
  have issuer : fields.lookup "issuer" = some (.text settings.issuer) := found _
  have endpoints : fields.lookup "endpoints" = some settings.endpoints.toJson := found _
  have keys : fields.lookup "jwks" = some settings.keys.toJson := found _
  have storage : fields.lookup "storage" =
    some (.ofMembers (Json.present settings.storageColumns)) := found _
  simp only [ofJson?, Option.bind_eq_bind, Option.bind_eq_some_iff]
  exact ⟨fields, read, _, Json.defaulted?_written issuer rfl,
    _, Json.defaulted?_written endpoints settings.endpoints.ofJson?_toJson,
    _, Json.defaulted?_written keys (RemoteSettings.ofJson?_toJson fits),
    _, Json.defaulted?_written storage settings.lookupTimeoutOfJson?_toJson, rfl⟩

/-- The limit of all settings that were read fits: it is that of a section, or the default. -/
theorem sizeFits_of_ofJson? {document : Json} {settings : Settings}
    (read : ofJson? document = some settings) : settings.keys.SizeFits := by
  simp only [ofJson?, Option.bind_eq_bind, Option.bind_eq_some_iff] at read
  obtain ⟨fields, -, issuer, -, endpoints, -, keys, taken, storage, -, ⟨⟩⟩ := read
  obtain rfl | ⟨_, areKeys⟩ := Json.eq_or_exists_of_defaulted? taken
  · exact (by decide : RemoteSettings.defaultMaxResponseSize < 18446744073709551616)
  · exact RemoteSettings.sizeFits_of_ofJson? areKeys

/-- **Settings lose nothing** if the limit on the size of a reply fits into 64 bits, as it does in
settings that were read. -/
theorem lossless : Json.Lossless ofJson? toJson fun settings => settings.keys.SizeFits :=
  ⟨writable_toJson, fun _ => ofJson?_toJson, fun _ _ => sizeFits_of_ofJson?⟩

end Settings

end ClientAssertion
