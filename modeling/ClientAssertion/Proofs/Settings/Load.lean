/-
**Settings are taken one by one.**

* `ofValue?_eq_some_iff`: settings are what each single setting is read from at its own path, or else
  its default;
* `load_eq_ok_iff`, `load_eq_error_iff`: loaded are the settings that the environment, or else the file,
  or else the defaults give, if all of them can be read and they have no flaw;
* `load_overrides`: so a file counts only where the environment gives nothing, and a variable only for
  its own setting.
-/

import ClientAssertion.Proofs.Settings.File

namespace ClientAssertion

/-! ### Values of single settings -/

namespace Setting

/-- The type of a setting. -/
abbrev Kind : Setting → Type
  | .issuer | .authorizationEndpoint | .tokenEndpoint | .keySetEndpoint | .revocationEndpoint
  | .introspectionEndpoint => String
  | .timeToLive | .requestTimeout | .lookupTimeout => Span
  | .maxResponseSize => Nat
  | .requireHttps => Bool

/-- What a value stands for as a setting. -/
def read? : (setting : Setting) → Settings.Value → Option setting.Kind
  | .issuer | .authorizationEndpoint | .tokenEndpoint | .keySetEndpoint | .revocationEndpoint
  | .introspectionEndpoint => Settings.Value.text?
  | .timeToLive | .requestTimeout | .lookupTimeout => Span.ofValue?
  | .maxResponseSize => Settings.Value.nat64?
  | .requireHttps => Settings.Value.bool?

/-- One of all settings. -/
def get (settings : Settings) : (setting : Setting) → setting.Kind
  | .issuer => settings.issuer
  | .authorizationEndpoint => settings.endpoints.authorization
  | .tokenEndpoint => settings.endpoints.token
  | .keySetEndpoint => settings.endpoints.keySet
  | .revocationEndpoint => settings.endpoints.revocation
  | .introspectionEndpoint => settings.endpoints.introspection
  | .timeToLive => settings.keys.timeToLive
  | .requestTimeout => settings.keys.requestTimeout
  | .maxResponseSize => settings.keys.maxResponseSize
  | .requireHttps => settings.keys.requireHttps
  | .lookupTimeout => settings.lookupTimeout

/-- All settings, from their values. -/
def all (value : (setting : Setting) → setting.Kind) : Settings where
  issuer := value .issuer
  endpoints :=
    { authorization := value .authorizationEndpoint
      token := value .tokenEndpoint
      keySet := value .keySetEndpoint
      revocation := value .revocationEndpoint
      introspection := value .introspectionEndpoint }
  keys :=
    { timeToLive := value .timeToLive
      requestTimeout := value .requestTimeout
      maxResponseSize := value .maxResponseSize
      requireHttps := value .requireHttps }
  lookupTimeout := value .lookupTimeout

theorem get_all (value : (setting : Setting) → setting.Kind) (setting : Setting) :
    get (all value) setting = value setting := by
  cases setting <;> rfl

theorem all_get (settings : Settings) : all (fun setting => setting.get settings) = settings := rfl

/-- What a setting is where a value is given or none, which leaves the default. -/
def taken? (setting : Setting) : (given : Option Settings.Value) → Option setting.Kind
  | none => some (setting.get {})
  | some value => setting.read? value

end Setting

/-! ### Sections of settings -/

section Sections

open Settings (Value)

namespace Endpoints

/-- The endpoints are read one by one. -/
theorem ofValue?_eq_some_iff {entries : List (String × Value)} {endpoints : Endpoints} :
    ofValue? (.table entries) = some endpoints ↔
      Value.defaulted? entries "authorization_endpoint" ({} : Endpoints).authorization Value.text? =
          some endpoints.authorization ∧
        Value.defaulted? entries "token_endpoint" ({} : Endpoints).token Value.text? =
          some endpoints.token ∧
        Value.defaulted? entries "jwk_set_endpoint" ({} : Endpoints).keySet Value.text? =
          some endpoints.keySet ∧
        Value.defaulted? entries "token_revocation_endpoint" ({} : Endpoints).revocation Value.text? =
          some endpoints.revocation ∧
        Value.defaulted? entries "token_introspection_endpoint" ({} : Endpoints).introspection
          Value.text? = some endpoints.introspection := by
  simp only [ofValue?, ofSettings?, Value.fields?, Option.bind_eq_bind,
    Option.bind_some, Option.bind_eq_some_iff, Option.pure_def]
  constructor
  · rintro ⟨_, authorization, _, token, _, keySet, _, revocation, _, introspection, ⟨⟩⟩
    exact ⟨authorization, token, keySet, revocation, introspection⟩
  · rintro ⟨authorization, token, keySet, revocation, introspection⟩
    exact ⟨_, authorization, _, token, _, keySet, _, revocation, _, introspection, rfl⟩

end Endpoints

namespace RemoteSettings

/-- The settings of key sets are read one by one. -/
theorem ofValue?_eq_some_iff {entries : List (String × Value)}
    {settings : RemoteSettings} :
    ofValue? (.table entries) = some settings ↔
      Value.defaulted? entries "ttl" defaultTimeToLive Span.ofValue? =
          some settings.timeToLive ∧
        Value.defaulted? entries "request_timeout" defaultRequestTimeout
          Span.ofValue? = some settings.requestTimeout ∧
        Value.defaulted? entries "max_response_size" defaultMaxResponseSize
          Value.nat64? = some settings.maxResponseSize ∧
        Value.defaulted? entries "require_https" true Value.bool? = some settings.requireHttps := by
  simp only [ofValue?, Value.fields?, Option.bind_eq_bind, Option.bind_some,
    Option.bind_eq_some_iff, Option.pure_def]
  constructor
  · rintro ⟨_, timeToLive, _, requestTimeout, _, size, _, https, ⟨⟩⟩
    exact ⟨timeToLive, requestTimeout, size, https⟩
  · rintro ⟨timeToLive, requestTimeout, size, https⟩
    exact ⟨_, timeToLive, _, requestTimeout, _, size, _, https, rfl⟩

end RemoteSettings

end Sections

namespace Settings

/-- The settings that are read from what is given for each, or the defaults. -/
def Taken (given : Setting → Option Value) (settings : Settings) : Prop :=
  ∀ setting : Setting, setting.taken? (given setting) = some (setting.get settings)

/-- Something is given for each setting that can be read, or else there is one for which not. -/
theorem exists_taken (given : Setting → Option Value) :
    (∃ settings, Taken given settings) ∨ ∃ setting : Setting, setting.taken? (given setting) = none := by
  by_cases each : ∀ setting : Setting, (setting.taken? (given setting)).isSome = true
  · refine .inl ⟨Setting.all fun setting => (setting.taken? (given setting)).get (each setting), ?_⟩
    intro setting
    rw [Setting.get_all, Option.some_get]
  · obtain ⟨setting, unreadable⟩ := Classical.not_forall.mp each
    exact .inr ⟨setting, Option.not_isSome_iff_eq_none.mp unreadable⟩

theorem Taken.unique {given : Setting → Option Value} {settings others : Settings}
    (taken : Taken given settings) (takenToo : Taken given others) : settings = others := by
  rw [← Setting.all_get settings, ← Setting.all_get others]
  refine congrArg Setting.all (funext fun setting => ?_)
  exact Option.some.inj ((taken setting).symm.trans (takenToo setting))

/-! ### Reading a value -/

section Read

variable {root : Value}

theorem taken?_top : Setting.taken? .issuer (root.at? (Setting.path .issuer)) =
    Value.defaulted? root.entries "issuer" (Setting.get {} .issuer) Value.text? := by
  rw [Setting.path, Value.at?, Value.defaulted?]
  cases Table.find? "issuer" root.entries <;> rfl

theorem taken?_inside {setting : Setting} {above key : String} (path : setting.path = [above, key]) :
    setting.taken? (root.at? setting.path) =
      Value.defaulted? (Value.entry above root.entries).entries key (setting.get {}) setting.read? := by
  rw [path, Value.at?_cons_cons, Value.defaulted?, Value.at?]
  cases Table.find? key (Value.entry above root.entries).entries <;> rfl

/-- The sections of settings are read one by one. -/
theorem ofValue?_eq_some_iff_sections {entries : List (String × Value)} {settings : Settings} :
    ofValue? (.table entries) = some settings ↔
      Value.defaulted? entries "issuer" defaultIssuer Value.text? = some settings.issuer ∧
        Value.defaulted? entries "endpoints" {} Endpoints.ofValue? = some settings.endpoints ∧
        Value.defaulted? entries "jwks" {} RemoteSettings.ofValue? = some settings.keys ∧
        Value.defaulted? entries "storage" defaultLookupTimeout lookupTimeoutOfValue? =
          some settings.lookupTimeout := by
  simp only [ofValue?, Value.fields?, Option.bind_eq_bind, Option.bind_some, Option.bind_eq_some_iff,
    Option.pure_def]
  constructor
  · rintro ⟨_, issuer, _, endpoints, _, keys, _, lookupTimeout, ⟨⟩⟩
    exact ⟨issuer, endpoints, keys, lookupTimeout⟩
  · rintro ⟨issuer, endpoints, keys, lookupTimeout⟩
    exact ⟨_, issuer, _, endpoints, _, keys, _, lookupTimeout, rfl⟩

/-- **Settings are read one by one** from the value of the sources, each at its own path. -/
theorem ofValue?_eq_some_iff (isTable : root = .table root.entries) (sectioned : Sectioned root)
    {settings : Settings} :
    ofValue? root = some settings ↔ Taken (fun setting => root.at? setting.path) settings := by
  have noEndpoints : Endpoints.ofValue? (.table []) = some {} := rfl
  have noKeys : RemoteSettings.ofValue? (.table []) = some {} := rfl
  have noStorage : lookupTimeoutOfValue? (.table []) = some defaultLookupTimeout := rfl
  have read : ofValue? root = some settings ↔ ofValue? (.table root.entries) = some settings := by
    rw [← isTable]
  rw [read, ofValue?_eq_some_iff_sections,
    Value.defaulted?_section (sectioned "endpoints" (by simp)) noEndpoints,
    Value.defaulted?_section (sectioned "jwks" (by simp)) noKeys,
    Value.defaulted?_section (sectioned "storage" (by simp)) noStorage,
    Endpoints.ofValue?_eq_some_iff, RemoteSettings.ofValue?_eq_some_iff]
  constructor
  · rintro ⟨issuer, ⟨authorization, token, keySet, revocation, introspection⟩,
      ⟨timeToLive, requestTimeout, size, https⟩, lookupTimeout⟩ setting
    cases setting with
    | issuer => exact taken?_top.trans issuer
    | authorizationEndpoint => exact (taken?_inside rfl).trans authorization
    | tokenEndpoint => exact (taken?_inside rfl).trans token
    | keySetEndpoint => exact (taken?_inside rfl).trans keySet
    | revocationEndpoint => exact (taken?_inside rfl).trans revocation
    | introspectionEndpoint => exact (taken?_inside rfl).trans introspection
    | timeToLive => exact (taken?_inside rfl).trans timeToLive
    | requestTimeout => exact (taken?_inside rfl).trans requestTimeout
    | maxResponseSize => exact (taken?_inside rfl).trans size
    | requireHttps => exact (taken?_inside rfl).trans https
    | lookupTimeout => exact (taken?_inside rfl).trans lookupTimeout
  · intro taken
    have inside (setting : Setting) {above key : String} (path : setting.path = [above, key]) :=
      (taken?_inside path).symm.trans (taken setting)
    exact ⟨taken?_top.symm.trans (taken .issuer),
      ⟨inside .authorizationEndpoint rfl, inside .tokenEndpoint rfl, inside .keySetEndpoint rfl,
        inside .revocationEndpoint rfl, inside .introspectionEndpoint rfl⟩,
      ⟨inside .timeToLive rfl, inside .requestTimeout rfl, inside .maxResponseSize rfl,
        inside .requireHttps rfl⟩,
      inside .lookupTimeout rfl⟩

end Read

/-! ### Loading -/

theorem validate_eq_ok_iff {settings others : Settings} :
    settings.validate = .ok others ↔ settings = others ∧ settings.flaw? = none := by
  rw [validate]
  cases settings.flaw? with
  | none => simp
  | some flaw => simp

theorem validate_eq_error_iff {settings : Settings} {error : ConfigError} :
    settings.validate = .error error ↔ settings.flaw? = some error := by
  rw [validate]
  cases settings.flaw? with
  | none => simp
  | some flaw => simp

section Load

variable {orders : Orders} {files : Files} {environment : List (String × String)}
  {path : Option String} {layer : Layer}

/-- What the environment gives a setting, or else the layer of the file. -/
def given? (environment : List (String × String)) (layer : Layer) (setting : Setting) : Option Value :=
  (setting.ofEnvironment? environment).or (setting.ofLayer? layer)

theorem load_eq (chosen : chosenLayer files path = .ok layer) :
    load orders files environment path =
      match ofValue? (orders.laid layer environment) with
      | some settings => settings.validate
      | none => .error .unreadableSettings := by
  rw [load, chosen]
  rfl

theorem valid_of_load {settings : Settings}
    (loads : load orders files environment path = .ok settings) :
    settings.validate = .ok settings := by
  rw [load] at loads
  cases chosen : chosenLayer files path with
  | error error =>
    rw [chosen] at loads
    cases loads
  | ok layer =>
    rw [← load, load_eq chosen] at loads
    split at loads
    · obtain ⟨rfl, -⟩ := validate_eq_ok_iff.mp loads
      exact loads
    · cases loads

variable (chosen : chosenLayer files path = .ok layer)
  (sectioned : Sectioned (laid [orders.file.arrange layer])) (names : NamesSettings environment)

include sectioned names in
theorem ofValue?_laid_environment {settings : Settings} :
    ofValue? (orders.laid layer environment) = some settings ↔
      Taken (given? environment (orders.file.arrange layer)) settings := by
  have each : given? environment (orders.file.arrange layer) =
      fun setting => (orders.laid layer environment).at? setting.path :=
    funext fun setting => (at?_laid_environment names orders layer setting).symm
  have isTable : orders.laid layer environment = .table (orders.laid layer environment).entries :=
    laid_eq_table _
  rw [each, ofValue?_eq_some_iff isTable (sectioned.laid_environment names)]

include chosen sectioned names

/-- **The settings that were taken are validated.** -/
theorem load_of_taken {settings : Settings}
    (taken : Taken (given? environment (orders.file.arrange layer)) settings) :
    load orders files environment path = settings.validate := by
  rw [load_eq chosen, (ofValue?_laid_environment sectioned names).mpr taken]

/-- **One setting that cannot be read** is enough for there to be none. -/
theorem load_of_unreadable {setting : Setting}
    (unreadable : setting.taken? (given? environment (orders.file.arrange layer) setting) = none) :
    load orders files environment path = .error .unreadableSettings := by
  rw [load_eq chosen]
  cases read : ofValue? (orders.laid layer environment) with
  | none => rfl
  | some settings =>
    have taken := (ofValue?_laid_environment sectioned names).mp read setting
    rw [unreadable] at taken
    cases taken

theorem load_eq_ok_iff {settings : Settings} :
    load orders files environment path = .ok settings ↔
      Taken (given? environment (orders.file.arrange layer)) settings ∧ settings.flaw? = none := by
  obtain ⟨others, taken⟩ | ⟨setting, unreadable⟩ :=
    exists_taken (given? environment (orders.file.arrange layer))
  · rw [load_of_taken chosen sectioned names taken, validate_eq_ok_iff]
    constructor
    · rintro ⟨rfl, valid⟩
      exact ⟨taken, valid⟩
    · rintro ⟨takenToo, valid⟩
      obtain rfl := taken.unique takenToo
      exact ⟨rfl, valid⟩
  · rw [load_of_unreadable chosen sectioned names unreadable]
    refine iff_of_false (by rintro ⟨⟩) ?_
    rintro ⟨taken, -⟩
    cases unreadable.symm.trans (taken setting)

theorem load_eq_error_iff {error : ConfigError} :
    load orders files environment path = .error error ↔
      (error = .unreadableSettings ∧ ∃ setting : Setting,
          setting.taken? (given? environment (orders.file.arrange layer) setting) = none) ∨
        ∃ settings, Taken (given? environment (orders.file.arrange layer)) settings ∧
          settings.flaw? = some error := by
  obtain ⟨others, taken⟩ | ⟨setting, unreadable⟩ :=
    exists_taken (given? environment (orders.file.arrange layer))
  · rw [load_of_taken chosen sectioned names taken, validate_eq_error_iff]
    constructor
    · exact fun flaw => .inr ⟨others, taken, flaw⟩
    · rintro (⟨-, setting, unreadable⟩ | ⟨settings, takenToo, flaw⟩)
      · cases unreadable.symm.trans (taken setting)
      · rwa [taken.unique takenToo]
  · rw [load_of_unreadable chosen sectioned names unreadable]
    constructor
    · rintro ⟨⟩
      exact .inl ⟨rfl, setting, unreadable⟩
    · rintro (⟨rfl, -⟩ | ⟨settings, taken, -⟩)
      · rfl
      · cases unreadable.symm.trans (taken setting)

/-- **A file counts only where the environment gives nothing.** -/
theorem load_congr {otherOrders : Orders} {others : Files} {otherPath : Option String} {other : Layer}
    (chosenToo : chosenLayer others otherPath = .ok other)
    (sectionedToo : Sectioned (laid [otherOrders.file.arrange other]))
    (agree : ∀ setting : Setting, setting.ofEnvironment? environment = none →
      setting.ofLayer? (otherOrders.file.arrange other) =
        setting.ofLayer? (orders.file.arrange layer)) :
    load otherOrders others environment otherPath = load orders files environment path := by
  have same : given? environment (otherOrders.file.arrange other) =
      given? environment (orders.file.arrange layer) := by
    refine funext fun setting => ?_
    rw [given?, given?]
    cases held : setting.ofEnvironment? environment with
    | none => rw [agree setting held]
    | some value => rw [Option.some_or, Option.some_or]
  obtain ⟨settings, taken⟩ | ⟨setting, unreadable⟩ :=
    exists_taken (given? environment (orders.file.arrange layer))
  · rw [load_of_taken chosen sectioned names taken,
      load_of_taken chosenToo sectionedToo names (same ▸ taken)]
  · rw [load_of_unreadable chosen sectioned names unreadable,
      load_of_unreadable chosenToo sectionedToo names (same ▸ unreadable)]

end Load

/-! ### Setting a variable -/

/-- An environment with a variable set. -/
def withVariable (variableName text : String) (environment : List (String × String)) :
    List (String × String) :=
  (variableName, text) :: environment.filter fun entry => entry.1 ≠ variableName

section Variable

variable {environment : List (String × String)} {variableName : String} {setting : Setting}
  (named : settingOf? variableName = some setting.name) (text : String)

include named

theorem ofEnvironment?_withVariable_same :
    setting.ofEnvironment? (withVariable variableName text environment) = some (valueOfText text) := by
  simp [Setting.ofEnvironment?, withVariable, named]

theorem ofEnvironment?_withVariable_other {other : Setting} (different : other ≠ setting) :
    other.ofEnvironment? (withVariable variableName text environment) =
      other.ofEnvironment? environment := by
  have elsewhere : settingOf? variableName ≠ some other.name := by
    rw [named]
    exact fun same => different (Setting.name_injective (Option.some.inj same)).symm
  rw [Setting.ofEnvironment?, Setting.ofEnvironment?, withVariable,
    List.find?_cons_of_neg (by simpa using elsewhere), List.find?_filter]
  congr 2
  funext entry
  by_cases same : entry.1 = variableName
  · simp [same, elsewhere]
  · simp [same]

end Variable

/-! ### Two files -/

namespace Sample

/-- The layer of a file with no issuer and a span. -/
def layerOf (timeToLive : Value) : Layer :=
  [("issuer", .text ""), ("jwks", .table [("ttl", timeToLive)])]

/-- A file whose span is a list, which cannot be read. -/
def listed : String := "issuer = ''\n[jwks]\nttl = ['5m']"

/-- The file with a span. -/
def written : String := "issuer = ''\n[jwks]\nttl = '1h'"

/-- Both files. -/
def files : Files
  | "listed.toml" => .ok (.file (Bytes.ofText listed))
  | _ => .ok (.file (Bytes.ofText written))

/-- An environment that gives the span. -/
def environment : List (String × String) := [("TOKENGATE__JWKS__TTL", "10m"), ("HOME", "/")]

/-- The settings of either file in this environment. -/
def settings : Settings := { issuer := "", keys := { timeToLive := .ofSeconds 600 } }

theorem isToml_listed : IsTomlFile files (some "listed.toml") (layerOf (.list [.text "5m"])) := by
  have scanned : Toml.scan? (Toml.dropByteOrderMark listed.toList) =
      some [.word "issuer".toList, .blank [' '], .equals, .blank [' '], .literal "", .newline,
        .openBracket, .word "jwks".toList, .closeBracket, .newline, .word "ttl".toList, .blank [' '],
        .equals, .blank [' '], .openBracket, .literal "5m", .closeBracket] := by
    decide +kernel
  exact .of_scan [("issuer", .text ""), ("jwks", .table .header [("ttl", .list [.text "5m"])])]
    rfl (by decide) rfl scanned rfl

theorem isToml_written : IsTomlFile files (some "written.toml") (layerOf (.text "1h")) := by
  have scanned : Toml.scan? (Toml.dropByteOrderMark written.toList) =
      some [.word "issuer".toList, .blank [' '], .equals, .blank [' '], .literal "", .newline,
        .openBracket, .word "jwks".toList, .closeBracket, .newline, .word "ttl".toList, .blank [' '],
        .equals, .blank [' '], .literal "1h"] := by
    decide +kernel
  exact .of_scan [("issuer", .text ""), ("jwks", .table .header [("ttl", .text "1h")])]
    rfl (by decide) rfl scanned rfl

theorem plain (timeToLive : Value) : Plain (layerOf timeToLive) := by
  have issuer : pathOf "issuer" = [.key "issuer"] := by decide
  have keys : pathOf "jwks" = [.key "jwks"] := by decide
  exact List.forall_mem_cons.mpr ⟨issuer, List.forall_mem_singleton.mpr keys⟩

theorem sectioned {path : Option String} {timeToLive : Value} {order : Arrangement Value}
    (isToml : IsTomlFile files path (layerOf timeToLive)) :
    Sectioned (laid [order.arrange (layerOf timeToLive)]) := by
  rw [isToml.laid_of_plain (plain timeToLive)]
  intro name known
  refine Value.HasSection.of_perm (order.perm _).symm isToml.distinct ?_
  revert name
  refine List.forall_mem_cons.mpr ⟨?_, List.forall_mem_cons.mpr ⟨?_, List.forall_mem_singleton.mpr ?_⟩⟩
  · rintro _ ⟨⟩
  · rintro _ ⟨⟩
    exact ⟨_, rfl⟩
  · rintro _ ⟨⟩

theorem names : NamesSettings environment where
  known := List.forall_mem_singleton.mpr ⟨.timeToLive, by decide⟩
  once := by decide

theorem ofEnvironment?_timeToLive :
    Setting.ofEnvironment? environment .timeToLive = some (.text "10m") := by
  rw [Setting.ofEnvironment?, environment, List.find?_cons_of_pos (by decide +kernel)]
  rfl

theorem ofEnvironment?_other {setting : Setting} (different : setting ≠ .timeToLive) :
    setting.ofEnvironment? environment = none := by
  cases setting <;> first | contradiction | decide +kernel

theorem taken {order : Arrangement Value} :
    Taken (given? environment (order.arrange (layerOf (.list [.text "5m"])))) settings := by
  intro setting
  rw [given?, isToml_listed.ofLayer?_of_plain (plain _)]
  cases setting with
  | timeToLive =>
    rw [ofEnvironment?_timeToLive]
    decide +kernel
  | _ =>
    rw [ofEnvironment?_other (by rintro ⟨⟩)]
    rfl

end Sample

/-! ### All sources -/

/-- **Layers override one another setting by setting.**  For every TOML file whose sections are tables
where they are there, and every environment whose variables for settings name settings, each at most
one, every setting is taken from the environment, or else from the file, or else it is the default, in
whichever order the names of either come out:

* what the file gives is what its tables hold, in any order, where none of its keys is a path;
* the settings that are taken so are loaded if they have no flaw, and their flaw is the error if they
  have one; the only other error is that a setting cannot be read from what is given for it;
* a file that gives the same to the settings that the environment does not give is loaded as the same
  settings or the same error;
* a variable that is set changes its setting, and no other one;
* what is loaded is valid. -/
theorem load_overrides {orders : Orders} {files : Files} {environment : List (String × String)}
    {path : Option String} {layer : Layer} (isToml : IsTomlFile files path layer)
    (sectioned : Sectioned (laid [orders.file.arrange layer])) (names : NamesSettings environment) :
    let held := orders.file.arrange layer
    (Plain layer → ∀ (order : Arrangement Value) (setting : Setting),
        setting.ofLayer? (order.arrange layer) = Value.at? setting.path (.table layer)) ∧
      (∀ settings, load orders files environment path = .ok settings ↔
        Taken (given? environment held) settings ∧ settings.flaw? = none) ∧
      (∀ error, load orders files environment path = .error error ↔
        (error = .unreadableSettings ∧
            ∃ setting : Setting, setting.taken? (given? environment held setting) = none) ∨
          ∃ settings, Taken (given? environment held) settings ∧ settings.flaw? = some error) ∧
      (∀ (otherOrders : Orders) others otherPath other, IsTomlFile others otherPath other →
        Sectioned (laid [otherOrders.file.arrange other]) →
        (∀ setting : Setting, setting.ofEnvironment? environment = none →
          setting.ofLayer? (otherOrders.file.arrange other) = setting.ofLayer? held) →
        load otherOrders others environment otherPath = load orders files environment path) ∧
      (∀ variableName text (setting : Setting), settingOf? variableName = some setting.name →
        NamesSettings (withVariable variableName text environment) →
        ∀ order before after, load orders files environment path = .ok before →
          load ⟨orders.file, order⟩ files (withVariable variableName text environment) path =
            .ok after →
          setting.read? (valueOfText text) = some (setting.get after) ∧
            ∀ other ≠ setting, other.get after = other.get before) ∧
      ∀ settings, load orders files environment path = .ok settings →
        settings.validate = .ok settings := by
  have chosen := isToml.chosen
  refine ⟨isToml.ofLayer?_of_plain, fun _ => load_eq_ok_iff chosen sectioned names,
    fun _ => load_eq_error_iff chosen sectioned names,
    fun _ _ _ _ isTomlToo sectionedToo agree =>
      load_congr chosen sectioned names isTomlToo.chosen sectionedToo agree, ?_,
    fun _ => valid_of_load⟩
  intro variableName text setting named namesToo order before after loads loadsToo
  have sectionedToo : Sectioned (laid [(Orders.mk orders.file order).file.arrange layer]) := sectioned
  have taken := ((load_eq_ok_iff chosen sectioned names).mp loads).1
  have takenToo := ((load_eq_ok_iff chosen sectionedToo namesToo).mp loadsToo).1
  constructor
  · have own := takenToo setting
    rw [given?, ofEnvironment?_withVariable_same named, Option.some_or] at own
    exact own
  · intro other different
    have own := takenToo other
    rw [given?, ofEnvironment?_withVariable_other named text different, ← given?, taken other] at own
    exact (Option.some.inj own).symm

/-- A span that cannot be read does not count where the environment gives another one. -/
theorem load_overrides_unreadable :
    load .asGiven Sample.files Sample.environment (some "listed.toml") = .error (.missing "issuer") ∧
      load ⟨.reversed, .reversed⟩ Sample.files Sample.environment (some "written.toml") =
        load .asGiven Sample.files Sample.environment (some "listed.toml") := by
  obtain ⟨plain, -, errors, files, -, -⟩ := load_overrides Sample.isToml_listed
    (Sample.sectioned Sample.isToml_listed) Sample.names
  refine ⟨(errors _).mpr (.inr ⟨Sample.settings, Sample.taken, rfl⟩), ?_⟩
  refine files ⟨.reversed, .reversed⟩ _ _ _ Sample.isToml_written ?_ ?_
  · exact Sample.sectioned Sample.isToml_written
  · intro setting free
    rw [Sample.isToml_written.ofLayer?_of_plain (Sample.plain _), plain (Sample.plain _)]
    cases setting with
    | timeToLive =>
      rw [Sample.ofEnvironment?_timeToLive] at free
      cases free
    | _ => rfl

end Settings

end ClientAssertion
