/-
**What an environment over a file gives every setting.**

* `Setting.pathOf_name`: the name of a setting spells its path, and `Setting.diverges_path`: the paths
  of any two settings part;
* `laid_of_plain`: a layer whose keys are distinct and no paths is laid as it stands;
* `at?_give`: a variable changes the setting that it names and no other one;
* `at?_laid_environment`: so what stands at a setting after a whole environment is what the environment
  gives it, or else what the file does.
-/

import ClientAssertion.Proofs.Settings.Value
import ClientAssertion.Settings.Layer

namespace ClientAssertion

/-! ### Settings by their names -/

/-- A single setting. -/
inductive Setting where
  | issuer
  | authorizationEndpoint
  | tokenEndpoint
  | keySetEndpoint
  | revocationEndpoint
  | introspectionEndpoint
  | timeToLive
  | requestTimeout
  | maxResponseSize
  | requireHttps
  | lookupTimeout
deriving DecidableEq, Repr

namespace Setting

/-- The keys that lead to a setting. -/
def path : Setting → List String
  | .issuer => ["issuer"]
  | .authorizationEndpoint => ["endpoints", "authorization_endpoint"]
  | .tokenEndpoint => ["endpoints", "token_endpoint"]
  | .keySetEndpoint => ["endpoints", "jwk_set_endpoint"]
  | .revocationEndpoint => ["endpoints", "token_revocation_endpoint"]
  | .introspectionEndpoint => ["endpoints", "token_introspection_endpoint"]
  | .timeToLive => ["jwks", "ttl"]
  | .requestTimeout => ["jwks", "request_timeout"]
  | .maxResponseSize => ["jwks", "max_response_size"]
  | .requireHttps => ["jwks", "require_https"]
  | .lookupTimeout => ["storage", "lookup_timeout"]

/-- The name of a setting. -/
def name (setting : Setting) : String := ".".intercalate setting.path

theorem pathOf_name (setting : Setting) :
    Settings.pathOf setting.name = setting.path.map .key := by
  cases setting <;> rfl

theorem diverges_path {setting other : Setting} (different : setting ≠ other) :
    Settings.Value.diverges setting.path other.path = true := by
  cases setting <;> cases other <;> first | contradiction | rfl

theorem name_injective {setting other : Setting} (same : setting.name = other.name) :
    setting = other := by
  refine Decidable.byContradiction fun different => ?_
  have paths : setting.path = other.path := by
    have steps := (pathOf_name setting).symm.trans ((congrArg _ same).trans (pathOf_name other))
    exact (List.map_inj_right fun _ _ => Settings.Value.Step.key.inj).mp steps
  have parts := diverges_path different
  rw [paths, Settings.Value.diverges_self] at parts
  cases parts

/-- What a variable of the environment gives a setting: the value of the one that names it. -/
def ofEnvironment? (environment : List (String × String)) (setting : Setting) :
    Option Settings.Value :=
  (environment.find? fun entry => Settings.settingOf? entry.1 = some setting.name).map
    fun entry => Settings.valueOfText entry.2

/-- What the layer of a file gives a setting. -/
def ofLayer? (layer : Settings.Layer) (setting : Setting) : Option Settings.Value :=
  (Settings.laid [layer]).at? setting.path

end Setting

namespace Settings

/-! ### Layers -/

theorem pathOf_eq_cons (name : String) : ∃ key steps, pathOf name = .key key :: steps := by
  rw [pathOf]
  cases spelled : path? name with
  | none => exact ⟨name, [], rfl⟩
  | some path =>
    simp only [path?, Option.bind_eq_bind, Option.bind_eq_some_iff] at spelled
    obtain ⟨key, -, steps, -, ⟨⟩⟩ := spelled
    exact ⟨key.1, steps, rfl⟩

/-- What layers make is a table. -/
theorem laid_eq_table (layers : List Layer) : laid layers = .table (laid layers).entries := by
  have onto : ∀ (given : Layer) (root : Value), root = .table root.entries →
      given.foldl give root = .table (given.foldl give root).entries := by
    intro given
    induction given with
    | nil => exact fun _ isTable => isTable
    | cons first given hypothesis =>
      intro root _
      obtain ⟨key, steps, path⟩ := pathOf_eq_cons first.1
      refine hypothesis (give root first) ?_
      rw [give, path]
      rfl
  exact onto _ _ rfl

theorem laid_pair (lower upper : Layer) : laid [lower, upper] = upper.foldl give (laid [lower]) := by
  simp [laid]

/-- The keys of a layer are no paths into it. -/
def Plain (layer : Layer) : Prop := ∀ entry ∈ layer, pathOf entry.1 = [.key entry.1]

theorem foldl_give_of_plain {layer : Layer} (plain : Plain layer) (below : List (String × Value)) :
    layer.foldl give (.table below) = .table (Value.entriesOver layer below) := by
  induction layer generalizing below with
  | nil => rw [Value.entriesOver, List.foldl_nil]
  | cons first layer hypothesis =>
    obtain ⟨name, value⟩ := first
    obtain ⟨single, plain⟩ := List.forall_mem_cons.mp plain
    rw [List.foldl_cons, Value.entriesOver, ← hypothesis plain, give, single]
    rfl

/-- **A layer with plain and distinct keys is laid as it stands.** -/
theorem laid_of_plain {layer : Layer} (plain : Plain layer)
    (distinct : Value.Distinct (.table layer)) : laid [layer] = .table layer := by
  have same := distinct.laidOver_nothing
  rw [Value.laidOver] at same
  rw [laid, List.flatten_singleton, foldl_give_of_plain plain]
  exact same

/-- The sections of settings are tables or missing. -/
def Sectioned (root : Value) : Prop :=
  ∀ name ∈ ["endpoints", "jwks", "storage"], root.HasSection name

/-! ### Variables -/

theorem flat_valueOfText (text : String) : (valueOfText text).IsFlat := by
  unfold valueOfText
  split
  · trivial
  split
  · trivial
  split <;> trivial

/-- A setting is given the value of a variable, and the other ones keep theirs. -/
theorem at?_give {value : Value} (flat : value.IsFlat) (root : Value) (setting other : Setting) :
    (give root (setting.name, value)).at? other.path =
      if setting = other then some value else root.at? other.path := by
  rw [give, Setting.pathOf_name]
  split_ifs with same
  · rw [← same, Value.at?_alter_same, Value.laidOver_of_flat flat]
  · exact Value.at?_alter_of_diverges (Setting.diverges_path same) root

theorem Sectioned.give {root : Value} (sectioned : Sectioned root) (setting : Setting) (value : Value) :
    Sectioned (give root (setting.name, value)) := by
  intro name known
  rw [Settings.give, Setting.pathOf_name]
  have deeper : setting.path ≠ [name] := by
    intro single
    cases setting with
    | issuer =>
      obtain ⟨rfl, -⟩ := List.cons.inj single
      revert known
      decide
    | _ => cases single
  exact (sectioned name known).alter deeper (by cases setting <;> exact List.cons_ne_nil _ _)

/-- The variables of the environment for settings name settings, and none of them twice. -/
structure NamesSettings (environment : List (String × String)) : Prop where
  known : ∀ name ∈ environment.filterMap fun entry => settingOf? entry.1,
    ∃ setting : Setting, setting.name = name
  once : (environment.filterMap fun entry => settingOf? entry.1).Nodup

theorem variableLayer_cons (entry : String × String) (environment : List (String × String)) :
    variableLayer (entry :: environment) =
      match settingOf? entry.1 with
      | none => variableLayer environment
      | some name => (name, valueOfText entry.2) :: variableLayer environment := by
  obtain ⟨name, text⟩ := entry
  simp only [variableLayer, List.filterMap_cons]
  cases settingOf? name <;> rfl

theorem keys_variableLayer (environment : List (String × String)) :
    (variableLayer environment).map Prod.fst =
      environment.filterMap fun entry => settingOf? entry.1 := by
  induction environment with
  | nil => rfl
  | cons entry environment hypothesis =>
    rw [variableLayer_cons, List.filterMap_cons]
    cases settingOf? entry.1 with
    | none => exact hypothesis
    | some name => exact congrArg (name :: ·) hypothesis

/-- The first variable of a setting is what the environment gives it. -/
theorem find?_variableLayer (environment : List (String × String)) (setting : Setting) :
    Table.find? setting.name (variableLayer environment) = setting.ofEnvironment? environment := by
  induction environment with
  | nil => rfl
  | cons entry environment hypothesis =>
    rw [variableLayer_cons, Setting.ofEnvironment?, List.find?_cons]
    cases named : settingOf? entry.1 with
    | none => simpa [Setting.ofEnvironment?] using hypothesis
    | some name =>
      by_cases same : name = setting.name
      · simp [Table.find?, same]
      · simpa [Setting.ofEnvironment?, Table.find?, same] using hypothesis

/-- **A layer of settings over others** changes what it gives and nothing else. -/
theorem at?_foldl_give {given : Layer}
    (known : ∀ entry ∈ given, ∃ setting : Setting, setting.name = entry.1)
    (flat : ∀ entry ∈ given, entry.2.IsFlat) (once : (given.map Prod.fst).Nodup) (root : Value)
    (setting : Setting) :
    (given.foldl give root).at? setting.path =
      (Table.find? setting.name given).or (root.at? setting.path) := by
  induction given generalizing root with
  | nil => rfl
  | cons entry given hypothesis =>
    obtain ⟨name, value⟩ := entry
    rw [List.forall_mem_cons] at known flat
    rw [List.map_cons, List.nodup_cons] at once
    obtain ⟨⟨named, rfl⟩, known⟩ := known
    rw [List.foldl_cons, hypothesis known flat.2 once.2, at?_give flat.1, Table.find?]
    by_cases same : named = setting
    · rw [if_pos same, if_pos (congrArg Setting.name same), ← same,
        Table.find?_eq_none.mpr once.1, Option.none_or, Option.some_or]
    · rw [if_neg same, if_neg fun equal => same (Setting.name_injective equal)]

theorem Sectioned.foldl_give {given : Layer}
    (known : ∀ entry ∈ given, ∃ setting : Setting, setting.name = entry.1) {root : Value}
    (sectioned : Sectioned root) : Sectioned (given.foldl Settings.give root) := by
  induction given generalizing root with
  | nil => exact sectioned
  | cons entry given hypothesis =>
    rw [List.forall_mem_cons] at known
    obtain ⟨name, value⟩ := entry
    obtain ⟨⟨setting, rfl⟩, known⟩ := known
    exact hypothesis known (sectioned.give setting value)

/-! ### The environment over a file -/

section Environment

variable {environment : List (String × String)}

theorem flat_variableLayer : ∀ entry ∈ variableLayer environment, entry.2.IsFlat := by
  intro entry member
  obtain ⟨_, -, named⟩ := List.mem_filterMap.mp member
  obtain ⟨_, -, rfl⟩ := Option.map_eq_some_iff.mp named
  exact flat_valueOfText _

variable (names : NamesSettings environment)

include names

theorem NamesSettings.nodup_variableLayer : ((variableLayer environment).map Prod.fst).Nodup := by
  rw [keys_variableLayer]
  exact names.once

/-- Where no setting is given twice, the environment gives what its variables do. -/
theorem NamesSettings.perm_variableLayer (order : Arrangement Value) :
    (order.arrange (environmentLayer environment)).Perm (variableLayer environment) := by
  have same : environmentLayer environment = variableLayer environment :=
    Table.entries_ofPairs names.nodup_variableLayer
  rw [same]
  exact order.perm _

theorem NamesSettings.known_arranged (order : Arrangement Value) :
    ∀ entry ∈ order.arrange (environmentLayer environment),
      ∃ setting : Setting, setting.name = entry.1 := by
  intro entry member
  refine names.known entry.1 ?_
  rw [← keys_variableLayer]
  exact List.mem_map_of_mem ((names.perm_variableLayer order).subset member)

/-- **A setting has the value that the environment gives it, or else the one of the file**, in
whichever order their names come out. -/
theorem at?_laid_environment (orders : Orders) (layer : Layer) (setting : Setting) :
    (orders.laid layer environment).at? setting.path =
      (setting.ofEnvironment? environment).or (setting.ofLayer? (orders.file.arrange layer)) := by
  have perm := names.perm_variableLayer orders.environment
  have once := (perm.map Prod.fst).nodup_iff.mpr names.nodup_variableLayer
  have flat := fun entry member => flat_variableLayer entry (perm.subset member)
  rw [Orders.laid, laid_pair, at?_foldl_give (names.known_arranged _) flat once,
    Table.find?_of_perm perm once, find?_variableLayer, Setting.ofLayer?]

theorem Sectioned.laid_environment {orders : Orders} {layer : Layer}
    (sectioned : Sectioned (laid [orders.file.arrange layer])) :
    Sectioned (orders.laid layer environment) := by
  rw [Orders.laid, laid_pair]
  exact sectioned.foldl_give (names.known_arranged _)

end Environment

end Settings

end ClientAssertion
