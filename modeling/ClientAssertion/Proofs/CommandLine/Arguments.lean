/-
**Options that are given as arguments.**

* `Meaning.of_spelled`: an argument with the long name of an option and its value gives this value;
* `Reading.read_spelled`: options are read in any order, each one once;
* `Invocation.ofArguments_verify`: so every token request can be asked for whose files have paths.
-/

import ClientAssertion.CommandLine.Arguments

namespace ClientAssertion.CommandLine

/-! ### One option -/

namespace OptionName

/-- The long name of an option. -/
def longName : OptionName → String
  | .config => "config"
  | .logLevel => "log-level"
  | .format => "format"
  | .clients => "clients"
  | .authorizations => "authorizations"
  | .assertion => "assertion"
  | .clientId => "client-id"
  | .grantType => "grant-type"
  | .code => "code"
  | .codeVerifier => "code-verifier"

theorem lookup_longName (option : OptionName) : longNames.lookup option.longName = some option := by
  cases option <;> rfl

theorem longName_chars (option : OptionName) :
    ∀ char ∈ option.longName.toList, (char != '=') = true := by
  refine List.all_eq_true.mp ?_
  cases option <;> rfl

/-- An argument with an option and its value. -/
def spelled (option : OptionName) (value : String) : String := "--" ++ option.longName ++ "=" ++ value

theorem toList_spelled (option : OptionName) (value : String) :
    (option.spelled value).toList = '-' :: '-' :: (option.longName.toList ++ '=' :: value.toList) := by
  rw [spelled, String.toList_append, String.toList_append, String.toList_append, List.append_assoc,
    List.append_assoc]
  rfl

theorem spelled_ne_end (option : OptionName) (value : String) : option.spelled value ≠ "--" := by
  intro same
  have chars := congrArg String.toList same
  rw [toList_spelled, show "--".toList = ['-', '-'] from rfl] at chars
  simp at chars

end OptionName

namespace Meaning

theorem ofLong_longName {option : OptionName} {level : Level} (allowed : option.allowedAt level)
    (value : Option String) : ofLong level option.longName value = .option option value := by
  have help : option.longName ≠ "help" := by cases option <;> decide
  have version : option.longName ≠ "version" := by cases option <;> decide
  rw [ofLong, if_neg help, if_neg fun asked => version asked.1, option.lookup_longName]
  exact if_pos allowed

/-- **An option with its value is read as such**, whatever the value. -/
theorem of_spelled {option : OptionName} {level : Level} (allowed : option.allowedAt level)
    (value : String) : of level (option.spelled value) = .option option (some value) := by
  have name : (option.longName.toList ++ '=' :: value.toList).takeWhile (· != '=') =
      option.longName.toList := by
    rw [List.takeWhile_append_of_pos option.longName_chars, List.takeWhile_cons_of_neg (by decide),
      List.append_nil]
  have rest : (option.longName.toList ++ '=' :: value.toList).dropWhile (· != '=') =
      '=' :: value.toList := by
    rw [List.dropWhile_append_of_pos option.longName_chars, List.dropWhile_cons_of_neg (by decide)]
  simp only [of, option.toList_spelled, name, rest, String.ofList_toList, ofLong_longName allowed]

end Meaning

/-! ### All options -/

namespace Reading

theorem give_eq_ok {reading : Reading} {option : OptionName} {value : String}
    (new : reading.given.lookup option = none) (accepted : option.accepts value) :
    reading.give option value = .ok { reading with given := (option, value) :: reading.given } := by
  rw [give, if_neg]
  rw [new, not_or]
  exact ⟨Bool.false_ne_true, not_not_intro accepted⟩

/-- **Options are read in any order**, each one once. -/
theorem read_spelled {given : Given} {reading : Reading} (once : (given.map Prod.fst).Nodup)
    (new : ∀ entry ∈ given, reading.given.lookup entry.1 = none)
    (allowed : ∀ entry ∈ given, entry.1.allowedAt reading.level)
    (accepted : ∀ entry ∈ given, entry.1.accepts entry.2) :
    reading.read (given.map fun entry => entry.1.spelled entry.2) =
      .ok { reading with given := given.reverse ++ reading.given } := by
  induction given generalizing reading with
  | nil => rfl
  | cons entry given hypothesis =>
    obtain ⟨first, once⟩ := List.nodup_cons.mp once
    obtain ⟨fresh, new⟩ := List.forall_mem_cons.mp new
    obtain ⟨allows, allowed⟩ := List.forall_mem_cons.mp allowed
    obtain ⟨accepts, accepted⟩ := List.forall_mem_cons.mp accepted
    let next : Reading := { reading with given := entry :: reading.given }
    have stillNew : ∀ other ∈ given, next.given.lookup other.1 = none := by
      intro other member
      have different : other.1 ≠ entry.1 := fun same =>
        first (List.mem_map.mpr ⟨other, member, same⟩)
      rw [List.lookup_cons, beq_false_of_ne different]
      exact new other member
    have later : next.read (given.map fun entry => entry.1.spelled entry.2) =
        .ok { next with given := given.reverse ++ next.given } :=
      hypothesis once stillNew allowed accepted
    rw [List.map_cons, read, if_neg (entry.1.spelled_ne_end entry.2), Meaning.of_spelled allows]
    dsimp only
    rw [give_eq_ok fresh accepts, List.reverse_cons, List.append_assoc]
    exact later

end Reading

/-! ### Token requests -/

namespace VerifyOptions

/-- The value of an option for a token request, if it has one. -/
def value? (options : VerifyOptions) : OptionName → Option String
  | .clients => some options.clients
  | .authorizations => options.authorizations
  | .assertion => some options.assertion
  | .clientId => options.clientId
  | .grantType => some options.grantType
  | .code => options.code
  | .codeVerifier => options.codeVerifier
  | .config | .logLevel | .format => none

/-- The options for a token request. -/
def names : List OptionName :=
  [.clients, .authorizations, .assertion, .clientId, .grantType, .code, .codeVerifier]

/-- The options that have values. -/
def given (options : VerifyOptions) : Given :=
  names.filterMap fun option => (options.value? option).map fun value => (option, value)

/-- The arguments that ask for a token request. -/
def arguments (options : VerifyOptions) : List String :=
  "verify" :: options.given.map fun entry => entry.1.spelled entry.2

variable {options : VerifyOptions}

theorem value?_of_mem_given {entry : OptionName × String} (member : entry ∈ options.given) :
    entry.1 ∈ names ∧ options.value? entry.1 = some entry.2 := by
  obtain ⟨option, listed, made⟩ := List.mem_filterMap.mp member
  obtain ⟨value, has, rfl⟩ := Option.map_eq_some_iff.mp made
  exact ⟨listed, has⟩

theorem once_given : (options.given.map Prod.fst).Nodup := by
  have present : (fun option => ((options.value? option).map fun value => (option, value)).map
      Prod.fst) = Option.guard fun option => (options.value? option).isSome := by
    funext option
    cases has : options.value? option with
    | none => simp [Option.guard, has]
    | some value => simp [Option.guard, has]
  rw [given, List.map_filterMap, present, List.filterMap_eq_filter]
  exact List.Pairwise.sublist List.filter_sublist (by decide : names.Nodup)

theorem allowed_of_mem_given {entry : OptionName × String} (member : entry ∈ options.given) :
    entry.1.allowedAt .verify = true := by
  have each : ∀ option ∈ names, OptionName.allowedAt option .verify = true := by decide
  exact each entry.1 (value?_of_mem_given member).1

theorem accepts_of_mem_given (clients : options.clients ≠ "")
    (authorizations : options.authorizations ≠ some "") {entry : OptionName × String}
    (member : entry ∈ options.given) : entry.1.accepts entry.2 = true := by
  obtain ⟨option, value⟩ := entry
  obtain ⟨-, has⟩ := value?_of_mem_given member
  cases option with
  | clients =>
    obtain rfl := Option.some.inj has
    exact bne_iff_ne.mpr clients
  | authorizations => exact bne_iff_ne.mpr fun empty => authorizations (has.trans (congrArg some empty))
  | config | logLevel | format => cases has
  | assertion | clientId | grantType | code | codeVerifier => rfl

/-- What was read of the options are the options. -/
theorem command?_given (options : VerifyOptions) :
    Reading.command? ⟨.verify, options.given.reverse, [[]], none⟩ = some (.verify options) := by
  obtain ⟨_, authorizations, _, clientId, _, code, codeVerifier⟩ := options
  cases authorizations <;> cases clientId <;> cases code <;> cases codeVerifier <;> rfl

/-- The options for all commands are not among them. -/
theorem findValue?_given (options : VerifyOptions) {option : OptionName} (other : option ∉ names) :
    Reading.value? ⟨.verify, options.given.reverse, [[]], none⟩ option = none := by
  have absent : options.given.reverse.lookup option = none := by
    refine List.lookup_eq_none_iff.mpr fun entry member => bne_iff_ne.mpr ?_
    rintro rfl
    exact other (value?_of_mem_given (List.mem_reverse.mp member)).1
  rw [Reading.value?, Reading.levels, List.findSome?_cons, absent]
  rfl

end VerifyOptions

/-- **Every token request can be asked for**, if the files with its records have paths. -/
theorem Invocation.ofArguments_verify {options : VerifyOptions} {environment : List (String × String)}
    (clients : options.clients ≠ "") (authorizations : options.authorizations ≠ some "")
    (path : environment.lookup "TOKENGATE_CONFIG" ≠ some "") :
    ofArguments environment options.arguments =
      .ok ⟨.verify options, environment.lookup "TOKENGATE_CONFIG", .json⟩ := by
  have started : Reading.start.read options.arguments =
      (Reading.start.enter .verify).read (options.given.map fun entry => entry.1.spelled entry.2) := by
    rw [VerifyOptions.arguments, Reading.read]
    rfl
  have read : Reading.start.read options.arguments =
      .ok ⟨.verify, options.given.reverse, [[]], none⟩ := by
    rw [started, Reading.read_spelled VerifyOptions.once_given (fun _ _ => rfl)
      (fun _ => VerifyOptions.allowed_of_mem_given)
      (fun _ => VerifyOptions.accepts_of_mem_given clients authorizations)]
    rw [Reading.start, Reading.enter, List.append_nil]
  have settings : Reading.settingsPath ⟨.verify, options.given.reverse, [[]], none⟩ environment =
      .ok (environment.lookup "TOKENGATE_CONFIG") := by
    rw [Reading.settingsPath, options.findValue?_given (by decide)]
    cases named : environment.lookup Reading.pathVariable with
    | none => exact congrArg Except.ok named.symm
    | some file =>
      have nonempty : file ≠ "" := by
        rintro rfl
        exact path named
      dsimp only
      rw [if_neg fun both => nonempty both.1]
      exact congrArg Except.ok named.symm
  have format : Reading.value? ⟨.verify, options.given.reverse, [[]], none⟩ .format = none :=
    options.findValue?_given (by decide)
  simp only [ofArguments, read, settings, format, options.command?_given, bind, Except.bind, pure,
    Except.pure, Option.bind_none, Option.getD_none]

end ClientAssertion.CommandLine
