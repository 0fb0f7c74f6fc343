/-
**The arguments of the command line.**

An argument is an option with its value, a command, or the argument of a command.  Options for all
commands may stand at every level, before a command or behind it, and the innermost one counts.

* `Reading.read` reads arguments one by one;
* `Invocation.ofArguments` is what the arguments and the environment ask for, or why nothing runs.
-/

namespace ClientAssertion.CommandLine

/-! ### What may be asked for -/

/-- How results are written. -/
inductive OutputFormat where
  | json
  | text
deriving DecidableEq, Repr

/-- The token request that is to be checked, and where the records are. -/
structure VerifyOptions where
  clients : String
  authorizations : Option String
  assertion : String
  clientId : Option String
  grantType : String
  code : Option String
  codeVerifier : Option String
deriving DecidableEq, Repr

/-- A command. -/
inductive Command where
  /-- Authenticate a client. -/
  | verify (options : VerifyOptions)
  /-- Write the challenge of a verifier. -/
  | challenge (verifier : String)
  /-- Write a new verifier with its challenge. -/
  | generate
  /-- Load and check the settings. -/
  | checkSettings
deriving DecidableEq, Repr

/-- What the arguments ask for. -/
structure Invocation where
  command : Command
  /-- The file with the settings. -/
  settingsPath : Option String
  format : OutputFormat
deriving DecidableEq, Repr

/-- Why no command runs. -/
inductive Stop where
  | help
  | version
  | misuse
deriving DecidableEq, Repr

/-! ### Levels and options -/

/-- A command on the way to the one that runs. -/
inductive Level where
  | program
  | verify
  | pkce
  | challenge
  | generate
  | config
  | check
deriving DecidableEq, Repr

/-- The commands inside a command. -/
def Level.commands : Level → List (String × Level)
  | .program => [("verify", .verify), ("pkce", .pkce), ("config", .config)]
  | .pkce => [("challenge", .challenge), ("generate", .generate)]
  | .config => [("check", .check)]
  | .verify | .challenge | .generate | .check => []

/-- The name of an option. -/
inductive OptionName where
  | config
  /-- The level of the lines that are logged.  It is read and has no effect on a report, which leaves
  these lines out. -/
  | logLevel
  | format
  | clients
  | authorizations
  | assertion
  | clientId
  | grantType
  | code
  | codeVerifier
deriving DecidableEq, Repr

namespace OptionName

/-- The options with their long names. -/
def longNames : List (String × OptionName) :=
  [("config", .config), ("log-level", .logLevel), ("format", .format), ("clients", .clients),
    ("authorizations", .authorizations), ("assertion", .assertion), ("client-id", .clientId),
    ("grant-type", .grantType), ("code", .code), ("code-verifier", .codeVerifier)]

/-- The option of a letter. -/
def ofLetter? : Char → Option OptionName
  | 'c' => some .config
  | 'f' => some .format
  | _ => none

/-- A command takes an option. -/
def allowedAt (option : OptionName) (level : Level) : Bool :=
  match option with
  | .config | .logLevel | .format => true
  | _ => level == .verify

/-- The format of a name. -/
def formatOf? : String → Option OutputFormat
  | "json" => some .json
  | "text" => some .text
  | _ => none

/-- An option takes a value: a path is not empty. -/
def accepts (option : OptionName) (value : String) : Bool :=
  match option with
  | .config | .clients | .authorizations => value != ""
  | .format => (formatOf? value).isSome
  | _ => true

end OptionName

/-! ### One argument -/

/-- What an argument means. -/
inductive Meaning where
  | help
  | version
  /-- An option, maybe with its value. -/
  | option (name : OptionName) (value : Option String)
  /-- A command or the argument of one. -/
  | plain
  | unknown
deriving DecidableEq, Repr

namespace Meaning

/-- A flag, which takes no value. -/
def flag (meaning : Meaning) (value : Option String) : Meaning :=
  if value = none then meaning else .unknown

/-- What a long name means at a level. -/
def ofLong (level : Level) (name : String) (value : Option String) : Meaning :=
  if name = "help" then flag .help value
  else if name = "version" ∧ level = .program then flag .version value
  else
    match OptionName.longNames.lookup name with
    | some name => if name.allowedAt level then .option name value else .unknown
    | none => .unknown

/-- The value behind a letter, if there is one. -/
def attached : List Char → Option String
  | [] => none
  | '=' :: chars => some (String.ofList chars)
  | chars => some (String.ofList chars)

/-- What a letter with the characters behind it means at a level. -/
def ofLetter (level : Level) (letter : Char) (chars : List Char) : Meaning :=
  if letter = 'h' then .help
  else if letter = 'V' ∧ level = .program then .version
  else
    match OptionName.ofLetter? letter with
    | some name => .option name (attached chars)
    | none => .unknown

/-- What an argument means at a level. -/
def of (level : Level) (argument : String) : Meaning :=
  match argument.toList with
  | '-' :: '-' :: chars =>
    let value :=
      match chars.dropWhile (· != '=') with
      | [] => none
      | _ :: value => some (String.ofList value)
    ofLong level (String.ofList (chars.takeWhile (· != '='))) value
  | '-' :: letter :: chars => ofLetter level letter chars
  | _ => .plain

/-- An argument may be the value of an option that stands before it. -/
def mayBeValue (argument : String) : Bool :=
  match argument.toList with
  | '-' :: _ :: _ => false
  | _ => true

end Meaning

/-! ### All arguments -/

/-- Options with their values. -/
abbrev Given := List (OptionName × String)

/-- What has been read of the arguments. -/
structure Reading where
  level : Level
  /-- The options at this level. -/
  given : Given
  /-- The options at the levels around it, innermost first. -/
  outer : List Given
  /-- The argument of the command. -/
  argument : Option String
deriving DecidableEq, Repr

namespace Reading

/-- Nothing has been read. -/
def start : Reading := ⟨.program, [], [], none⟩

/-- An option is given, which may be given only once at a level. -/
def give (reading : Reading) (option : OptionName) (value : String) : Except Stop Reading :=
  if (reading.given.lookup option).isSome ∨ ¬option.accepts value then .error .misuse
  else .ok { reading with given := (option, value) :: reading.given }

/-- A command inside the present one is entered. -/
def enter (reading : Reading) (level : Level) : Reading :=
  { reading with level, given := [], outer := reading.given :: reading.outer }

/-- An argument of the command is given. -/
def supply (reading : Reading) (argument : String) : Except Stop Reading :=
  if reading.level = .challenge ∧ reading.argument = none then
    .ok { reading with argument := some argument }
  else .error .misuse

/-- Why nothing runs when help is asked for on commands inside a level. -/
def helpOn : Level → List String → Stop
  | _, [] => .help
  | level, name :: names =>
    match level.commands.lookup name with
    | some level => helpOn level names
    | none => .misuse

/-- The reading after some arguments. -/
def read (reading : Reading) : List String → Except Stop Reading
  | [] => .ok reading
  | argument :: arguments =>
    if argument = "--" then arguments.foldlM supply reading
    else
      match Meaning.of reading.level argument with
      | .help => .error .help
      | .version => .error .version
      | .unknown => .error .misuse
      | .option option (some value) => do read (← reading.give option value) arguments
      | .option option none =>
        match arguments with
        | [] => .error .misuse
        | value :: arguments =>
          if Meaning.mayBeValue value then do read (← reading.give option value) arguments
          else .error .misuse
      | .plain =>
        match reading.level.commands.lookup argument with
        | some level => read (reading.enter level) arguments
        | none =>
          if argument = "help" ∧ reading.level.commands ≠ [] then
            .error (helpOn reading.level arguments)
          else do read (← reading.supply argument) arguments

/-! ### What was asked for -/

/-- The options of all levels, innermost first. -/
def levels (reading : Reading) : List Given := reading.given :: reading.outer

/-- The value of an option for all commands. -/
def value? (reading : Reading) (option : OptionName) : Option String :=
  reading.levels.findSome? (·.lookup option)

/-- The command that was asked for. -/
def command? (reading : Reading) : Option Command :=
  let own (option : OptionName) : Option String := reading.given.lookup option
  match reading.level with
  | .verify => do
    return .verify {
      clients := ← own .clients
      authorizations := own .authorizations
      assertion := ← own .assertion
      clientId := own .clientId
      grantType := (own .grantType).getD "client_credentials"
      code := own .code
      codeVerifier := own .codeVerifier }
  | .challenge => reading.argument.map .challenge
  | .generate => some .generate
  | .check => some .checkSettings
  | .program | .pkce | .config => none

/-- The variable with the path of the settings. -/
def pathVariable : String := "TOKENGATE_CONFIG"

/-- The path of the settings.  At a level without the option its variable counts, so that must be
a path. -/
def settingsPath (reading : Reading) (environment : List (String × String)) :
    Except Stop (Option String) :=
  match environment.lookup pathVariable with
  | none => .ok (reading.value? .config)
  | some path =>
    if path = "" ∧ reading.levels.any (fun given => (given.lookup .config).isNone) then .error .misuse
    else .ok ((reading.value? .config).or (some path))

end Reading

/-- What arguments ask for. -/
def Invocation.ofArguments (environment : List (String × String)) (arguments : List String) :
    Except Stop Invocation := do
  let reading ← Reading.start.read arguments
  let settingsPath ← reading.settingsPath environment
  match reading.command? with
  | some command =>
    let format := ((reading.value? .format) >>= OptionName.formatOf?).getD .json
    return { command, settingsPath, format }
  | none => .error .misuse

end ClientAssertion.CommandLine
