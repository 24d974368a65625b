import PersonGate.Config.Client
import PersonGate.Config.Service
import PersonGate.Panel.Status
/-!
# What a command line asks for

An invocation is a command with the values of five options. Options stand before the command and
have a value each; three of them can also come from the environment, where the option itself wins.
-/
namespace PersonGate.Cli

/-- Numbers that options take are below this bound. -/
def wordBound : Nat := 18446744073709551616

/-- A number that an option takes. -/
abbrev Word := Fin wordBound

/-- The options, in the order in which their values are looked up. -/
inductive Opt where
  | baseUrl
  | token
  | tokenEnv
  | delayMs
  | timeoutSecs
  deriving DecidableEq, Repr

namespace Opt

def all : List Opt := [.baseUrl, .token, .tokenEnv, .delayMs, .timeoutSecs]

/-- The name of an option, without the dashes in front of it. -/
def name : Opt → String
  | .baseUrl => "base-url"
  | .token => "token"
  | .tokenEnv => "token-env"
  | .delayMs => "delay-ms"
  | .timeoutSecs => "timeout-secs"

/-- The variable that an option falls back to. -/
def fallback? : Opt → Option String
  | .baseUrl => some "AAS_BASE_URL"
  | .delayMs => some "AAS_ACTION_DELAY_MS"
  | .timeoutSecs => some "AAS_REQUEST_TIMEOUT_SECS"
  | .token | .tokenEnv => none

end Opt

inductive Command where
  /-- Print the navigation bar, logged in or not as the flag says, if it is there. -/
  | nav (authenticated : Option Bool)
  /-- Print the action panel. -/
  | panel
  | act (action : PersonAction)
  /-- Run the person service. -/
  | serve
  deriving DecidableEq, Repr

/-- The words that stand for a command. -/
inductive Subcommand where
  | nav
  | panel
  | act (action : PersonAction)
  | serve
  | help
  deriving DecidableEq, Repr

namespace Subcommand

def all : List Subcommand :=
  [.nav, .panel] ++ PersonAction.all.map .act ++ [.serve, .help]

def name : Subcommand → String
  | .nav => "nav"
  | .panel => "panel"
  | .act action => action.key
  | .serve => "serve"
  | .help => "help"

/-- The command word that a word from outside is. -/
def ofWord? (word : OsText) : Option Subcommand :=
  all.find? fun command => word == OsText.ofText command.name.toList

end Subcommand

/-- Why a command line is not understood. -/
inductive UsageError where
  | unknownArgument
  | invalidSubcommand
  /-- A value is missing or is none of the possible ones. -/
  | invalidValue
  /-- A value is no number in range. -/
  | valueValidation
  /-- A flag that takes no value has one. -/
  | tooManyValues
  /-- An option is given twice. -/
  | argumentConflict
  | missingSubcommand
  | invalidUtf8
  /-- Help was asked for. -/
  | help
  /-- Help is shown because nothing was asked for. -/
  | helpOnNothing
  deriving DecidableEq, Repr

/-- The exit code after a command line that is not understood; to ask for help is no mistake. -/
def UsageError.exitCode : UsageError → Nat
  | .help => 0
  | _ => 2

/-- Does the message about the command line go to standard error? -/
def UsageError.toStderr : UsageError → Bool
  | .help => false
  | _ => true

/-- The form of a command line. -/
def usage : String :=
  "Usage: persongate " ++ String.join (Opt.all.map fun opt => "[--" ++ opt.name ++ " VALUE] ") ++
    " | ".intercalate (Subcommand.all.map Subcommand.name)

/-- Values of options, as far as they are known. -/
structure Given where
  baseUrl : Option Text := none
  token : Option Text := none
  tokenEnv : Option Text := none
  delayMs : Option Word := none
  timeoutSecs : Option Word := none
  deriving DecidableEq, Repr

namespace Given

def has (given : Given) : Opt → Bool
  | .baseUrl => given.baseUrl.isSome
  | .token => given.token.isSome
  | .tokenEnv => given.tokenEnv.isSome
  | .delayMs => given.delayMs.isSome
  | .timeoutSecs => given.timeoutSecs.isSome

/-- Is no value known? -/
def isEmpty (given : Given) : Bool := Opt.all.all fun opt => !given.has opt

/-- The text in a value from outside. -/
def readText (raw : OsText) : Except UsageError Text :=
  match raw.text? with
  | some t => .ok t
  | none => .error .invalidUtf8

/-- The number in a value from outside. -/
def readWord (raw : OsText) : Except UsageError Word :=
  match raw.text? with
  | some t =>
    match Text.unsigned? wordBound t with
    | some n => .ok n
    | none => .error .valueValidation
  | none => .error .invalidUtf8

/-- The values with one more, if it can be read. -/
def set (given : Given) (opt : Opt) (raw : OsText) : Except UsageError Given :=
  match opt with
  | .baseUrl => (readText raw).map fun t => { given with baseUrl := some t }
  | .token => (readText raw).map fun t => { given with token := some t }
  | .tokenEnv => (readText raw).map fun t => { given with tokenEnv := some t }
  | .delayMs => (readWord raw).map fun n => { given with delayMs := some n }
  | .timeoutSecs => (readWord raw).map fun n => { given with timeoutSecs := some n }

/-- The values with that of one option from the environment, if it has a variable, the variable is
set and the option is not given. -/
def fill (env : Environment) (given : Given) (opt : Opt) : Except UsageError Given :=
  match opt.fallback? with
  | some name =>
    if given.has opt then .ok given
    else match env.get? name.toList with
      | some raw => given.set opt raw
      | none => .ok given
  | none => .ok given

/-- The values with those of all options that come from the environment. -/
def fillAll (env : Environment) (given : Given) : Except UsageError Given :=
  Opt.all.foldlM (fill env) given

end Given

/-- A command with the values of all options. -/
structure Invocation where
  baseUrl : Text
  /-- A fixed token; with one the variable is not looked at. -/
  token : Option Text
  /-- The variable that holds the token. -/
  tokenEnv : Text
  delayMs : Word
  timeoutSecs : Option Word
  command : Command
  deriving DecidableEq, Repr

namespace Invocation

def defaultTokenEnv : String := "AAS_TOKEN"

def defaultDelay : Word := ⟨ClientConfig.defaultDelayMs, by decide⟩

/-- The invocation of a command; what is not given has its default. -/
def ofGiven (given : Given) (command : Command) : Invocation where
  baseUrl := given.baseUrl.getD ClientConfig.defaultBaseUrl.toList
  token := given.token
  tokenEnv := given.tokenEnv.getD defaultTokenEnv.toList
  delayMs := given.delayMs.getD defaultDelay
  timeoutSecs := given.timeoutSecs
  command := command

/-- The client that an invocation describes. -/
def clientConfig (invocation : Invocation) : ClientConfig :=
  ((ClientConfig.new invocation.baseUrl).withActionDelay
      (.ofMilliseconds invocation.delayMs)).withRequestTimeout
    (invocation.timeoutSecs.map fun n => .ofSeconds n)

end Invocation
end PersonGate.Cli
