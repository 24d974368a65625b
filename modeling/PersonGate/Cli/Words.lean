import PersonGate.Cli.Invocation
/-!
# Reading a command line

The words before the command are options, `--name value` or `--name=value`, each at most once; the
command is the first word that is one and is not the value of an option. Only `nav` has a flag
behind it. The value of an option that stands apart is read when the next option begins or when all
words have been seen, so a mistake in the words behind it is reported first. After all words come
the values from the environment, and last the question whether there is a command at all.
-/
namespace PersonGate.Cli

/-- What a word looks like. -/
inductive WordShape where
  /-- The two dashes that end the options. -/
  | terminator
  /-- Two dashes and a name, and the value after an equals sign if there is one. -/
  | long (name : OsText) (value : Option OsText)
  /-- A dash and a letter. -/
  | short (first : OsUnit)
  | plain
  deriving DecidableEq, Repr

namespace WordShape

/-- The text before the first equals sign, and the text after it if there is one. -/
def cutValue (t : OsText) : OsText × Option OsText :=
  (t.takeWhile (· ≠ .char '='), ((t.dropWhile (· ≠ .char '=')).tail?))

def ofWord : OsText → WordShape
  | [.char '-', .char '-'] => .terminator
  | .char '-' :: .char '-' :: rest => .long (cutValue rest).1 (cutValue rest).2
  | .char '-' :: first :: _ => .short first
  | _ => .plain

end WordShape

/-- Does the name belong to the help flag? -/
def isHelp (name : OsText) : Bool := name == OsText.ofText Subcommand.help.name.toList

/-- What a long help flag leads to. -/
def helpFlag (value : Option OsText) : UsageError :=
  if value.isSome then .tooManyValues else .help

/-- What a short flag leads to; only `-h` has a meaning. -/
def shortFlag (first : OsUnit) : UsageError :=
  if first = .char 'h' then .help else .unknownArgument

/-! ## The words behind a command -/

/-- The name of the one flag, which `nav` has. -/
def navFlag : String := "authenticated"

/-- The two values of the flag. -/
def readFlag (raw : OsText) : Except UsageError Bool :=
  if raw = OsText.ofText "true".toList then .ok true
  else if raw = OsText.ofText "false".toList then .ok false
  else .error .invalidValue

/-- The words behind a command, which knows the flag or not; `flag` is the value seen so far. -/
def readLeaf (knowsFlag : Bool) (flag : Option Bool) :
    List OsText → Except UsageError (Option Bool)
  | [] => .ok flag
  | word :: rest =>
    match WordShape.ofWord word with
    | .terminator => if rest = [] then .ok flag else .error .unknownArgument
    | .long name value =>
      if isHelp name then .error (helpFlag value)
      else if knowsFlag && name == OsText.ofText navFlag.toList then
        if flag.isSome then .error .argumentConflict
        else match readFlag (value.getD (OsText.ofText "true".toList)) with
          | .ok b => readLeaf knowsFlag (some b) rest
          | .error e => .error e
      else .error .unknownArgument
    | .short first => .error (shortFlag first)
    | .plain => .error .unknownArgument

/-- What a request for help on some commands leads to. -/
def readHelp : List OsText → UsageError
  | [] => .help
  | [word] => if (Subcommand.ofWord? word).isSome then .help else .invalidSubcommand
  | _ => .invalidSubcommand

/-- The command that a command word and the words behind it ask for. -/
def readCommand (rest : List OsText) : Subcommand → Except UsageError Command
  | .nav => (readLeaf true none rest).map .nav
  | .panel => (readLeaf false none rest).map fun _ => .panel
  | .act action => (readLeaf false none rest).map fun _ => .act action
  | .serve => (readLeaf false none rest).map fun _ => .serve
  | .help => .error (readHelp rest)

/-! ## The words before it -/

/-- Where the reading of options stands: the values read, and the last option if its value has not
been read yet, because it is still to come or because it stands apart. -/
structure OptionScan where
  given : Given := {}
  pending : Option (Opt × Option OsText) := none
  deriving DecidableEq, Repr

namespace OptionScan

/-- Is the next word the value of an option? -/
def awaitsValue (scan : OptionScan) : Bool :=
  match scan.pending with
  | some (_, none) => true
  | _ => false

/-- The values with one more; every option is given once. -/
def take (given : Given) (opt : Opt) (raw : OsText) : Except UsageError Given :=
  if given.has opt then .error .argumentConflict else given.set opt raw

/-- The values with that of the last option. -/
def settle (scan : OptionScan) : Except UsageError Given :=
  match scan.pending with
  | none => .ok scan.given
  | some (_, none) => .error .invalidValue
  | some (opt, some raw) => take scan.given opt raw

/-- The option with a name. -/
def option? (name : OsText) : Option Opt :=
  Opt.all.find? fun opt => name == OsText.ofText opt.name.toList

/-- The scan after an option; the one before it is read first. -/
def begin (scan : OptionScan) (opt : Opt) (value : Option OsText) :
    Except UsageError OptionScan :=
  match scan.settle with
  | .error e => .error e
  | .ok given =>
    match value with
    | some raw => (take given opt raw).map fun given => ⟨given, none⟩
    | none => .ok ⟨given, some (opt, none)⟩

/-- What help leads to: a mistake in the option before it comes first. -/
def help (scan : OptionScan) : UsageError :=
  match scan.settle with
  | .error e => e
  | .ok _ => .help

/-- The scan after a long word. -/
def long (scan : OptionScan) (name : OsText) (value : Option OsText) :
    Except UsageError OptionScan :=
  match option? name with
  | some opt => scan.begin opt value
  | none =>
    if isHelp name then .error (if value.isSome then .tooManyValues else scan.help)
    else .error .unknownArgument

/-- The command word, unless the word is the value of an option. -/
def subcommand? (scan : OptionScan) (word : OsText) : Option Subcommand :=
  if scan.awaitsValue then none else Subcommand.ofWord? word

/-- The scan after all words, and the command if there is one. -/
def read (scan : OptionScan) : List OsText → Except UsageError (OptionScan × Option Command)
  | [] => .ok (scan, none)
  | word :: rest =>
    match scan.subcommand? word with
    | some command => (readCommand rest command).map fun command => (scan, some command)
    | none =>
      match WordShape.ofWord word with
      | .terminator =>
        match rest with
        | [] => .ok (scan, none)
        | next :: _ =>
          .error (if (Subcommand.ofWord? next).isSome then .unknownArgument
            else .invalidSubcommand)
      | .long name value =>
        match scan.long name value with
        | .ok next => next.read rest
        | .error e => .error e
      | .short first =>
        .error (if first = .char 'h' then scan.help else .unknownArgument)
      | .plain =>
        match scan.pending with
        | some (opt, none) => read { scan with pending := some (opt, some word) } rest
        | _ => .error .invalidSubcommand

end OptionScan

/-- The invocation that the words ask for, with the environment behind them. -/
def parse (env : Environment) (words : List OsText) : Except UsageError Invocation :=
  match OptionScan.read {} words with
  | .error e => .error e
  | .ok (scan, command) =>
    match scan.settle with
    | .error e => .error e
    | .ok given =>
      match given.fillAll env with
      | .error e => .error e
      | .ok filled =>
        match command with
        | some command => .ok (.ofGiven filled command)
        | none => .error (if filled.isEmpty then .helpOnNothing else .missingSubcommand)

end PersonGate.Cli
