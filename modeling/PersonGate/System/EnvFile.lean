import PersonGate.System.Environment
import PersonGate.Text.Alphanumeric
/-!
# Environment files

A file of `NAME=value` lines adds variables to an environment; a variable that is set to text
already keeps its value. Values may be quoted, strongly with single quotes or weakly with double
ones; outside strong quotes a backslash escapes the next character, and `$NAME` or a braced name
stands for the value of a variable. A quote may run over several lines. Reading stops at the first
line that makes no sense; what was read before it stays.
-/
namespace PersonGate.EnvFile

/-! ## Logical lines -/

/-- Where a line stands with respect to quotes and comments. -/
inductive LineState where
  | plain
  | escape
  | strong
  | strongEscape
  | weak
  | weakEscape
  /-- Behind a blank, where a comment may start. -/
  | blank
  deriving DecidableEq, Repr

namespace LineState

/-- The state after a character that opens a quote, escapes, or does nothing. -/
def opened (c : Char) : LineState :=
  if c = '\\' then .escape else if c = '"' then .weak else if c = '\'' then .strong else .plain

/-- The state after one more character; there is none where a comment starts. -/
def next? (state : LineState) (c : Char) : Option LineState :=
  match state with
  | .blank => if c = '#' then none else some (opened c)
  | .escape => some .plain
  | .plain => some (if Text.isBlank c ∧ c ≠ '\n' ∧ c ≠ '\r' then .blank else opened c)
  | .weak => some (if c = '\\' then .weakEscape else if c = '"' then .plain else .weak)
  | .weakEscape => some .weak
  | .strong => some (if c = '\\' then .strongEscape else if c = '\'' then .plain else .strong)
  | .strongEscape => some .strong

/-- The text in front of a comment, and the state at the end if there is no comment. -/
def scan (state : LineState) : Text → Text × Option LineState
  | [] => ([], some state)
  | c :: rest =>
    match state.next? c with
    | none => ([], none)
    | some next => (c :: (scan next rest).1, (scan next rest).2)

end LineState

/-- The lines of a file, each with its line feed. -/
def physicalLines : Text → List Text
  | [] => []
  | c :: rest =>
    if c = '\n' then [c] :: physicalLines rest
    else match physicalLines rest with
      | [] => [[c]]
      | line :: lines => (c :: line) :: lines

/-- The line without its line feed, and without a carriage return in front of that. -/
def chomp (line : Text) : Text :=
  match line.reverse with
  | '\n' :: '\r' :: rest => rest.reverse
  | '\n' :: rest => rest.reverse
  | _ => line

/-- Does the text start with a comment sign, blanks aside? -/
def isComment (t : Text) : Bool := (Text.trimStart t).head? == some '#'

/-- Lines joined where a quote, an escape or a trailing blank goes over the end of one; there is no
line where the file ends inside such a thing. `pending` is the text of a line not yet complete. -/
def logicalLines (pending : Text) (state : LineState) : List Text → List (Option Text)
  | [] => if state = .plain then [] else [none]
  | line :: rest =>
    if isComment (pending ++ line) then some [] :: logicalLines [] .plain rest
    else match state.scan line with
      | (kept, none) => some (pending ++ kept) :: logicalLines [] .plain rest
      | (_, some .plain) => some (chomp (pending ++ line)) :: logicalLines [] .plain rest
      | (_, some next) => logicalLines (pending ++ line) next rest

/-! ## Values -/

/-- Whether the characters at hand belong to the name of a variable to put in. -/
inductive Substitution where
  | none
  /-- Behind a dollar sign. -/
  | bare
  /-- Between braces. -/
  | braced
  deriving DecidableEq, Repr

/-- Where the reading of a value stands. -/
structure ValueScan where
  strong : Bool := false
  weak : Bool := false
  escaped : Bool := false
  /-- The value has ended, only blanks and a comment may follow. -/
  ended : Bool := false
  substitution : Substitution := .none
  name : Text := []
  output : Text := []
  deriving DecidableEq, Repr

namespace ValueScan

def put (s : ValueScan) (c : Char) : ValueScan := { s with output := s.output ++ [c] }

/-- The value with the variable put in whose name has been read. -/
def substitute (value : Text → Text) (s : ValueScan) : ValueScan :=
  { s with output := s.output ++ value s.name, name := [], substitution := .none }

/-- The scan after a character behind a backslash. -/
def escape? (s : ValueScan) (c : Char) : Option ValueScan :=
  if c ∈ ['\\', '\'', '"', '$', ' '] then some { s.put c with escaped := false }
  else if c = 'n' then some { s.put '\n' with escaped := false }
  else none

/-- The scan after a character in the name of a variable, or the one behind it. -/
def named (value : Text → Text) (s : ValueScan) (c : Char) : ValueScan :=
  if Text.isAlphanumeric c then { s with name := s.name ++ [c] }
  else if s.substitution = .braced then
    if c = '\x7d' then s.substitute value else { s with name := s.name ++ [c] }
  else if c = '\x7b' ∧ s.name = [] then { s with substitution := .braced }
  else if c = '$' then { s.substitute value with substitution := .bare }
  else (s.substitute value).put c

/-- The scan after a character outside strong quotes, escapes and names; inside weak quotes only the
quote, the backslash and the dollar sign mean something. -/
def unquoted (s : ValueScan) (c : Char) : ValueScan :=
  if c = '$' then { s with substitution := .bare }
  else if s.weak then
    if c = '"' then { s with weak := false }
    else if c = '\\' then { s with escaped := true }
    else s.put c
  else if c = '\'' then { s with strong := true }
  else if c = '"' then { s with weak := true }
  else if c = '\\' then { s with escaped := true }
  else if c = ' ' ∨ c = '\t' then { s with ended := true }
  else s.put c

/-- The scan after one more character of a value that has not ended. -/
def next? (value : Text → Text) (s : ValueScan) (c : Char) : Option ValueScan :=
  if s.escaped then s.escape? c
  else if s.strong then some (if c = '\'' then { s with strong := false } else s.put c)
  else if s.substitution ≠ .none then some (s.named value c)
  else some (s.unquoted c)

/-- The value, if nothing is left open. -/
def finish? (value : Text → Text) (s : ValueScan) : Option Text :=
  if s.substitution = .braced ∨ s.strong ∨ s.weak then none else some (s.substitute value).output

/-- The value that a text writes from here on. -/
def read? (value : Text → Text) (s : ValueScan) : Text → Option Text
  | [] => s.finish? value
  | c :: rest =>
    if s.ended then
      if c = ' ' ∨ c = '\t' then read? value s rest
      else if c = '#' then s.finish? value
      else none
    else match s.next? value c with
      | some next => read? value next rest
      | none => none

end ValueScan

/-! ## Entries -/

/-- The environment so far and the values that the file has given so far. -/
structure State where
  environment : Environment
  values : List (Text × Text) := []
  deriving DecidableEq, Repr

/-- What a name in a value stands for: the variable, else the file's own value, else nothing. -/
def State.value (state : State) (name : Text) : Text :=
  match state.environment.var? name with
  | some t => t
  | none => (state.values.lookup name).getD []

/-- A letter or an underscore. -/
def isNameStart (c : Char) : Bool := c.isAlpha || c == '_'

def isNameChar (c : Char) : Bool := c.isAlphanum || c == '_' || c == '.'

/-- The name at the start of a text, and the rest behind the blanks after it. -/
def name? (t : Text) : Option (Text × Text) :=
  match t with
  | c :: _ =>
    if isNameStart c then
      some (t.takeWhile isNameChar, Text.trimStart (t.dropWhile isNameChar))
    else none
  | [] => none

/-- The text behind an equals sign and the blanks after it. -/
def afterEquals? : Text → Option Text
  | '=' :: rest => some (Text.trimStart rest)
  | _ => none

/-- A word in front of a name, unless it is a name itself. -/
def exportWord : Text := ['e', 'x', 'p', 'o', 'r', 't']

/-- The name that a line sets, and the text of its value. -/
def assignment? (line : Text) : Option (Text × Text) := do
  let (name, rest) ← name? line
  match afterEquals? rest with
  | some value => return (name, value)
  | none =>
    if name = exportWord then
      let (name, rest) ← name? rest
      let value ← afterEquals? rest
      return (name, value)
    else none

/-- The name that a line sets, and its value. -/
def setting? (state : State) (line : Text) : Option (Text × Text) := do
  let (name, value) ← assignment? line
  if value = [] ∨ value.head? = some '#' then return (name, [])
  let value ← ValueScan.read? state.value {} value
  return (name, value)

/-- The state after an entry: a variable that is set to text keeps its value. -/
def State.add (state : State) (name value : Text) : State where
  environment :=
    if (state.environment.var? name).isSome then state.environment
    else state.environment.set name (OsText.ofText value)
  values := (name, value) :: state.values

/-- The state after the lines up to the first one that makes no sense. -/
def State.addLines (state : State) : List (Option Text) → State
  | [] => state
  | none :: _ => state
  | some line :: rest =>
    let trimmed := Text.trim line
    if trimmed = [] ∨ trimmed.head? = some '#' then state.addLines rest
    else match setting? state trimmed with
      | some (name, value) => (state.add name value).addLines rest
      | none => state

/-- The environment with the variables that a file adds; a byte order mark in front is skipped. -/
def load (file : Text) (env : Environment) : Environment :=
  let text := if file.head? = some '\ufeff' then file.tail else file
  (State.addLines { environment := env } (logicalLines [] .plain (physicalLines text))).environment

end PersonGate.EnvFile
