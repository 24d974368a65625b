import PersonGate.Text.Blank
import PersonGate.System.Environment
/-!
# Bearer tokens and where they come from

A bearer token is an opaque text without blanks at its ends; a text of blanks is no token
(`BearerToken.ofText_eq_error_iff`). Descriptions of a token never show it. A `TokenSource` is asked
once for every request: it holds one token, or reads an environment variable anew at each call.
-/
namespace PersonGate

/-- Why there is no token. -/
inductive TokenError where
  | unavailable (reason : Text)
  | empty
  deriving DecidableEq, Repr

def TokenError.unavailableLabel : String := "token source unavailable: "

def TokenError.emptyLabel : String := "token is empty"

def TokenError.message : TokenError → Text
  | .unavailable reason => unavailableLabel.toList ++ reason
  | .empty => emptyLabel.toList

/-- A bearer credential; `ofText` makes them. -/
structure BearerToken where
  secret : Text
  deriving DecidableEq, Repr

namespace BearerToken

/-- The token in a text, its surrounding blanks removed. -/
def ofText (raw : Text) : Except TokenError BearerToken :=
  if Text.trim raw = [] then .error .empty else .ok ⟨Text.trim raw⟩

/-- The scheme and the space in front of a token in an `Authorization` header. -/
def scheme : Text := ['B', 'e', 'a', 'r', 'e', 'r', ' ']

/-- The value of the `Authorization` header. -/
def authorization (token : BearerToken) : Text := scheme ++ token.secret

/-- What a diagnostic shows of a token. -/
def description (_token : BearerToken) : String := "BearerToken(<redacted>)"

theorem ofText_eq_ok_iff {raw : Text} {token : BearerToken} :
    ofText raw = .ok token ↔ token.secret = Text.trim raw ∧ Text.trim raw ≠ [] := by
  cases token
  simp only [ofText]
  split
  · simp_all
  · simp_all only [Except.ok.injEq, mk.injEq, not_false_eq_true, and_true, ne_eq]
    exact eq_comm

theorem ofText_eq_error_iff {raw : Text} {e : TokenError} :
    ofText raw = .error e ↔ e = .empty ∧ ∀ c ∈ raw, Text.isBlank c = true := by
  rw [← Text.trim_eq_nil_iff]
  simp only [ofText]
  split
  · simp_all only [Except.error.injEq, and_true]
    exact eq_comm
  · simp_all

theorem authorization_injective {a b : BearerToken} (h : a.authorization = b.authorization) :
    a = b := by
  cases a; cases b
  simpa [authorization] using h

end BearerToken

/-! ## Sources -/

/-- What a source can see when it is asked: the number of earlier calls, the instant and the
environment. -/
structure TokenCall where
  index : Nat
  instant : Nat
  environment : Environment
  deriving Repr

/-- Something that answers requests for the current token. -/
abbrev TokenSource := TokenCall → Except TokenError BearerToken

namespace TokenSource

/-- The source that always has the same token. -/
def fixed (token : BearerToken) : TokenSource := fun _ => .ok token

/-- What a diagnostic shows of the source that always has the same token. -/
def fixedDescription (token : BearerToken) : String :=
  "StaticTokenProvider \x7b token: " ++ token.description ++ " \x7d"

def unsetStart : String := "env var "

def unsetEnd : String := " not set"

/-- The token in an environment variable. -/
def fromEnvironment (name : Text) (env : Environment) : Except TokenError BearerToken :=
  match env.var? name with
  | some raw => BearerToken.ofText raw
  | none => .error (.unavailable (unsetStart.toList ++ name ++ unsetEnd.toList))

/-- The source that reads a variable at every call. -/
def ofVariable (name : Text) : TokenSource := fun call => fromEnvironment name call.environment

/-! ## Calls in a row -/

/-- What can be done around a source. -/
inductive Step where
  | setVariable (name : Text) (value : OsText)
  | unsetVariable (name : Text)
  | call
  deriving DecidableEq, Repr

/-- The answers to the calls among the steps, in order; `calls` were made before. -/
def run (source : TokenSource) (calls : Nat) (env : Environment) :
    List Step → List (Except TokenError BearerToken)
  | [] => []
  | .setVariable name value :: rest => run source calls (env.set name value) rest
  | .unsetVariable name :: rest => run source calls (env.unset name) rest
  | .call :: rest => source ⟨calls, 0, env⟩ :: run source (calls + 1) env rest

end TokenSource
end PersonGate
