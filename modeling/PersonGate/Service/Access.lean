import PersonGate.Action
import PersonGate.Config.Grant
/-!
# Who may do what

The table of a service maps each accepted token to its roles. It is built from a list of grants in
order, and a later grant for a token replaces an earlier one; roles never add up. A request is
judged by the first `Authorization` header alone: it must be readable, name the scheme `bearer` in
any case, and carry a token of the table whose roles include the one that is needed.
-/
namespace PersonGate

/-- Accepted tokens with their roles; every token has one entry. -/
structure AccessTable where
  entries : List (Text × List Text) := []
  deriving DecidableEq, Repr

namespace AccessTable

/-- The table in which a grant's token has exactly the grant's roles. -/
def insert (table : AccessTable) (grant : Grant) : AccessTable :=
  ⟨(grant.token, grant.roles.eraseDups) ::
    table.entries.filter fun entry => entry.1 != grant.token⟩

/-- The table of a list of grants. -/
def ofGrants (grants : List Grant) : AccessTable := grants.foldl insert {}

/-- The roles of a token, each once, if the token is accepted. -/
def roles? (table : AccessTable) (token : Text) : Option (List Text) := table.entries.lookup token

end AccessTable

/-! ## Judging a request -/

/-- The scheme of a bearer token in lower case. -/
def bearerScheme : Text := ['b', 'e', 'a', 'r', 'e', 'r']

/-- The token in the value of an `Authorization` header. -/
def bearerToken? (value : Text) : Option Text := do
  let readable ← Http.readable? value
  let (scheme, token) ← Text.cut? ' ' readable
  if scheme.map Char.toLower = bearerScheme ∧ Text.trim token ≠ [] then some (Text.trim token)
  else none

/-- The token that a request carries. -/
def requestToken? (request : Http.Request) : Option Text :=
  request.headerValue? Http.Request.authorizationName >>= bearerToken?

/-- How a request for an action is judged. -/
inductive Verdict where
  /-- There is no acceptable token. -/
  | unauthorized
  /-- The token lacks the role. -/
  | forbidden
  | allowed
  deriving DecidableEq, Repr

/-- The verdict on a token that asks for an action. -/
def AccessTable.judge (table : AccessTable) (token : Option Text) (action : PersonAction) :
    Verdict :=
  match token >>= table.roles? with
  | none => .unauthorized
  | some roles => if action.requiredRole.name.toList ∈ roles then .allowed else .forbidden

end PersonGate
