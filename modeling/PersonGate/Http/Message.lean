import PersonGate.Http.Grammar
import PersonGate.Http.Uri
/-!
# Requests and responses

A request as it comes in is a draft: texts for the method, the target and the headers. It becomes a
`Request` if these are well formed; header names lose their case there, and of the target only the
path is kept. Any body will do.
-/
namespace PersonGate.Http

inductive Method where
  | get
  | head
  | post
  | put
  | patch
  | other (name : Text)
  deriving DecidableEq, Repr

namespace Method

/-- The methods with a meaning here, with their names. -/
def known : List (Text × Method) := [
  (['G', 'E', 'T'], .get), (['H', 'E', 'A', 'D'], .head), (['P', 'O', 'S', 'T'], .post),
  (['P', 'U', 'T'], .put), (['P', 'A', 'T', 'C', 'H'], .patch)]

/-- The method with a name; names are case-sensitive. -/
def ofName (name : Text) : Method := (known.lookup name).getD (.other name)

def name : Method → Text
  | .get => ['G', 'E', 'T']
  | .head => ['H', 'E', 'A', 'D']
  | .post => ['P', 'O', 'S', 'T']
  | .put => ['P', 'U', 'T']
  | .patch => ['P', 'A', 'T', 'C', 'H']
  | .other name => name

end Method

/-- A header: its name and its value. -/
structure Header where
  name : Text
  value : Text
  deriving DecidableEq, Repr

/-- A request that may still be malformed. -/
structure RequestDraft where
  method : Text
  target : Text
  headers : List Header
  body : Text := []
  deriving DecidableEq, Repr

/-- A well-formed request. -/
structure Request where
  method : Method
  /-- The path of the target, without query and fragment. -/
  path : Text
  /-- The headers in order, their names in lower case. -/
  headers : List Header
  body : Text := []
  deriving DecidableEq, Repr

namespace Request

/-- The header with its name in lower case, if name and value are well formed. -/
def header? (header : Header) : Option Header :=
  if isHeaderName header.name && header.value.all isSendable then
    some { header with name := header.name.map Char.toLower }
  else none

/-- The request that a draft describes, if it is well formed. -/
def ofDraft? (draft : RequestDraft) : Option Request :=
  match Uri.target? draft.target, draft.headers.mapM header? with
  | some path, some headers =>
    if isToken draft.method then some ⟨.ofName draft.method, path, headers, draft.body⟩ else none
  | _, _ => none

/-- The value of the first header with a name in lower case. -/
def headerValue? (request : Request) (name : Text) : Option Text :=
  (request.headers.find? fun header => header.name == name).map Header.value

/-- The name of the header that carries credentials. -/
def authorizationName : Text :=
  ['a', 'u', 't', 'h', 'o', 'r', 'i', 'z', 'a', 't', 'i', 'o', 'n']

end Request

/-- A status code. -/
abbrev Status := Nat

/-- Does the status say that the request was carried out? -/
def isSuccess (status : Status) : Bool := 200 ≤ status && status ≤ 299

theorem isSuccess_iff {status : Status} :
    isSuccess status = true ↔ 200 ≤ status ∧ status ≤ 299 := by
  rw [isSuccess, Bool.and_eq_true, decide_eq_true_eq, decide_eq_true_eq]

/-- An answer. -/
structure Response where
  status : Status
  contentType : Option String := none
  allow : Option String := none
  body : Text := []
  deriving DecidableEq, Repr

end PersonGate.Http
