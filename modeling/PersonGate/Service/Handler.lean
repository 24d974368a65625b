import PersonGate.Service.Access
/-!
# The person service

The service answers at two paths. `/healthz` is open to all. `/person` takes the three actions; each
request for one is counted and judged. The table never changes, so an answer depends on the request
and the table alone (`handle_response`), and the counter is the service's only memory. A new person
gets an identifier that is drawn outside and handed in.
-/
namespace PersonGate

/-- A running service: who may do what, and how many requests asked for an action so far. -/
structure Service where
  table : AccessTable
  /-- The counter; it starts again at zero after 2⁶⁴ requests. -/
  count : UInt64 := 0
  deriving DecidableEq, Repr

namespace Service

def ofGrants (grants : List Grant) : Service := { table := .ofGrants grants }

/-- What the service has at its paths. -/
inductive Resource where
  | health
  | person
  deriving DecidableEq, Repr

def Resource.path : Resource → Text
  | .health => ['/', 'h', 'e', 'a', 'l', 't', 'h', 'z']
  | .person => ['/', 'p', 'e', 'r', 's', 'o', 'n']

/-- The methods that a resource takes. -/
def Resource.allow : Resource → String
  | .health => "GET,HEAD"
  | .person => "POST,PUT,PATCH"

/-- The resource at a path. -/
def resource? (path : Text) : Option Resource :=
  [Resource.health, .person].find? fun resource => resource.path == path

def notFound : Http.Response := { status := 404 }

/-- The answer to a method that a resource does not take. -/
def notAllowed (resource : Resource) : Http.Response :=
  { status := 405, allow := some resource.allow }

def healthText : String := "ok"

/-- The answer of the health check, its body left out on request. -/
def healthy (withBody : Bool) : Http.Response where
  status := 200
  contentType := some "text/plain; charset=utf-8"
  body := if withBody then healthText.toList else []

/-- What the service says about an action that it has carried out. -/
def report : PersonAction → String
  | .create => "person created"
  | .update => "person updated"
  | .restricted => "person patched"

def idStart : String := "\"id\":\""

def messageStart : String := "\"message\":\""

/-- The JSON object that reports an action; it names the identifier of a new person. -/
def reportBody (id : Option Text) (message : String) : Text :=
  let idField := match id with
    | some id => idStart.toList ++ id ++ ['"', ',']
    | none => []
  '\x7b' :: idField ++ messageStart.toList ++ message.toList ++ ['"', '\x7d']

/-- The answer to an action that was carried out. -/
def carriedOut (action : PersonAction) (newId : Text) : Http.Response where
  status := if action = .create then 201 else 200
  contentType := some "application/json"
  body := reportBody (if action = .create then some newId else none) (report action)

/-- The answer to a request for an action. -/
def actionResponse (table : AccessTable) (token : Option Text) (action : PersonAction)
    (newId : Text) : Http.Response :=
  match table.judge token action with
  | .unauthorized => { status := 401 }
  | .forbidden => { status := 403 }
  | .allowed => carriedOut action newId

/-- The answer to a request. -/
def response (table : AccessTable) (newId : Text) (request : Http.Request) : Http.Response :=
  match resource? request.path with
  | none => notFound
  | some .health =>
    match request.method with
    | .get => healthy true
    | .head => healthy false
    | _ => notAllowed .health
  | some .person =>
    match PersonAction.ofMethod? request.method with
    | some action => actionResponse table (requestToken? request) action newId
    | none => notAllowed .person

/-- Does the request ask for an action? -/
def isCounted (request : Http.Request) : Bool :=
  resource? request.path == some .person && (PersonAction.ofMethod? request.method).isSome

/-- The service after a request, and the answer. -/
def handle (service : Service) (newId : Text) (request : Http.Request) :
    Service × Http.Response :=
  ({ service with count := if isCounted request then service.count + 1 else service.count },
    response service.table newId request)

theorem handle_response (service : Service) (newId : Text) (request : Http.Request) :
    (service.handle newId request).2 = response service.table newId request := rfl

/-- The service after a request that may be malformed, and the answer; a malformed request never
reaches the service. -/
def handleDraft (service : Service) (newId : Text) (draft : Http.RequestDraft) :
    Service × Option Http.Response :=
  match Http.Request.ofDraft? draft with
  | some request => ((service.handle newId request).1, some (service.handle newId request).2)
  | none => (service, none)

/-- The answers to drafts in a row, each with the count after it. -/
def handleDrafts (service : Service) (newId : Text) :
    List Http.RequestDraft → List (Option Http.Response × UInt64)
  | [] => []
  | draft :: rest =>
    let (next, answer) := service.handleDraft newId draft
    (answer, next.count) :: next.handleDrafts newId rest

end Service
end PersonGate
