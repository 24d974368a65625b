import PersonGate.Action
import PersonGate.Auth.Token
import PersonGate.Config.Client
import PersonGate.Http.Address
import PersonGate.Http.Wire
import PersonGate.Service.Handler
/-!
# Sending a request

A client sends one request without a body to the person resource, the token in its `Authorization`
header. What becomes of it is up to the endpoint at the other side: the request may be refused
before anyone sees it, it may be answered, or it may be held without an answer until the client's
time limit, if there is one, runs out. A token that cannot stand in a header is refused at home.
-/
namespace PersonGate

/-- A request on its way. -/
structure SentRequest where
  method : Http.Method
  /-- The address of the person resource. -/
  url : Text
  /-- The value of the `Authorization` header. -/
  authorization : Text
  body : Option Text
  deriving DecidableEq, Repr

/-- Where a request goes, if its address can be asked for. -/
def SentRequest.address? (request : SentRequest) : Option Http.Address :=
  (Http.Address.parse? request.url).filter Http.Address.isTarget

/-- The path that the receiver of a request sees. -/
def SentRequest.path (request : SentRequest) : Text :=
  match request.address? with
  | some address => address.path
  | none => []

/-- The request for an action that a client sends with a token; it has no body. -/
def ClientConfig.request (config : ClientConfig) (token : BearerToken) (action : PersonAction) :
    SentRequest :=
  ⟨action.method, config.personUrl, token.authorization, none⟩

/-- The request as a client sends it to an address. -/
def SentRequest.wire (request : SentRequest) (address : Http.Address) : Text :=
  let body := request.body.getD []
  Http.Wire.head (request.method.name ++ [' '] ++ address.target ++ [' '] ++ Http.Wire.version) [
    ⟨"host".toList, address.origin.label⟩, ⟨Http.Request.authorizationName, request.authorization⟩,
    ⟨"content-length".toList, Http.number (Http.Uri.byteLength body)⟩,
    ⟨"connection".toList, "close".toList⟩] ++ body

/-- Why there is no answer. -/
inductive TransportError where
  /-- The request did not go out, or what came back was no answer. -/
  | broken
  | timedOut
  deriving DecidableEq, Repr

/-- What comes back for a request: an answer's status, whether or not its body arrives, or nothing
that is an answer. -/
inductive Reply where
  | status (code : Http.Status)
  | broken
  deriving DecidableEq, Repr

def Reply.result : Reply → Except TransportError Http.Status
  | .status code => .ok code
  | .broken => .error .broken

/-- What happens to a request that is sent. -/
inductive Reception where
  /-- The request does not arrive. -/
  | refused
  | answered (reply : Reply)
  /-- The request arrives and is not answered for now. -/
  | held
  deriving DecidableEq, Repr

/-- Does the request get to the other side? -/
def Reception.arrives : Reception → Bool
  | .refused => false
  | .answered _ | .held => true

/-- The other side: what happens to a request sent at an instant. -/
abbrev Endpoint := Nat → SentRequest → Reception

namespace Endpoint

/-- No request arrives. -/
def unreachable : Endpoint := fun _ _ => .refused

/-- Every request gets the same reply. -/
def replying (reply : Reply) : Endpoint := fun _ _ => .answered reply

/-- Every request is held. -/
def holding : Endpoint := fun _ _ => .held

/-- The request as a service reads it. -/
def received (request : SentRequest) : Http.Request where
  method := request.method
  path := request.path
  headers := [⟨Http.Request.authorizationName, request.authorization⟩]
  body := request.body.getD []

/-- Every request is answered by a person service with this table. -/
def service (table : AccessTable) : Endpoint := fun _ request =>
  .answered (.status (Service.response table [] (received request)).status)

/-- Only requests to the origin of an address arrive. -/
def ofOrigin (base : Text) (endpoint : Endpoint) : Endpoint := fun instant request =>
  if request.address?.map Http.Address.origin = (Http.Address.parse? base).map Http.Address.origin
  then endpoint instant request
  else .refused

end Endpoint

/-- Can the request leave the client? -/
def SentRequest.isSendable (request : SentRequest) : Bool :=
  request.authorization.all Http.isSendable && request.address?.isSome

/-- A header can hold a token if every character of the token may stand there. -/
theorem all_isSendable_authorization (token : BearerToken) :
    token.authorization.all Http.isSendable = token.secret.all Http.isSendable := by
  have hscheme : BearerToken.scheme.all Http.isSendable = true := by decide
  rw [BearerToken.authorization, List.all_append, hscheme, Bool.true_and]

/-- What happens to a request that a client sends at an instant. -/
def Endpoint.receive (endpoint : Endpoint) (instant : Nat) (request : SentRequest) : Reception :=
  if request.isSendable then endpoint instant request else .refused

/-! ## One exchange from start to end -/

/-- A finished exchange, or one that never ends. -/
structure Exchange where
  /-- The result, unless the request is held for ever. -/
  result? : Option (Except TransportError Http.Status)
  /-- The requests that arrived. -/
  arrived : List SentRequest
  deriving Repr

/-- Sends the request for an action at an instant and waits for its end. -/
def Endpoint.exchange (endpoint : Endpoint) (config : ClientConfig) (instant : Nat)
    (token : BearerToken) (action : PersonAction) : Exchange :=
  let request := config.request token action
  match endpoint.receive instant request with
  | .refused => ⟨some (.error .broken), []⟩
  | .answered reply => ⟨some reply.result, [request]⟩
  | .held => ⟨config.requestTimeout.map fun _ => .error .timedOut, [request]⟩

/-- What the user is told once a request has ended. -/
inductive Outcome where
  | succeeded
  | failed
  deriving DecidableEq, Repr

def Outcome.message : Outcome → String
  | .succeeded => "Action successful"
  | .failed => "Action failed"

/-- A request succeeded if an answer says so; every other end is a failure. -/
def Outcome.ofResult : Except TransportError Http.Status → Outcome
  | .ok status => if Http.isSuccess status then .succeeded else .failed
  | .error _ => .failed

theorem Outcome.ofResult_eq_succeeded_iff {result : Except TransportError Http.Status} :
    ofResult result = .succeeded ↔ ∃ status, result = .ok status ∧ Http.isSuccess status = true := by
  cases result with
  | error cause => simp [ofResult]
  | ok status => simp [ofResult]

/-- Why an action was not even tried. -/
inductive ActionError where
  | token (cause : TokenError)
  deriving DecidableEq, Repr

def ActionError.tokenStart : String := "token unavailable: "

def ActionError.message : ActionError → Text
  | .token cause => tokenStart.toList ++ cause.message

/-- Asks for a token and sends the request for an action with it. -/
def Endpoint.attempt (endpoint : Endpoint) (config : ClientConfig) (source : TokenSource)
    (call : TokenCall) (action : PersonAction) : Except TokenError Exchange :=
  match source call with
  | .error cause => .error cause
  | .ok token => .ok (endpoint.exchange config call.instant token action)

/-- What the user is told of an exchange, unless it never ends. -/
def Exchange.outcome? (exchange : Exchange) : Option Outcome :=
  exchange.result?.map Outcome.ofResult

/-- An action from start to end: its exchange, unless there is no token. -/
def Endpoint.perform (endpoint : Endpoint) (config : ClientConfig) (source : TokenSource)
    (call : TokenCall) (action : PersonAction) : Except ActionError Exchange :=
  match endpoint.attempt config source call action with
  | .error cause => .error (.token cause)
  | .ok exchange => .ok exchange

end PersonGate
