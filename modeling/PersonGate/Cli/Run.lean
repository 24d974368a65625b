import PersonGate.Cli.Words
import PersonGate.Nav.Bar
import PersonGate.Panel.Session
import PersonGate.Service.Launch
/-!
# Running a command

Two commands print a part of the user interface. The three actions trigger the panel once, wait for
it to come to rest, and print what the user is told; the exit code says whether the action
succeeded. `serve` starts the service with the configuration in the environment.
-/
namespace PersonGate.Cli

/-- Why a command fails before it does anything. -/
inductive CommandError where
  /-- The fixed token is none. -/
  | token (cause : TokenError)
  | config (cause : ConfigError)
  | service (cause : LaunchError)
  deriving DecidableEq, Repr

namespace CommandError

def tokenStart : String := "invalid --token: "

def configStart : String := "configuration error: "

def serviceStart : String := "person service failed: "

def message : CommandError → Text
  | .token cause => tokenStart.toList ++ cause.message
  | .config cause => configStart.toList ++ cause.message
  | .service cause => serviceStart.toList ++ cause.message

end CommandError

/-- What a command works with. -/
structure Surroundings where
  environment : Environment
  endpoint : Endpoint
  ports : Service.PortCheck
  /-- Random bytes for the tokens that a service may have to make up. -/
  adminBytes : List UInt8
  userBytes : List UInt8

/-- What comes back in the end for a request that the endpoint holds: a reply, some time after the
request was sent. -/
structure LateReply where
  /-- Nanoseconds. -/
  span : Nat
  reply : Reply
  deriving DecidableEq, Repr

/-- How a command ends. -/
inductive Ending where
  | exited (code : Nat)
  | failed (cause : CommandError)
  /-- The service runs. -/
  | serving (service : Service)
  /-- A request is held, and nothing ever comes back for it. -/
  | waiting
  deriving DecidableEq, Repr

def successCode : Nat := 0

def failureCode : Nat := 1

/-- What a command prints, sends and ends with. -/
structure Run where
  output : Text := []
  requests : List SentRequest := []
  ending : Ending
  deriving Repr

/-- A panel that was triggered just now, when the late reply has come in, if there is one. -/
def answerLate (setting : PanelSetting) (action : PersonAction) (s : TimedPanel) :
    Option LateReply → TimedPanel
  | none => s
  | some late =>
    let span := setting.config.actionDelay.nanoseconds + late.span
    ((s.advance setting span).reply setting action late.reply).1

namespace Invocation

/-- The source of tokens: the fixed token if there is one, else the variable. -/
def source (invocation : Invocation) : Except CommandError TokenSource :=
  match invocation.token with
  | some raw =>
    match BearerToken.ofText raw with
    | .ok token => .ok (.fixed token)
    | .error cause => .error (.token cause)
  | none => .ok (.ofVariable invocation.tokenEnv)

/-- Is there a fixed token, or text that is not blank in the fallback? -/
def tokenConfigured (invocation : Invocation) (env : Environment) : Bool :=
  invocation.token.isSome || (env.var? invocation.tokenEnv).any fun t => Text.trim t ≠ []

/-- A line of output. -/
def line (t : Text) : Text := t ++ ['\n']

/-- The request that an action sends once its wait is over, if there is a token. -/
def request? (invocation : Invocation) (env : Environment) (action : PersonAction) :
    Option SentRequest :=
  match invocation.source with
  | .error _ => none
  | .ok source =>
    match source ⟨0, invocation.clientConfig.actionDelay.nanoseconds, env⟩ with
    | .error _ => none
    | .ok token => some (invocation.clientConfig.request token action)

/-- The panel after one trigger and the wait for its end, and whether it came to an end. -/
def actionPanel (invocation : Invocation) (source : TokenSource) (action : PersonAction)
    (surroundings : Surroundings) (late : Option LateReply) : TimedPanel × Bool :=
  let setting : PanelSetting := ⟨invocation.clientConfig, source, surroundings.endpoint⟩
  let start : TimedPanel := { environment := surroundings.environment }
  (answerLate setting action (start.trigger setting action) late).waitIdle setting none

/-- One action from start to end. -/
def runAction (invocation : Invocation) (action : PersonAction) (surroundings : Surroundings)
    (late : Option LateReply) : Run :=
  match invocation.source with
  | .error cause => { ending := .failed cause }
  | .ok source =>
    let (final, idle) := invocation.actionPanel source action surroundings late
    { output := (ActionPanel.outcomes final.panel.log).flatMap fun outcome =>
        line outcome.message.toList
      requests := ActionPanel.requests final.panel.log
      ending :=
        if idle then
          .exited (if final.panel.status = .succeeded then successCode else failureCode)
        else .waiting }

/-- The start of the service. -/
def runService (surroundings : Surroundings) : Run :=
  match ServiceConfig.ofEnvironment surroundings.environment with
  | .error cause => { ending := .failed (.config cause) }
  | .ok config =>
    match Service.launch config surroundings.ports surroundings.adminBytes
      surroundings.userBytes with
    | .error cause => { ending := .failed (.service cause) }
    | .ok service => { ending := .serving service }

/-- The run of a command; if its request is held, there may be a late reply. -/
def runWith (late : Option LateReply) (invocation : Invocation) (surroundings : Surroundings) :
    Run :=
  match invocation.command with
  | .nav authenticated =>
    let loggedIn :=
      authenticated.getD (invocation.tokenConfigured surroundings.environment)
    { output := line (NavBar.treeWhen loggedIn).html, ending := .exited successCode }
  | .panel =>
    match invocation.source with
    | .error cause => { ending := .failed cause }
    | .ok _ => { output := line (ActionPanel.tree .idle).html, ending := .exited successCode }
  | .act action => invocation.runAction action surroundings late
  | .serve => runService surroundings

/-- The run of a command when nothing comes back late. -/
def run (invocation : Invocation) (surroundings : Surroundings) : Run :=
  runWith none invocation surroundings

end Invocation

/-- The exit code of an ending, if the program ends at all. -/
def Ending.exitCode? : Ending → Option Nat
  | .exited code => some code
  | .failed _ => some failureCode
  | .serving _ | .waiting => none

end PersonGate.Cli
