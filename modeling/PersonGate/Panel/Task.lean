import PersonGate.Panel.Status
/-!
# The panel and its tasks

Every trigger makes a task, and tasks do not know of each other. A task waits until an instant, asks
for a token and sends its request; then it is in flight until its request ends. What happens to a
task is one of a few moves, each made at an instant:

* `schedule` makes a new task and forgets those that have finished,
* `begin` takes a task out of its wait and asks for its token,
* `proceed` goes on with the answer: without a token the task is over, with one its request is sent,
* `resolve` ends a request that is in flight,
* `collect` forgets some of the tasks that have finished, `reap` all of them.

A move on a task that is not in the right phase changes nothing. The log keeps every event with its
task and instant. `dispatch` is the moves that a task makes at once when its wait is over. A panel
ends by stopping its tasks (`abortAll`) and letting go of them (`release`).
-/
namespace PersonGate

inductive TaskPhase where
  /-- Waiting until an instant. -/
  | waiting (due : Nat)
  /-- The wait is over, and the token source has been asked. -/
  | asking
  /-- In flight: until when the request may take, and what happens to it at the other side. -/
  | inFlight (deadline : Option Nat) (reception : Reception)
  | finished
  deriving DecidableEq, Repr

namespace TaskPhase

def isWaiting : TaskPhase → Bool
  | .waiting _ => true
  | _ => false

def isAsking : TaskPhase → Bool
  | .asking => true
  | _ => false

def isInFlight : TaskPhase → Bool
  | .inFlight _ _ => true
  | _ => false

/-- Is the request in flight one that nobody receives? -/
def isRefused : TaskPhase → Bool
  | .inFlight _ .refused => true
  | _ => false

def isFinished : TaskPhase → Bool
  | .finished => true
  | _ => false

/-- How many moves a task in this phase has before it at most. -/
def movesLeft : TaskPhase → Nat
  | .waiting _ => 3
  | .asking => 2
  | .inFlight _ _ => 1
  | .finished => 0

/-- The instant at which the clock makes a task in this phase move, if it does. -/
def wakesAt? : TaskPhase → Option Nat
  | .waiting due => some due
  | .inFlight deadline _ => deadline
  | .asking | .finished => none

theorem eq_waiting {phase : TaskPhase} (h : phase.isWaiting = true) :
    ∃ due, phase = .waiting due := by
  cases phase with
  | waiting due => exact ⟨due, rfl⟩
  | _ => cases h

theorem eq_asking {phase : TaskPhase} (h : phase.isAsking = true) : phase = .asking := by
  cases phase with
  | asking => rfl
  | _ => cases h

theorem eq_inFlight {phase : TaskPhase} (h : phase.isInFlight = true) :
    ∃ deadline reception, phase = .inFlight deadline reception := by
  cases phase with
  | inFlight deadline reception => exact ⟨deadline, reception, rfl⟩
  | _ => cases h

theorem eq_finished {phase : TaskPhase} (h : phase.isFinished = true) : phase = .finished := by
  cases phase with
  | finished => rfl
  | _ => cases h

end TaskPhase

/-- The work of one trigger. -/
structure Task where
  /-- The place of the trigger among all triggers. -/
  id : Nat
  action : PersonAction
  phase : TaskPhase
  deriving DecidableEq, Repr

/-- What can happen to a task. -/
inductive TaskEvent where
  | scheduled (action : PersonAction)
  /-- The wait is over. -/
  | sending
  /-- The token source was asked, and gave this answer. -/
  | tokenCall (answer : Except TokenError BearerToken)
  /-- The request was sent, and it arrived or not. -/
  | attempt (request : SentRequest) (arrived : Bool)
  /-- A response came back, or it is known that none will. -/
  | ended (result : Except TransportError Http.Status)
  | finished (status : PanelStatus)
  /-- The user was told. -/
  | notified (outcome : Outcome)
  deriving Repr

namespace TaskEvent

/-- The answer of the token source. -/
def answer? : TaskEvent → Option (Except TokenError BearerToken)
  | .tokenCall answer => some answer
  | _ => none

/-- The request that got to the other side. -/
def arrived? : TaskEvent → Option SentRequest
  | .attempt request true => some request
  | _ => none

/-- What the user was told. -/
def notice? : TaskEvent → Option Outcome
  | .notified outcome => some outcome
  | _ => none

end TaskEvent

/-- An event, the task that it happened to, and when. -/
structure LogEntry where
  task : Nat
  instant : Nat
  event : TaskEvent
  deriving Repr

/-- A live panel. -/
structure ActionPanel where
  board : StatusBoard := {}
  /-- The tasks not yet reaped, in the order of their triggers. -/
  tasks : List Task := []
  /-- The number of triggers so far. -/
  triggers : Nat := 0
  /-- Everything that happened, in order. -/
  log : List LogEntry := []
  deriving Repr

namespace ActionPanel

/-- The number of tasks not yet reaped. -/
def outstanding (panel : ActionPanel) : Nat := panel.tasks.length

def status (panel : ActionPanel) : PanelStatus := panel.board.current

/-! ## Reading the log -/

/-- Whatever of one kind the events of a log hold, in order. -/
def readings {α : Type} (read : TaskEvent → Option α) (log : List LogEntry) : List α :=
  log.filterMap fun entry => read entry.event

/-- How often the token source was asked. -/
def tokenCalls (log : List LogEntry) : Nat := (readings TaskEvent.answer? log).length

/-- The requests that arrived, in order. -/
def requests (log : List LogEntry) : List SentRequest := readings TaskEvent.arrived? log

/-- What the user was told, in order. -/
def outcomes (log : List LogEntry) : List Outcome := readings TaskEvent.notice? log

/-! ## Moves -/

/-- The panel with these events of one task added to its log. -/
def note (panel : ActionPanel) (task instant : Nat) (events : List TaskEvent) : ActionPanel :=
  { panel with log := panel.log ++ events.map fun event => ⟨task, instant, event⟩ }

/-- The panel in which the task with this number has a new phase, if it is in a phase that
`mayLeave` allows. -/
def setPhase (panel : ActionPanel) (id : Nat) (mayLeave : TaskPhase → Bool) (phase : TaskPhase) :
    ActionPanel :=
  { panel with
    tasks := panel.tasks.map fun task =>
      if task.id = id ∧ mayLeave task.phase then { task with phase := phase } else task }

/-- The task with this number, if it is in a phase that `inPhase` allows. -/
def task? (panel : ActionPanel) (id : Nat) (inPhase : TaskPhase → Bool) : Option Task :=
  panel.tasks.find? fun task => task.id = id ∧ inPhase task.phase

theorem of_task? {panel : ActionPanel} {id : Nat} {p : TaskPhase → Bool} {task : Task}
    (h : panel.task? id p = some task) :
    task ∈ panel.tasks ∧ task.id = id ∧ p task.phase = true :=
  ⟨List.mem_of_find?_eq_some h, by simpa using List.find?_some h⟩

theorem exists_task? {panel : ActionPanel} {task : Task} (h : task ∈ panel.tasks)
    {p : TaskPhase → Bool} (hp : p task.phase = true) :
    ∃ other, panel.task? task.id p = some other := by
  rw [← Option.isSome_iff_exists, task?, List.find?_isSome]
  exact ⟨task, h, by simp [hp]⟩

/-- The panel without those of its finished tasks that are chosen. -/
def collect (panel : ActionPanel) (chosen : Nat → Bool) : ActionPanel :=
  { panel with
    tasks := panel.tasks.filter fun task => !(task.phase.isFinished && chosen task.id) }

/-- The panel without the tasks that have finished. -/
def reap (panel : ActionPanel) : ActionPanel := panel.collect fun _ => true

/-- A trigger: a new task waits until `due`. -/
def schedule (panel : ActionPanel) (instant due : Nat) (action : PersonAction) : ActionPanel :=
  let id := panel.triggers
  { panel with
    board := panel.board.scheduled
    tasks := panel.reap.tasks ++ [⟨id, action, .waiting due⟩]
    triggers := id + 1
    log := panel.log ++ [⟨id, instant, .scheduled action⟩] }

/-- The wait of a task is over, and it asks for a token. -/
def begin (panel : ActionPanel) (instant id : Nat) : ActionPanel :=
  match panel.task? id TaskPhase.isWaiting with
  | none => panel
  | some _ =>
    ({ panel with board := panel.board.sending }.note id instant [.sending]).setPhase id
      TaskPhase.isWaiting .asking

/-- The task is over. -/
def finish (panel : ActionPanel) (id : Nat) (status : PanelStatus) : ActionPanel :=
  { panel with board := panel.board.finished status }.setPhase id
    (fun phase => !phase.isFinished) .finished

/-- The instant until which a request that is sent now may take. -/
def deadline (config : ClientConfig) (instant : Nat) : Option Nat :=
  config.requestTimeout.map fun limit => instant + limit.nanoseconds

/-- A task that has asked for a token gets this answer. Without a token it is over; with one its
request is sent. -/
def proceed (panel : ActionPanel) (config : ClientConfig) (receive : SentRequest → Reception)
    (instant id : Nat) (answer : Except TokenError BearerToken) : ActionPanel :=
  match panel.task? id TaskPhase.isAsking with
  | none => panel
  | some task =>
    match answer with
    | .error _ =>
      (panel.note id instant [.tokenCall answer, .finished .failed]).finish id .failed
    | .ok token =>
      let request := config.request token task.action
      let reception := receive request
      (panel.note id instant [.tokenCall answer, .attempt request reception.arrives]).setPhase id
        TaskPhase.isAsking (.inFlight (deadline config instant) reception)

/-- The request of a task in flight ends with this result, which is shown and told to the user. -/
def resolve (panel : ActionPanel) (instant id : Nat)
    (result : Except TransportError Http.Status) : ActionPanel :=
  match panel.task? id TaskPhase.isInFlight with
  | none => panel
  | some _ =>
    let outcome := Outcome.ofResult result
    (panel.note id instant [.ended result, .finished (.ofOutcome outcome),
      .notified outcome]).finish id (.ofOutcome outcome)

/-- A request that nobody receives ends at once. -/
def bounce (panel : ActionPanel) (instant id : Nat) : ActionPanel :=
  match panel.task? id TaskPhase.isRefused with
  | none => panel
  | some _ => panel.resolve instant id (.error .broken)

/-- What a task does at once when its wait is over: it asks for a token, gets this answer and goes
on until its request is in flight or the task is over. -/
def dispatch (panel : ActionPanel) (config : ClientConfig) (receive : SentRequest → Reception)
    (instant id : Nat) (answer : Except TokenError BearerToken) : ActionPanel :=
  ((panel.begin instant id).proceed config receive instant id answer).bounce instant id

/-! ## The end of a panel -/

/-- Every task is stopped where it stands: it makes no further move, and nothing of that is shown or
told. -/
def abortAll (panel : ActionPanel) : ActionPanel :=
  { panel with tasks := panel.tasks.map fun task => { task with phase := .finished } }

/-- The panel lets go of its tasks, whatever their phases, and nothing moves them any more. -/
def release (panel : ActionPanel) : ActionPanel := { panel with tasks := [] }

end ActionPanel
end PersonGate
