import PersonGate.Panel.Clock
import PersonGate.Panel.View
/-!
# Working with a panel

A session is a sequence of steps on one timed panel: triggers, the passing of time, replies, waits,
changes of the environment, and the end of the panel. Each step has a report of what it brought
about: the status, whether it was published, the requests that arrived, what the user was told.
-/
namespace PersonGate

namespace TimedPanel

/-- What can be done in a session. -/
inductive Step where
  | trigger (action : PersonAction)
  /-- A span of nanoseconds passes. -/
  | advance (span : Nat)
  | reply (action : PersonAction) (reply : Reply)
  | waitIdle
  | render
  | setVariable (name : Text) (value : OsText)
  | unsetVariable (name : Text)
  /-- The panel is taken down in an orderly way. -/
  | teardown
  /-- The panel is dropped. -/
  | drop
  deriving DecidableEq, Repr

/-- What a step answers. -/
inductive Answer where
  | done
  /-- The step needs a panel, and there is none any more. -/
  | noPanel
  | sent
  | nothingHeld
  | idle
  | blocked
  | markup (html : Text)
  deriving DecidableEq, Repr

/-- One step. A wait goes up to the horizon, and is not begun if it would not end by then; time
passes all the same. -/
def step (setting : PanelSetting) (horizon : Option Nat) (s : TimedPanel) :
    Step → TimedPanel × Answer
  | .trigger action => if s.live then (s.trigger setting action, .done) else (s, .noPanel)
  | .advance span => (s.advance setting span, .done)
  | .reply action reply =>
    let (next, found) := TimedPanel.reply setting s action reply
    (next, if found then .sent else .nothingHeld)
  | .waitIdle =>
    if s.live then
      let settled := s.settle setting horizon
      -- no wait is begun that would have to be cut short, so finished tasks stay where they are
      if settled.isIdle then ((s.waitIdle setting horizon).1, .idle) else (settled, .blocked)
    else (s, .noPanel)
  | .render => if s.live then (s, .markup s.panel.view.html) else (s, .noPanel)
  | .setVariable name value => ({ s with environment := s.environment.set name value }, .done)
  | .unsetVariable name => ({ s with environment := s.environment.unset name }, .done)
  | .teardown => if s.live then (s.teardown, .done) else (s, .noPanel)
  | .drop => if s.live then (s.drop, .done) else (s, .noPanel)

/-! ## Reports -/

/-- Is the first text the second one, or before it? The first difference decides, by code points. -/
def atMost : Text → Text → Bool
  | [], _ => true
  | _ :: _, [] => false
  | a :: s, b :: t => if a = b then atMost s t else decide (a.toNat < b.toNat)

/-- Requests in ascending order of their authorization, and of their method where that is equal. -/
def sortRequests (requests : List SentRequest) : List SentRequest :=
  requests.mergeSort fun a b =>
    if a.authorization = b.authorization then atMost a.method.name b.method.name
    else atMost a.authorization b.authorization

/-- What a step brought about. -/
structure Report where
  answer : Answer
  status : PanelStatus
  /-- Was a status published, if there is a panel? -/
  changed : Option Bool
  /-- The number of tasks not yet reaped, if there is a panel. -/
  outstanding : Option Nat
  /-- The requests that arrived during the step. -/
  requests : List SentRequest
  /-- What the user was told during the step. -/
  outcomes : List Outcome
  /-- How often the token source was asked so far. -/
  tokenCalls : Nat
  deriving Repr

/-- The report of a step that led from one state to another. -/
def report (before after : TimedPanel) (answer : Answer) : Report :=
  let news := after.panel.log.drop before.panel.log.length
  { answer
    status := after.panel.status
    changed :=
      if after.live then
        some (before.panel.board.published.length < after.panel.board.published.length)
      else none
    outstanding := if after.live then some after.panel.outstanding else none
    requests := sortRequests (ActionPanel.requests news)
    outcomes := ActionPanel.outcomes news
    tokenCalls := ActionPanel.tokenCalls after.panel.log }

/-- The reports of a session's steps in order. -/
def run (setting : PanelSetting) (horizon : Option Nat) (s : TimedPanel) : List Step → List Report
  | [] => []
  | step :: rest =>
    let (next, answer) := s.step setting horizon step
    report s next answer :: run setting horizon next rest

end TimedPanel
end PersonGate
