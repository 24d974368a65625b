import PersonGate.Client.Exchange
/-!
# What the panel shows

The panel shows one status. A request on its way is shown before a task that still waits, and with
neither the last result stays. The counts of tasks in the two phases change when a task is
scheduled, starts to send and finishes; every change publishes the status that then holds, also if
it is the one that held before.
-/
namespace PersonGate

inductive PanelStatus where
  | idle
  | pending
  | inFlight
  | succeeded
  | failed
  deriving DecidableEq, Repr

namespace PanelStatus

def label : PanelStatus → String
  | .idle => "Idle"
  | .pending => "Pending"
  | .inFlight => "Sending"
  | .succeeded => Outcome.message .succeeded
  | .failed => Outcome.message .failed

def ofOutcome : Outcome → PanelStatus
  | .succeeded => .succeeded
  | .failed => .failed

end PanelStatus

/-- How many tasks are in which phase, and the last result. -/
structure Activity where
  pending : Nat := 0
  inFlight : Nat := 0
  last : Option PanelStatus := none
  deriving DecidableEq, Repr

namespace Activity

def status (a : Activity) : PanelStatus :=
  if 0 < a.inFlight then .inFlight
  else if 0 < a.pending then .pending
  else a.last.getD .idle

def scheduled (a : Activity) : Activity := { a with pending := a.pending + 1 }

def sending (a : Activity) : Activity :=
  { a with pending := a.pending - 1, inFlight := a.inFlight + 1 }

def finished (a : Activity) (result : PanelStatus) : Activity :=
  { a with inFlight := a.inFlight - 1, last := some result }

end Activity

/-- The activity, and every status published so far, the first one first. -/
structure StatusBoard where
  activity : Activity := {}
  published : List PanelStatus := []
  deriving DecidableEq, Repr

namespace StatusBoard

/-- The board after a change of the activity. -/
def update (board : StatusBoard) (activity : Activity) : StatusBoard :=
  ⟨activity, board.published ++ [activity.status]⟩

def scheduled (board : StatusBoard) : StatusBoard := board.update board.activity.scheduled

def sending (board : StatusBoard) : StatusBoard := board.update board.activity.sending

def finished (board : StatusBoard) (result : PanelStatus) : StatusBoard :=
  board.update (board.activity.finished result)

/-- The status published last; before the first one the panel is idle. -/
def current (board : StatusBoard) : PanelStatus := board.published.getLast?.getD .idle

theorem current_update (board : StatusBoard) (activity : Activity) :
    (board.update activity).current = activity.status := by
  simp [update, current]

end StatusBoard
end PersonGate
