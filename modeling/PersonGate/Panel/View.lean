import PersonGate.Markup.Html
import PersonGate.Panel.Task
/-!
# How the panel looks

A button for every action, with line breaks between them, and the status below.
-/
namespace PersonGate.ActionPanel

def panelClass : String := "action-panel"

def statusClass : String := "action-status"

def button (action : PersonAction) : Node := .button action.key.toList action.label.toList

/-- The buttons with a line break between each two. -/
def buttons : List Node :=
  (PersonAction.all.map button).intersperse (.element Node.lineBreak none [])

/-- The line that tells the status. -/
def statusLine (status : PanelStatus) : Node :=
  .element ['p'] (some statusClass.toList) [.text status.label.toList]

/-- The tree that shows a panel with this status. -/
def tree (status : PanelStatus) : Node :=
  .element ['d', 'i', 'v'] (some panelClass.toList) (buttons ++ [statusLine status])

/-- The tree that shows the panel as it is. -/
def view (panel : ActionPanel) : Node := tree panel.status

end PersonGate.ActionPanel
