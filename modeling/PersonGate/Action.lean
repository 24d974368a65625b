import PersonGate.Http.Message
/-!
# What can be done to a person

Three actions, each with the method that asks for it, the role that it takes, and the words that the
user interface has for it.
-/
namespace PersonGate

/-- A role that the service asks for. -/
inductive Role where
  | admin
  | user
  | superuser
  deriving DecidableEq, Repr

def Role.name : Role → String
  | .admin => "person-admin"
  | .user => "person-user"
  | .superuser => "person-superuser"

/-- Something to ask of the person service. -/
inductive PersonAction where
  | create
  | update
  /-- The action that takes a role which ordinary users lack. -/
  | restricted
  deriving DecidableEq, Repr

namespace PersonAction

/-- The actions in the order in which they are offered. -/
def all : List PersonAction := [.create, .update, .restricted]

def method : PersonAction → Http.Method
  | .create => .post
  | .update => .put
  | .restricted => .patch

/-- The action that a method asks for. -/
def ofMethod? : Http.Method → Option PersonAction
  | .post => some .create
  | .put => some .update
  | .patch => some .restricted
  | .get | .head | .other _ => none

/-- The role without which the action is refused. -/
def requiredRole : PersonAction → Role
  | .create => .admin
  | .update => .user
  | .restricted => .superuser

def label : PersonAction → String
  | .create => "Create Person"
  | .update => "Update Person"
  | .restricted => "Not permitted Route"

/-- The word that stands for the action in markup and commands. -/
def key : PersonAction → String
  | .create => "create"
  | .update => "update"
  | .restricted => "patch"

theorem ofMethod?_eq_some_iff {method : Http.Method} {action : PersonAction} :
    ofMethod? method = some action ↔ method = action.method := by
  cases method <;> cases action <;> simp [ofMethod?, PersonAction.method]

end PersonAction
end PersonGate
