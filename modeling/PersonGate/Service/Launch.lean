import PersonGate.Service.Handler
import PersonGate.Config.Service
import PersonGate.Text.Hex
/-!
# Starting the service

The service starts with the grants of its configuration. Without any it makes up two tokens from
random bytes, one for an administrator and one for a plain user, so its table is never empty. It
does not start if its port is taken.
-/
namespace PersonGate

/-- Why the service does not run. -/
inductive LaunchError where
  /-- The port could not be opened. -/
  | listener (reason : Text)
  deriving DecidableEq, Repr

def LaunchError.listenerStart : String := "listener failed: "

def LaunchError.message : LaunchError → Text
  | .listener reason => listenerStart.toList ++ reason

namespace Service

/-- The number of random bytes in a token that the service makes up. -/
def demoTokenBytes : Nat := 32

/-- The token made of random bytes. -/
def demoToken (random : List UInt8) : Text := Text.encodeHex random

/-- The grants that the service makes up: an administrator's, who is a user too, and a user's. -/
def demoGrants (adminBytes userBytes : List UInt8) : List Grant := [
  ⟨demoToken adminBytes, [Role.admin.name.toList, Role.user.name.toList]⟩,
  ⟨demoToken userBytes, [Role.user.name.toList]⟩]

/-- The grants that a service with this configuration honours. -/
def effectiveGrants (config : ServiceConfig) (adminBytes userBytes : List UInt8) : List Grant :=
  if config.grants = [] then demoGrants adminBytes userBytes else config.grants

/-- Can a port be opened? If not, why. -/
abbrev PortCheck := Fin 65536 → Option Text

/-- The service that a configuration starts. -/
def launch (config : ServiceConfig) (ports : PortCheck) (adminBytes userBytes : List UInt8) :
    Except LaunchError Service :=
  match ports config.port with
  | some reason => .error (.listener reason)
  | none => .ok (.ofGrants (effectiveGrants config adminBytes userBytes))

end Service
end PersonGate
