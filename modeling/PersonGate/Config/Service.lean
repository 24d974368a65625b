import PersonGate.Config.Grant
import PersonGate.System.Environment
import PersonGate.Text.Decimal
/-!
# Settings of the person service

The service reads its port and its grants from two settings. The port may have blanks around it and
a leading plus sign; an unset port is 9003, unset grants are none. A bad port is reported before bad
grants.
-/
namespace PersonGate

structure ServiceConfig where
  port : Fin 65536
  /-- The accepted tokens; with none the service makes up its own. -/
  grants : List Grant
  deriving DecidableEq, Repr

namespace ServiceConfig

/-- The setting that holds the port. -/
def portKey : String := "AAS_PORT"

def defaultPort : Fin 65536 := ⟨9003, by decide⟩

/-- The port that a setting gives. -/
def readPort : Option Text → Except ConfigError (Fin 65536)
  | none => .ok defaultPort
  | some raw =>
    match Text.unsigned? 65536 (Text.trim raw) with
    | some port => .ok port
    | none => .error ⟨portKey, raw⟩

/-- The grants that a setting gives. -/
def readGrants : Option Text → Except ConfigError (List Grant)
  | none => .ok []
  | some raw => Grant.parse raw

/-- The configuration that a look-up of settings gives. -/
def ofLookup (lookup : Text → Option Text) : Except ConfigError ServiceConfig :=
  match readPort (lookup portKey.toList) with
  | .error e => .error e
  | .ok port =>
    match readGrants (lookup Grant.settingKey.toList) with
    | .error e => .error e
    | .ok grants => .ok ⟨port, grants⟩

/-- The configuration in environment variables. -/
def ofEnvironment (env : Environment) : Except ConfigError ServiceConfig := ofLookup env.var?

end ServiceConfig
end PersonGate
