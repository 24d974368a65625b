import PersonGate.Duration
import PersonGate.Text.Blank
/-!
# Settings of a client

A client needs the address of the service, without slashes at its end, the wait before a request
goes out, and a limit on the time of one request. A limit of zero is no limit.
-/
namespace PersonGate

structure ClientConfig where
  /-- The service's address without trailing slashes. -/
  baseUrl : Text
  /-- The wait between a trigger and its request. -/
  actionDelay : Duration
  /-- The time that one request may take, if there is a limit. -/
  requestTimeout : Option Duration
  deriving DecidableEq, Repr

namespace ClientConfig

def defaultBaseUrl : String := "http://localhost:9003"

def defaultDelayMs : Nat := 3000

/-- The path of the person resource below the service's address. -/
def personPath : Text := ['/', 'p', 'e', 'r', 's', 'o', 'n']

/-- A client of the service at an address, with the default wait and no limit. -/
def new (baseUrl : Text) : ClientConfig where
  baseUrl := Text.dropEnd (· == '/') baseUrl
  actionDelay := .ofMilliseconds defaultDelayMs
  requestTimeout := none

/-- A client of the service at its default address. -/
def standard : ClientConfig := new defaultBaseUrl.toList

def withActionDelay (config : ClientConfig) (delay : Duration) : ClientConfig :=
  { config with actionDelay := delay }

/-- The same client with another limit; zero takes the limit away. -/
def withRequestTimeout (config : ClientConfig) (timeout : Option Duration) : ClientConfig :=
  { config with requestTimeout := timeout.filter fun limit => !limit.isZero }

/-- The address of the person resource. -/
def personUrl (config : ClientConfig) : Text := config.baseUrl ++ personPath

end ClientConfig
end PersonGate
