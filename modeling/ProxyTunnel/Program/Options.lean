import ProxyTunnel.Program.Config
import ProxyTunnel.Program.Error

/-!
# Options of a connection

Which proxy to use and how long to wait, from the command line and the configuration file. The
command line goes before the file.
-/

namespace ProxyTunnel

/-- How long connecting may take if nothing is said, in seconds. -/
def defaultTimeout : Nat := 20

/-- A configuration file: its name, and its text if it can be read. -/
structure ConfigFile where
  name : String
  text : Except Fault String

namespace ConfigFile

/-- Reads the configuration in a file. -/
def load (file : ConfigFile) : Except ProgramError Config :=
  match file.text with
  | .error fault => .error (.readConfig file.name fault)
  | .ok text =>
    match Config.parse? text with
    | some config => .ok config
    | none => .error (.deserializeConfig file.name)

end ConfigFile

/-- Which proxy to use and how many seconds to wait. -/
structure ConnectOptions where
  proxy : Proxy
  timeout : Nat
  deriving DecidableEq, Repr

namespace ConnectOptions

/-- The options from the command line and the configuration. -/
def choose (proxy : Option Proxy) (config : Option Config) (timeout : Option Nat) :
    Except ProgramError ConnectOptions :=
  match proxy.or (config.map Config.proxy) with
  | none => .error .noProxyProvided
  | some proxy => .ok ⟨proxy, (timeout.or (config.bind Config.timeout)).getD defaultTimeout⟩

/-- The options from the command line and the configuration file. A file that can not be read is an
error even if nothing of it is needed. -/
def resolve (proxy : Option Proxy) (file : Option ConfigFile) (timeout : Option Nat) :
    Except ProgramError ConnectOptions := do
  let config ← file.mapM ConfigFile.load
  choose proxy config timeout

end ConnectOptions

end ProxyTunnel
