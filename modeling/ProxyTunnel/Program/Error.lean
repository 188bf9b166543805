import ProxyTunnel.Client.Error

/-!
# Errors of the program

What the program reports before it ends with an error.
-/

namespace ProxyTunnel

/-- A number of seconds in words. -/
def durationText (seconds : Nat) : String :=
  if seconds = 0 then "0ns" else s!"{seconds}s"

inductive ProgramError where
  | readConfig (file : String) (fault : Fault)
  /-- The file is no TOML, or not a configuration. -/
  | deserializeConfig (file : String)
  | noProxyProvided
  | connect (target : Endpoint) (cause : ClientError)
  | connectTimeout (target : Endpoint) (seconds : Nat)
  | relay (target : Endpoint) (fault : Fault)
  deriving DecidableEq, Repr

namespace ProgramError

/-- The error in words. -/
def message : ProgramError → String
  | readConfig file fault => s!"Read configuration file {file}, error: {fault.message}"
  | deserializeConfig file => s!"Deserialize configuration file {file}"
  | noProxyProvided => "No proxy server is provided, use `--proxy` or `--config`"
  | connect target cause => s!"Could not connect to {target.display}, error: {cause.message}"
  | connectTimeout target seconds =>
    s!"Connecting to {target.display} timed out after {durationText seconds}"
  | relay target fault => s!"Could not relay data to {target.display}, error: {fault.message}"

end ProgramError

end ProxyTunnel
