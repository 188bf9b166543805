import ProxyTunnel.Client.Connector
import ProxyTunnel.Client.Relay
import ProxyTunnel.Program.CommandLine
import ProxyTunnel.Program.Completions
import ProxyTunnel.Program.Options

/-!
# Runs of the program

What the program does once it is known how the world answers: a command line is parsed, the options
are resolved, the proxy server is reached or not, the tunnel is opened and relayed. A server that
never answers is given up after the time limit.
-/

namespace ProxyTunnel

open Arguments

/-- What the program ends with: its exit code, what it wrote to the standard output, and the message
for the user. -/
structure Ending where
  exitCode : UInt8
  output : String := ""
  message : Option String := none
  deriving DecidableEq, Repr

namespace Program

/-- The name and version of the program. -/
def versionLine : String := "tunelo-client 0.1.12\n"

/-- The end of a run with an error. -/
def failed (e : ProgramError) : Ending := { exitCode := 1, message := some e.message }

/-- The end of a run whose command line is no command. -/
def refused (e : UsageError) : Ending :=
  { exitCode := e.exitCode, output := if e = .displayVersion then versionLine else "" }

/-- The options of a connection, with the configuration file that the arguments name. -/
def options (fileText : String → Except Fault String) (a : ConnectArguments) :
    Except ProgramError ConnectOptions :=
  ConnectOptions.resolve a.proxy (a.config.map fun name => ⟨name, fileText name⟩) a.timeout

variable {σ ι ο : Type}

/-- Opens the tunnel on a stream to the proxy server, if there is one. -/
def establish [SessionCarrier σ] (options : ConnectOptions) (target : Endpoint)
    (dialed : Outcome Fault σ) : Except ProgramError (Tunnel σ) :=
  match dialed with
  | .error f => .error (.connect target (.connectServer options.proxy.server f))
  | .stalled => .error (.connectTimeout target options.timeout)
  | .ok s =>
    match connect options.proxy target ⟨s, []⟩ with
    | (.ok (), t) => .ok t
    | (.error e, _) => .error (.connect target e)
    | (.stalled, _) => .error (.connectTimeout target options.timeout)

/-- Connects and relays; `fuel` bounds the steps of the relay. -/
def serve [SessionCarrier σ] [Carrier ι] [Carrier ο] (fuel : Nat) (options : ConnectOptions)
    (target : Endpoint) (dialed : Outcome Fault σ) (input : ι) (output : ο) :
    Outcome ProgramError (Nat × Nat) :=
  match establish options target dialed with
  | .error e => .error e
  | .ok tunnel =>
    ((Relay.run fuel .up false { tunnel, input, output : Relay (Tunnel σ) ι ο }).1).mapError
      (.relay target)

/-- The world as a run of the program meets it. -/
structure World (σ ι ο : Type) where
  /-- The texts of files, or why they can not be read. -/
  fileText : String → Except Fault String
  /-- What comes of dialing the proxy server. -/
  dial : ConnectOptions → Outcome Fault σ
  input : ι
  output : ο
  /-- The proxy server that the environment names. -/
  environmentProxy : Option String := none

/-- Carries out a command. A run that comes to a standstill has no end; `fuel` bounds the steps of
the relay. -/
def perform [SessionCarrier σ] [Carrier ι] [Carrier ο] (fuel : Nat) (w : World σ ι ο)
    (command : Command) : Option Ending :=
  match command with
  | .version => some { exitCode := 0, output := versionLine }
  | .completions shell => some { exitCode := 0, output := shell.script }
  | .connect a =>
    match options w.fileText a with
    | .error e => some (failed e)
    | .ok o =>
      match serve fuel o a.target (w.dial o) w.input w.output with
      | .ok _ => some { exitCode := 0 }
      | .error e => some (failed e)
      | .stalled => none

/-- Runs the program with the words of a command line. -/
def run [SessionCarrier σ] [Carrier ι] [Carrier ο] (fuel : Nat) (w : World σ ι ο)
    (words : List String) : Option Ending :=
  match Command.parse w.environmentProxy words with
  | .error e => some (refused e)
  | .ok command => perform fuel w command

end Program

end ProxyTunnel
