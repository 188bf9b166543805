import ProxyTunnel.Program.Run
import Std.Async.DNS
import Std.Async.TCP
import Std.Async.Timer

/-!
# The program

The program on a real network: `main` reads the command line, dials the proxy server, runs the
handshake on the connection, and copies the standard input into the tunnel and the tunnel to the
standard output. All decisions are those of the modules it imports. It has no TLS of its own, so a
tunnel through an HTTPS proxy ends with an error.
-/

namespace ProxyTunnel.Live

open Std.Async

/-- The number of a system error, which may come with its sign turned. -/
def errorNumber (code : UInt32) : Nat :=
  if code < 0x80000000 then code.toNat else (-code).toNat

/-- The number of the system error behind an error, if there is one. -/
def numberOf? : IO.Error → Option Nat
  | .alreadyExists _ code _ | .otherError code _ | .resourceBusy code _ | .resourceVanished code _
  | .unsupportedOperation code _ | .hardwareFault code _ | .unsatisfiedConstraints code _
  | .illegalOperation code _ | .protocolError code _ | .timeExpired code _ | .interrupted _ code _
  | .noFileOrDirectory _ code _ | .invalidArgument _ code _ | .permissionDenied _ code _
  | .resourceExhausted _ code _ | .inappropriateType _ code _ | .noSuchThing _ code _ =>
    some (errorNumber code)
  | .unexpectedEof | .userError _ => none

/-- The commonest errors of files, names and connections in words. -/
def systemText? (number : Nat) : Option String :=
  match number with
  | 2 => some "No such file or directory"
  | 13 => some "Permission denied"
  | 21 => some "Is a directory"
  | 32 => some "Broken pipe"
  | 101 => some "Network is unreachable"
  | 104 => some "Connection reset by peer"
  | 110 => some "Connection timed out"
  | 111 => some "Connection refused"
  | 113 => some "No route to host"
  | _ => none

/-- The faults of the lookup of names in words. -/
def lookupText? (number : Nat) : Option String :=
  match number with
  | 3001 => some "Temporary failure in name resolution"
  | 3008 => some "Name or service not known"
  | _ => none

/-- A fault of the system in its words. -/
def faultOf (e : IO.Error) : Fault :=
  match numberOf? e with
  | none => .system e.toString
  | some number =>
    match systemText? number, lookupText? number with
    | some text, _ => .system s!"{text} (os error {number})"
    | none, some text => .system s!"failed to lookup address information: {text}"
    | none, none => .system e.toString

/-- An action; what goes wrong in it is a fault. -/
def attempt {α : Type} (action : Async α) : Async (Except Fault α) := do
  try
    let a ← action
    pure (Except.ok a)
  catch e => pure (Except.error (faultOf e))

/-- The text of a file. -/
def readText (name : String) : IO (Except Fault String) := do
  try
    match String.fromUTF8? (← IO.FS.readBinFile name) with
    | some text => pure (Except.ok text)
    | none => pure (Except.error (.system "stream did not contain valid UTF-8"))
  catch e => pure (Except.error (faultOf e))

/-- A connection to a proxy server. -/
abbrev Connection := TCP.Socket.Client

/-- Reads exactly `n` bytes; none if there are no more. Each read gives at least one, so `fuel` need
not be larger. -/
def receive (c : Connection) : (fuel : Nat) → (n : Nat) → Async (Option Bytes)
  | 0, _ => pure (some [])
  | fuel + 1, n => do
    if n = 0 then pure (some [])
    else match ← c.recv? n.toUInt64 with
      | none => pure none
      | some piece => do
        let rest ← receive c fuel (n - piece.size)
        pure (rest.map (piece.toList ++ ·))

/-- Runs a conversation. What is written waits in `pending` until it is flushed. -/
def converse {ε α : Type} (c : Connection) (pending : Bytes) :
    Conversation ε α → Async (Except ε α)
  | .done a => pure (.ok a)
  | .fail e => pure (.error e)
  | .write m _ next => converse c (pending ++ m) next
  | .flush f next => do
    match ← attempt (c.send ⟨pending.toArray⟩) with
    | .error fault => pure (.error (f fault))
    | .ok () => converse c [] next
  | .receive n atEnd f next => do
    match ← attempt (receive c n n) with
    | .error fault => pure (.error (f fault))
    | .ok none => pure (.error (f atEnd))
    | .ok (some bs) =>
      if h : bs.length = n then converse c pending (next ⟨bs.toArray, h⟩)
      else pure (.error (f atEnd))

/-- An address as the network takes it. -/
def networkAddress (ip : IpAddress) (port : UInt16) : Std.Net.SocketAddress :=
  match ip with
  | .v4 ip => .v4 ⟨⟨#v[ip.a, ip.b, ip.c, ip.d]⟩, port⟩
  | .v6 ip => .v6 ⟨⟨⟨ip.groups.toArray, ip.length_eq⟩⟩, port⟩

/-- The addresses of a server; the network knows those of a name. -/
def addressesOf (server : Endpoint) : Async (List Std.Net.SocketAddress) := do
  match server.normalize with
  | .socket address => pure [networkAddress address.ip address.port]
  | .domain name port =>
    let found ← DNS.getAddrInfo name (toString port)
    pure (found.toList.map fun
      | .v4 ip => .v4 ⟨ip, port⟩
      | .v6 ip => .v6 ⟨ip, port⟩)

/-- Connects to an address. -/
def dialAddress (address : Std.Net.SocketAddress) : Async Connection := do
  let socket ← TCP.Socket.Client.mk
  socket.connect address
  pure socket

/-- Connects to the first of the addresses that answers; `fault` is why the one before did not. -/
def dialFirst (fault : Fault) : List Std.Net.SocketAddress → Async (Except Fault Connection)
  | [] => pure (.error fault)
  | address :: addresses => do
    match ← attempt (dialAddress address) with
    | .ok c => pure (.ok c)
    | .error fault => dialFirst fault addresses

/-- Connects to a server. -/
def dial (server : Endpoint) : Async (Except Fault Connection) := do
  match ← attempt (addressesOf server) with
  | .ok addresses => dialFirst (.system "could not resolve to any address") addresses
  | .error fault => pure (.error fault)

/-- What a proxy asks for in front of the handshake. -/
def layerOf (proxy : Proxy) : Except ClientError Unit :=
  match proxy with
  | .https server _ _ _ => do
    let _ ← Proxy.serverName server
    .error (.establishTls server (.system "TLS is not supported"))
  | _ => .ok ()

/-- Opens a tunnel to the target. -/
def establish (proxy : Proxy) (target : Endpoint) : Async (Except ClientError Connection) := do
  match ← dial proxy.server with
  | .error fault => pure (.error (.connectServer proxy.server fault))
  | .ok c =>
    match layerOf proxy with
    | .error e => pure (.error e)
    | .ok () =>
      match ← converse c [] (proxy.handshake target) with
      | .error e => pure (.error (.handshake proxy.protocol proxy.server e))
      | .ok () => pure (.ok c)

/-- The longest time limit that a timer takes, in milliseconds. -/
def longestTimer : Nat := 1000000000000

/-- Opens a tunnel to the target within the time limit. -/
def establishInTime (options : ConnectOptions) (target : Endpoint) :
    IO (Except ProgramError Connection) := do
  let limit := Std.Time.Millisecond.Offset.ofNat (min (1000 * options.timeout) longestTimer)
  let attempt ← (establish options.proxy target).asTask
  let timer ← (sleep limit).asTask
  let first : Option (Except IO.Error (Except ClientError Connection)) ←
    IO.waitAny [attempt.run.map some, timer.run.map fun _ => none]
  match first with
  | some (.ok (.ok c)) => pure (.ok c)
  | some (.ok (.error e)) => pure (.error (.connect target e))
  | some (.error e) => pure (.error (.connect target (.connectServer options.proxy.server (faultOf e))))
  | none => pure (.error (.connectTimeout target options.timeout))

/-- Copies the standard input into the tunnel. Its end ends the tunnel's writing direction. -/
partial def copyInput (c : Connection) (input : IO.FS.Stream) : IO Unit := do
  let piece ← input.read relayBufferSize.toUSize
  if piece.isEmpty then c.shutdown.block
  else
    (c.send piece).block
    copyInput c input

/-- Copies the tunnel to the standard output. -/
partial def copyOutput (c : Connection) (output : IO.FS.Stream) : IO Unit := do
  match ← (c.recv? relayBufferSize.toUInt64).block with
  | none => output.flush
  | some piece =>
    output.write piece
    output.flush
    copyOutput c output

/-- Relays until the other end of the tunnel closes, or something fails. A read of the standard
input that is under way then is still waited for when the program ends. -/
def relay (c : Connection) : IO (Except Fault Unit) := do
  let up ← IO.asTask (copyInput c (← IO.getStdin)) .dedicated
  let down ← IO.asTask (copyOutput c (← IO.getStdout)) .dedicated
  match ← IO.waitAny [down.map Sum.inl, up.map Sum.inr] with
  | .inl r => pure (r.mapError faultOf)
  | .inr (.error e) => pure (.error (faultOf e))
  | .inr (.ok ()) => pure ((← IO.wait down).mapError faultOf)

/-- Connects and relays. -/
def connect (a : ConnectArguments) : IO Ending := do
  let text ← match a.config with
    | some name => readText name
    | none => pure (.ok "")
  match Program.options (fun _ => text) a with
  | .error e => pure (Program.failed e)
  | .ok options =>
    match ← establishInTime options a.target with
    | .error e => pure (Program.failed e)
    | .ok c =>
      match ← relay c with
      | .ok () => pure { exitCode := 0 }
      | .error fault => pure (Program.failed (.relay a.target fault))

/-- How the program is called. -/
def usage : String :=
  "Open tunnels through proxy servers\n\n" ++
  "Usage: tunelo-client version\n" ++
  "       tunelo-client completions <SHELL>\n" ++
  "       tunelo-client connect [-x|--proxy <URL>] [-c|--config <FILE>] [-t|--timeout <SECONDS>] <TARGET>\n" ++
  "       tunelo-client help [COMMAND]\n"

/-- Runs the program with the words of a command line. -/
def run (environmentProxy : Option String) (words : List String) : IO Ending := do
  match Command.parse environmentProxy words with
  | .error .displayHelp => pure { exitCode := 0, output := usage }
  | .error e =>
    let ending := Program.refused e
    pure { ending with message := if ending.exitCode = 0 then none else some usage }
  | .ok .version => pure { exitCode := 0, output := Program.versionLine }
  | .ok (.completions shell) => pure { exitCode := 0, output := shell.script }
  | .ok (.connect a) => connect a

end ProxyTunnel.Live

/-- The program. -/
def main (words : List String) : IO UInt32 := do
  let ending ← ProxyTunnel.Live.run (← IO.getEnv "TUNELO_PROXY") words
  IO.print ending.output
  if let some message := ending.message then IO.eprintln message
  pure ending.exitCode.toUInt32
