import ProxyTunnel.Program.Arguments
import ProxyTunnel.Proxy.Link

/-!
# The command line

The commands of the program: showing the version, writing completions for a shell, and connecting to
a target. The proxy server may also come from the environment.
-/

namespace ProxyTunnel

open Arguments Text

/-- The shells that completions can be written for. -/
inductive Shell where
  | bash
  | elvish
  | fish
  | powershell
  | zsh
  deriving DecidableEq, Repr

namespace Shell

/-- The name of a shell. -/
def name : Shell → String
  | .bash => "bash"
  | .elvish => "elvish"
  | .fish => "fish"
  | .powershell => "powershell"
  | .zsh => "zsh"

/-- The shell of a name. -/
def ofName? (name : String) : Option Shell :=
  [bash, elvish, fish, powershell, zsh].find? fun shell => shell.name = name

end Shell

/-- What the user asks for when connecting. -/
structure ConnectArguments where
  proxy : Option Proxy
  /-- The name of the configuration file. -/
  config : Option String
  /-- How long connecting may take, in seconds. -/
  timeout : Option Nat
  target : Endpoint
  deriving DecidableEq, Repr

/-- What the program is to do. -/
inductive Command where
  | version
  | completions (shell : Shell)
  | connect (arguments : ConnectArguments)
  deriving DecidableEq, Repr

namespace Command

/-- Puts a value where none is yet. -/
def fillOnce {α : Type} (old : Option α) (read : String → Except UsageError α) (value : String) :
    Except UsageError (Option α) :=
  if old.isSome then .error .argumentConflict else (read value).map some

/-- A value that can be read, or a fault in it. -/
def valid {α : Type} : Option α → Except UsageError α
  | some a => .ok a
  | none => .error .valueValidation

/-- Reads a proxy server. -/
def readProxy (s : String) : Except UsageError Proxy := valid (Proxy.parse s).toOption

/-- The arguments of the command that connects. -/
inductive ConnectSlot where
  | proxy
  | config
  | timeout
  | target
  deriving DecidableEq, Repr

/-- The arguments of the command that connects, as far as they are known. -/
structure ConnectDraft where
  proxy : Option Proxy := none
  config : Option String := none
  timeout : Option Nat := none
  target : Option Endpoint := none

/-- What the command that connects takes. -/
def connectGrammar : Grammar ConnectSlot ConnectDraft where
  long? name :=
    if name = "proxy".toList then some .proxy
    else if name = "config".toList then some .config
    else if name = "timeout".toList then some .timeout
    else none
  short? c :=
    match c with
    | 'x' => some .proxy
    | 'c' => some .config
    | 't' => some .timeout
    | _ => none
  positional? := some .target
  fill slot value d :=
    match slot with
    | .proxy => do pure { d with proxy := ← fillOnce d.proxy readProxy value }
    | .config => do
      let read := fun s => if s = "" then .error .invalidValue else .ok s
      pure { d with config := ← fillOnce d.config read value }
    | .timeout => do
      let read := fun s : String => valid (Numeral.unsigned? (UInt64.size - 1) s.toList)
      pure { d with timeout := ← fillOnce d.timeout read value }
    | .target => do
      let read := fun s => valid (Endpoint.parse s).toOption
      pure { d with target := ← fillOnce d.target read value }

/-- The command that connects. A proxy server from the environment counts if the words name none,
and a configuration file goes with neither. -/
def parseConnect (environmentProxy : Option String) (words : List String) :
    Except UsageError Command := do
  let d ← connectGrammar.scan {} words
  let proxy ← match d.proxy with
    | some proxy => pure (some proxy)
    | none => environmentProxy.mapM readProxy
  if proxy.isSome && d.config.isSome then .error .argumentConflict
  else match d.target with
    | some target => pure (.connect ⟨proxy, d.config, d.timeout, target⟩)
    | none => .error .missingRequiredArgument

/-- What the command for completions takes. -/
def completionsGrammar : Grammar Unit (Option Shell) where
  long? _ := none
  short? _ := none
  positional? := some ()
  fill _ value d :=
    fillOnce d (fun s => match Shell.ofName? s with
      | some shell => .ok shell
      | none => .error .invalidValue) value

/-- The command that writes completions. -/
def parseCompletions (words : List String) : Except UsageError Command := do
  match ← completionsGrammar.scan none words with
  | some shell => pure (.completions shell)
  | none => .error .missingRequiredArgument

/-- What the command for the version takes: nothing. -/
def versionGrammar : Grammar Empty Unit where
  long? _ := none
  short? _ := none
  positional? := none
  fill slot _ _ := nomatch slot

/-- The command that shows the version. -/
def parseVersion (words : List String) : Except UsageError Command :=
  (versionGrammar.scan () words).map fun _ => .version

/-- The names of the commands. -/
def names : List String := ["version", "completions", "connect", "help"]

/-- The command that shows help: for a command, or for all of them. -/
def parseHelp : List String → Except UsageError Command
  | [] => .error .displayHelp
  | [name] => .error (if name ∈ names then .displayHelp else .invalidSubcommand)
  | _ => .error .invalidSubcommand

/-- A word where the name of a command is to be, but is none. -/
def parseFlag (word : List Char) : UsageError :=
  match word with
  | '-' :: '-' :: name =>
    let flag := name.takeWhile (· ≠ '=')
    let isBare := flag = name
    if flag = "help".toList then if isBare then .displayHelp else .tooManyValues
    else if flag = "version".toList then if isBare then .displayVersion else .tooManyValues
    else .unknownArgument
  | ['-', 'h'] | '-' :: 'h' :: _ => .displayHelp
  | '-' :: 'V' :: _ => .displayVersion
  | '-' :: _ :: _ => .unknownArgument
  | _ => .invalidSubcommand

/-- The words of a command line as a command. -/
def parse (environmentProxy : Option String) : List String → Except UsageError Command
  | [] => .error .missingArguments
  | "version" :: words => parseVersion words
  | "completions" :: words => parseCompletions words
  | "connect" :: words => parseConnect environmentProxy words
  | "help" :: words => parseHelp words
  | ["--"] => .error .missingArguments
  | "--" :: word :: _ => .error (if word ∈ names then .unknownArgument else .invalidSubcommand)
  | word :: _ => .error (parseFlag word.toList)

end Command

end ProxyTunnel
