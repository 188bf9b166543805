/-!
# Scanning arguments

The words of a command line: options with a value, in their long and short forms, a flag for help,
and at most one positional argument. A value may be attached to its option or be the next word;
words behind `--` are positional. A value is filled in as soon as the next option or positional
argument shows that it is complete, so of two faults the one further to the left is reported.
-/

namespace ProxyTunnel.Arguments

/-- Why a command line is no command. -/
inductive UsageError where
  | displayHelp
  | displayVersion
  | missingArguments
  | invalidSubcommand
  | unknownArgument
  | invalidValue
  | valueValidation
  | argumentConflict
  | missingRequiredArgument
  | tooManyValues
  deriving DecidableEq, Repr

/-- The exit code of the program: asking for help or for the version is no error. -/
def UsageError.exitCode : UsageError → UInt8
  | .displayHelp | .displayVersion => 0
  | _ => 2

/-- What a command takes: options that fill slots of a draft, and one positional argument. -/
structure Grammar (κ δ : Type) where
  long? : List Char → Option κ
  short? : Char → Option κ
  positional? : Option κ
  fill : κ → String → δ → Except UsageError δ

/-- A slot whose value is not filled in yet; without value if that is still to come. -/
structure Pending (κ : Type) where
  slot : κ
  value : Option String

/-- How far the scan got. -/
structure Scan (κ δ : Type) where
  draft : δ
  pending : Option (Pending κ) := none
  /-- Whether the positional argument was met. -/
  hasPositional : Bool := false
  /-- Whether `--` was met. -/
  isTrailing : Bool := false

variable {κ δ : Type}

namespace Scan

/-- Fills in the pending value. -/
def settle (g : Grammar κ δ) (s : Scan κ δ) : Except UsageError (Scan κ δ) :=
  match s.pending with
  | none => .ok s
  | some ⟨_, none⟩ => .error .invalidValue
  | some ⟨slot, some value⟩ => (g.fill slot value s.draft).map ({ s with draft := ·, pending := none })

/-- Fills in the pending value and waits for one for another slot. -/
def await (g : Grammar κ δ) (slot : κ) (s : Scan κ δ) :
    Except UsageError (Scan κ δ) := do
  let s ← s.settle g
  pure { s with pending := some ⟨slot, none⟩ }

/-- Fills in the pending value and one more. -/
def attach (g : Grammar κ δ) (slot : κ) (value : List Char) (s : Scan κ δ) :
    Except UsageError (Scan κ δ) := do
  let s ← s.settle g
  pure { s with draft := ← g.fill slot (String.ofList value) s.draft }

/-- Fills in the pending value and shows help. -/
def help (g : Grammar κ δ) (s : Scan κ δ) : Except UsageError (Scan κ δ) := do
  let _ ← s.settle g
  .error .displayHelp

/-- A word that is no option. -/
def positional (g : Grammar κ δ) (word : String) (s : Scan κ δ) :
    Except UsageError (Scan κ δ) :=
  match g.positional? with
  | some slot =>
    if s.hasPositional then .error .unknownArgument
    else do
      let s ← s.settle g
      pure { s with pending := some ⟨slot, some word⟩, hasPositional := true }
  | none => .error .unknownArgument

/-- A word behind two dashes. -/
def long (g : Grammar κ δ) (word : List Char) (s : Scan κ δ) :
    Except UsageError (Scan κ δ) :=
  let name := word.takeWhile (· ≠ '=')
  let value? := (word.dropWhile (· ≠ '=')).tail?
  match g.long? name, value? with
  | some slot, some value => s.attach g slot value
  | some slot, none => s.await g slot
  | none, value? =>
    if name = "help".toList then
      if value?.isSome then .error .tooManyValues else s.help g
    else .error .unknownArgument

/-- A word behind one dash: the first character is the option. -/
def short (g : Grammar κ δ) (option : Char) (rest : List Char) (s : Scan κ δ) :
    Except UsageError (Scan κ δ) :=
  match g.short? option, rest with
  | some slot, [] => s.await g slot
  | some slot, '=' :: value => s.attach g slot value
  | some slot, value => s.attach g slot value
  | none, _ => if option = 'h' then s.help g else .error .unknownArgument

/-- A word that is no option: the value that was still to come, or a positional argument. -/
def plain (g : Grammar κ δ) (word : String) (s : Scan κ δ) :
    Except UsageError (Scan κ δ) :=
  match s.pending with
  | some ⟨slot, none⟩ => .ok { s with pending := some ⟨slot, some word⟩ }
  | _ => s.positional g word

/-- One word. -/
def word (g : Grammar κ δ) (s : Scan κ δ) (word : String) :
    Except UsageError (Scan κ δ) :=
  if s.isTrailing then s.positional g word
  else match word.toList with
    | ['-', '-'] => .ok { s with isTrailing := true }
    | '-' :: '-' :: name => s.long g name
    | '-' :: option :: rest => s.short g option rest
    | _ => s.plain g word

end Scan

/-- Fills a draft from the words of a command line. -/
def Grammar.scan (g : Grammar κ δ) (empty : δ) (words : List String) :
    Except UsageError δ := do
  let s ← words.foldlM (Scan.word g) { draft := empty }
  pure (← s.settle g).draft

end ProxyTunnel.Arguments
