import ProxyTunnel.Text.Numeral
import ProxyTunnel.Toml.Blank

/-!
# Texts in TOML

Texts stand in double quotes, with escapes, or in single quotes, as they are; in three quotes of
either kind they may take more than one line. Each reader starts behind the opening quotes and gives
the text and what follows the closing ones.
-/

namespace ProxyTunnel.Toml

open Text

/-- Where a reader of escapes stands. -/
inductive EscapeState where
  /-- In no escape. -/
  | plain
  /-- Behind a backslash. -/
  | escape
  /-- In the number of a character, which has `left` more digits. -/
  | code (left : Nat) (value : Nat)
  /-- In the blanks behind a backslash at the end of a line; `isPast` if the line has ended. -/
  | gap (isPast : Bool)
  deriving DecidableEq, Repr

/-- The character that a letter behind a backslash stands for. -/
def escaped? (c : Char) : Option Char :=
  match c with
  | 'b' => some '\x08'
  | 't' => some '\t'
  | 'n' => some '\n'
  | 'f' => some '\x0C'
  | 'r' => some '\r'
  | 'e' => some '\x1B'
  | '"' => some '"'
  | '\\' => some '\\'
  | _ => none

/-- How many digits a number of a character has, by the letter in front of it. -/
def codeLength? (c : Char) : Option Nat :=
  match c with
  | 'x' => some 2
  | 'u' => some 4
  | 'U' => some 8
  | _ => none

/-- The character of a number. -/
def charOfCode? (n : Nat) : Option Char := if n.isValidChar then some (Char.ofNat n) else none

/-- A character in front of a text that was read. -/
def consChar (c : Char) (r : List Char × List Char) : List Char × List Char := (c :: r.1, r.2)

/-- Reads a text in double quotes. -/
def readBasic (state : EscapeState) : List Char → Option (List Char × List Char)
  | [] => none
  | c :: s =>
    match state with
    | .plain =>
      if c = '"' then some ([], s)
      else if c = '\\' then readBasic .escape s
      else if isControl c then none
      else (readBasic .plain s).map (consChar c)
    | .escape =>
      match escaped? c, codeLength? c with
      | some e, _ => (readBasic .plain s).map (consChar e)
      | none, some n => readBasic (.code n 0) s
      | none, none => none
    | .code left value => do
      let value := 16 * value + (← Numeral.digit? 16 c)
      if left ≤ 1 then
        let e ← charOfCode? value
        (readBasic .plain s).map (consChar e)
      else readBasic (.code (left - 1) value) s
    | .gap _ => none

/-- Reads a text in single quotes. -/
def readLiteral : List Char → Option (List Char × List Char)
  | [] => none
  | c :: s =>
    if c = '\'' then some ([], s)
    else if isControl c then none
    else (readLiteral s).map (consChar c)

/-- The end of a text in three quotes; up to two more quotes belong to the text. -/
def closing? (quote : Char) (s : List Char) : Option (List Char × List Char) :=
  let n := (s.takeWhile (· = quote)).length
  if n < 3 then none else some (List.replicate (min n 5 - 3) quote, s.drop (min n 5))

/-- Reads a text in three double quotes. -/
def readLongBasic (state : EscapeState) (s : List Char) : Option (List Char × List Char) :=
  match s with
  | [] => none
  | c :: t =>
    match state with
    | .plain =>
      match closing? '"' (c :: t) with
      | some r => some r
      | none =>
        if c = '\\' then readLongBasic .escape t
        else if c = '\n' ∨ (c = '\r' ∧ t.head? = some '\n') then
          (readLongBasic .plain t).map (consChar c)
        else if isControl c then none
        else (readLongBasic .plain t).map (consChar c)
    | .escape =>
      if isSpace c ∨ c = '\n' ∨ c = '\r' then readLongBasic (.gap false) (c :: t)
      else
        match escaped? c, codeLength? c with
        | some e, _ => (readLongBasic .plain t).map (consChar e)
        | none, some n => readLongBasic (.code n 0) t
        | none, none => none
    | .code left value => do
      let value := 16 * value + (← Numeral.digit? 16 c)
      if left ≤ 1 then
        let e ← charOfCode? value
        (readLongBasic .plain t).map (consChar e)
      else readLongBasic (.code (left - 1) value) t
    | .gap isPast =>
      if isSpace c then readLongBasic (.gap isPast) t
      else if c = '\n' then readLongBasic (.gap true) t
      else if c = '\r' ∧ t.head? = some '\n' then readLongBasic (.gap isPast) t
      else if isPast then readLongBasic .plain (c :: t)
      else none
termination_by (s.length, match state with | .plain => 0 | .gap _ => 1 | .code _ _ => 0 | .escape => 2)

/-- Reads a text in three single quotes. -/
def readLongLiteral : List Char → Option (List Char × List Char)
  | [] => none
  | c :: s =>
    match closing? '\'' (c :: s) with
    | some r => some r
    | none =>
      if c = '\n' ∨ (c = '\r' ∧ s.head? = some '\n') ∨ !isControl c then
        (readLongLiteral s).map (consChar c)
      else none

/-- A text without an end of line at its start. -/
def dropNewline (s : List Char) : List Char := (skipNewline? s).getD s

/-- Reads a text in any quotes, with its opening quotes. -/
def readText? (s : List Char) : Option (List Char × List Char) :=
  match s with
  | '"' :: '"' :: '"' :: s => readLongBasic .plain (dropNewline s)
  | '"' :: s => readBasic .plain s
  | '\'' :: '\'' :: '\'' :: s => readLongLiteral (dropNewline s)
  | '\'' :: s => readLiteral s
  | _ => none

/-- Whether a character may stand in a key without quotes. -/
def isBareKeyChar (c : Char) : Bool := c.isAlphanum || c = '_' || c = '-'

/-- Reads one part of a key; in quotes it must stay on one line. -/
def readKeyPart? (s : List Char) : Option (String × List Char) :=
  match s with
  | '"' :: s => (readBasic .plain s).map fun r => (String.ofList r.1, r.2)
  | '\'' :: s => (readLiteral s).map fun r => (String.ofList r.1, r.2)
  | _ =>
    let key := s.takeWhile isBareKeyChar
    if key = [] then none else some (String.ofList key, s.dropWhile isBareKeyChar)

/-- Reads a key: parts with dots between them. `fuel` bounds their number. -/
def readKey? : (fuel : Nat) → List Char → Option (List String × List Char)
  | 0, _ => none
  | fuel + 1, s => do
    let (part, s) ← readKeyPart? (skipSpaces s)
    match skipSpaces s with
    | '.' :: s => do
      let (parts, s) ← readKey? fuel s
      some (part :: parts, s)
    | s => some ([part], s)

end ProxyTunnel.Toml
