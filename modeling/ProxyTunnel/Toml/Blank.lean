/-!
# Blanks in TOML

What may stand between the parts of a TOML text: spaces and tabs, ends of lines, and comments. A
carriage return counts only before a line feed; other control characters have no place anywhere.
-/

namespace ProxyTunnel.Toml

/-- Spaces and tabs. -/
def isSpace (c : Char) : Bool := c = ' ' || c = '\t'

/-- The control characters, all but the tab. -/
def isControl (c : Char) : Bool := (c.toNat < 32 && c != '\t') || c.toNat = 127

/-- The text behind spaces and tabs. -/
def skipSpaces (s : List Char) : List Char := s.dropWhile isSpace

/-- The text behind an end of line. -/
def skipNewline? : List Char → Option (List Char)
  | '\n' :: s => some s
  | '\r' :: '\n' :: s => some s
  | _ => none

/-- The text behind the rest of a comment, in front of the end of its line. -/
def skipComment? : List Char → Option (List Char)
  | [] => some []
  | '\n' :: s => some ('\n' :: s)
  | '\r' :: '\n' :: s => some ('\r' :: '\n' :: s)
  | c :: s => if isControl c then none else skipComment? s

/-- The text behind all blanks, comments and ends of lines; `isComment` if it starts in a
comment. -/
def skipBlanks? (isComment : Bool) : List Char → Option (List Char)
  | [] => some []
  | '\n' :: s => skipBlanks? false s
  | '\r' :: '\n' :: s => skipBlanks? false s
  | c :: s =>
    if isComment then if isControl c then none else skipBlanks? true s
    else if isSpace c then skipBlanks? false s
    else if c = '#' then skipBlanks? true s
    else some (c :: s)

/-- The text behind the rest of a line on which nothing but a comment is left. -/
def skipLine? (s : List Char) : Option (List Char) :=
  match skipSpaces s with
  | [] => some []
  | '#' :: s => do
    match ← skipComment? s with
    | [] => some []
    | s => skipNewline? s
  | s => skipNewline? s

end ProxyTunnel.Toml
