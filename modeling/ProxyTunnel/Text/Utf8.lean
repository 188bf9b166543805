/-!
# UTF-8

Texts as bytes and back. `pieces` cuts a byte string into characters, stretches that can start no
character, and a last stretch that ends inside a character. The strict decoder reports the first
piece that is no character, with its position; the lossy one writes the replacement character for
each such piece.
-/

namespace ProxyTunnel

/-- A string of bytes. -/
abbrev Bytes := List UInt8

namespace Text.Utf8

/-- The UTF-8 form of a row of characters. -/
def encodeChars (s : List Char) : Bytes := s.flatMap String.utf8EncodeChar

/-- The UTF-8 form of a text. -/
def encode (s : String) : Bytes := encodeChars s.toList

/-- A piece of a byte string. -/
inductive Piece where
  /-- A character, written in so many bytes. -/
  | char (c : Char) (size : Nat)
  /-- So many bytes that can start no character. -/
  | malformed (size : Nat)
  /-- So many bytes at the end of the string that a longer string might complete. -/
  | unfinished (size : Nat)
  deriving Repr, DecidableEq

/-- How many bytes a piece takes. -/
def Piece.size : Piece → Nat
  | .char _ n | .malformed n | .unfinished n => n

/-- Whether a byte continues a character. -/
def isContinuation (b : UInt8) : Bool := 0x80 ≤ b && b ≤ 0xBF

/-- Whether `b` may follow the first byte `a` of a character of three bytes: no short spelling, no
surrogate. -/
def isSecondOfThree (a b : UInt8) : Bool :=
  if a = 0xE0 then 0xA0 ≤ b && b ≤ 0xBF
  else if a = 0xED then 0x80 ≤ b && b ≤ 0x9F
  else isContinuation b

/-- Whether `b` may follow the first byte `a` of a character of four bytes: no short spelling,
nothing above U+10FFFF. -/
def isSecondOfFour (a b : UInt8) : Bool :=
  if a = 0xF0 then 0x90 ≤ b && b ≤ 0xBF
  else if a = 0xF4 then 0x80 ≤ b && b ≤ 0x8F
  else isContinuation b

/-- The six value bits of a continuation byte. -/
def payload (b : UInt8) : Nat := b.toNat % 64

/-- The character of two bytes. -/
def char2 (a b : UInt8) : Char := Char.ofNat (a.toNat % 32 * 64 + payload b)

/-- The character of three bytes. -/
def char3 (a b c : UInt8) : Char :=
  Char.ofNat ((a.toNat % 16 * 64 + payload b) * 64 + payload c)

/-- The character of four bytes. -/
def char4 (a b c d : UInt8) : Char :=
  Char.ofNat (((a.toNat % 8 * 64 + payload b) * 64 + payload c) * 64 + payload d)

/-- Cuts a byte string into pieces. -/
def pieces : Bytes → List Piece
  | [] => []
  | a :: s =>
    if a < 0x80 then .char (Char.ofNat a.toNat) 1 :: pieces s
    else if a < 0xC2 then .malformed 1 :: pieces s
    else if a < 0xE0 then
      match s with
      | [] => [.unfinished 1]
      | b :: t =>
        if isContinuation b then .char (char2 a b) 2 :: pieces t
        else .malformed 1 :: pieces (b :: t)
    else if a < 0xF0 then
      match s with
      | [] => [.unfinished 1]
      | b :: t =>
        if isSecondOfThree a b then
          match t with
          | [] => [.unfinished 2]
          | c :: u =>
            if isContinuation c then .char (char3 a b c) 3 :: pieces u
            else .malformed 2 :: pieces (c :: u)
        else .malformed 1 :: pieces (b :: t)
    else if a < 0xF5 then
      match s with
      | [] => [.unfinished 1]
      | b :: t =>
        if isSecondOfFour a b then
          match t with
          | [] => [.unfinished 2]
          | c :: u =>
            if isContinuation c then
              match u with
              | [] => [.unfinished 3]
              | d :: v =>
                if isContinuation d then .char (char4 a b c d) 4 :: pieces v
                else .malformed 3 :: pieces (d :: v)
            else .malformed 2 :: pieces (c :: u)
        else .malformed 1 :: pieces (b :: t)
    else .malformed 1 :: pieces s

/-- Why a byte string is no UTF-8, at which byte. -/
inductive Malformed where
  | invalid (bytes : Nat) (index : Nat)
  | incomplete (index : Nat)
  deriving Repr, DecidableEq

/-- The failure in words. -/
def Malformed.message : Malformed → String
  | .invalid bytes index => s!"invalid utf-8 sequence of {bytes} bytes from index {index}"
  | .incomplete index => s!"incomplete utf-8 byte sequence from index {index}"

/-- The characters of pieces that start at byte `index`, or the first fault. -/
def ofPieces (index : Nat) : List Piece → Except Malformed (List Char)
  | [] => .ok []
  | .char c n :: ps => (ofPieces (index + n) ps).map (c :: ·)
  | .malformed n :: _ => .error (.invalid n index)
  | .unfinished _ :: _ => .error (.incomplete index)

/-- Decodes a byte string, or reports its first fault. -/
def decode (s : Bytes) : Except Malformed String := (ofPieces 0 (pieces s)).map String.ofList

/-- The character that stands for bytes that could not be read. -/
def replacement : Char := Char.ofNat 0xFFFD

/-- The character of a piece, the replacement character where there is none. -/
def Piece.charLossy : Piece → Char
  | .char c _ => c
  | .malformed _ | .unfinished _ => replacement

/-- The text of a byte string, with one replacement character for each piece that is none. -/
def decodeLossy (s : Bytes) : String := String.ofList ((pieces s).map Piece.charLossy)

end Text.Utf8

end ProxyTunnel
