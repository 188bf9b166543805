import ProxyTunnel.Net.Ipv6
import ProxyTunnel.Idna.Domain
import ProxyTunnel.Text.Percent

/-!
# URLs

The scheme, user information, host and port of a URL; path, query and fragment are passed over.
Tabulators and line ends are dropped wherever they stand, blanks and control characters at both
ends. The schemes of the web read slashes and backslashes alike, need a host, and read it as a
domain name or IP address; a host of another scheme is opaque. `Url.parse` follows the URL standard
of the web, without a base URL.
-/

namespace ProxyTunnel

open Text

/-- Why a text is no URL. -/
inductive UrlError where
  | noScheme
  | emptyHost
  | invalidPort
  | invalidIpv6
  | invalidIpv4
  | invalidDomain
  | invalidDomainCharacter
  deriving DecidableEq, Repr

/-- The failure in words. -/
def UrlError.message : UrlError → String
  | .noScheme => "relative URL without a base"
  | .emptyHost => "empty host"
  | .invalidPort => "invalid port number"
  | .invalidIpv6 => "invalid IPv6 address"
  | .invalidIpv4 => "invalid IPv4 address"
  | .invalidDomain => "invalid international domain name"
  | .invalidDomainCharacter => "invalid domain character"

/-- The host of a URL. -/
inductive UrlHost where
  | domain (name : List Char)
  | ipv4 (ip : Ipv4)
  | ipv6 (ip : Ipv6)
  deriving DecidableEq, Repr

/-- The parts of a URL in front of its path. User name and password are percent-encoded; the port is
left out where it is the usual one of a web scheme. -/
structure Url where
  scheme : List Char
  userName : List Char
  password : List Char
  host : Option UrlHost
  port : Option UInt16
  deriving DecidableEq, Repr

namespace Url

/-- How the schemes differ. -/
inductive SchemeKind where
  /-- A scheme of the web, with its usual port. -/
  | web (port : UInt16)
  | file
  | opaqueHost
  deriving DecidableEq, Repr

/-- The kind of a scheme. -/
def SchemeKind.of (scheme : List Char) : SchemeKind :=
  match String.ofList scheme with
  | "http" | "ws" => .web 80
  | "https" | "wss" => .web 443
  | "ftp" => .web 21
  | "file" => .file
  | _ => .opaqueHost

/-- Whether a backslash counts as a slash. -/
def SchemeKind.isSpecial : SchemeKind → Bool
  | .opaqueHost => false
  | _ => true

/-- Blanks and control characters, which are cut off at both ends. -/
def isTrimmed (c : Char) : Bool := c.toNat ≤ 0x20

/-- Tabulators and line ends, which are dropped everywhere. -/
def isDropped (c : Char) : Bool := c = '\t' || c = '\n' || c = '\r'

/-- The text that is read. -/
def clean (s : List Char) : List Char :=
  (((s.dropWhile isTrimmed).reverse.dropWhile isTrimmed).reverse).filter (!isDropped ·)

/-- Whether a character may stand in a scheme. -/
def isSchemeChar (c : Char) : Bool :=
  c.isAlpha || c.isDigit || c = '+' || c = '-' || c = '.'

/-- The scheme in small letters, and what stands behind its colon. -/
def splitScheme? (s : List Char) : Option (List Char × List Char) :=
  if s.head?.any Char.isAlpha then
    match s.dropWhile isSchemeChar with
    | ':' :: rest => some ((s.takeWhile isSchemeChar).map Char.toLower, rest)
    | _ => none
  else none

/-- Whether a character ends the authority of a URL. -/
def endsAuthority (kind : SchemeKind) (c : Char) : Bool :=
  c = '/' || c = '?' || c = '#' || (kind.isSpecial && c = '\\')

/-- The ASCII characters that are percent-encoded in user information. -/
def isReservedInUserInfo (c : Char) : Bool :=
  Percent.isControl c || " \"#<>?`\x7b\x7d/:;=@[\\]^|".toList.contains c

/-- User name and password, as far as there are any, and what follows them. -/
structure UserInfo where
  userName : List Char
  password : List Char
  rest : List Char

/-- Takes user information off an authority and all that follows it. -/
def splitUserInfo (kind : SchemeKind) (s : List Char) : Except UrlError UserInfo :=
  let authority := s.takeWhile (!endsAuthority kind ·)
  let path := s.dropWhile (!endsAuthority kind ·)
  match splitLast? '@' authority with
  | none => .ok ⟨[], [], s⟩
  | some ([], host) =>
    if host = [] ∧ path ≠ [] then .error .emptyHost else .ok ⟨[], [], host ++ path⟩
  | some (info, host) =>
    let user := info.takeWhile (· ≠ ':')
    let password := (info.dropWhile (· ≠ ':')).drop 1
    .ok ⟨Percent.encode isReservedInUserInfo user, Percent.encode isReservedInUserInfo password,
      host ++ path⟩

/-- How many characters belong to the host: up to a colon outside of brackets, or to the end of the
authority. -/
def hostLength (kind : SchemeKind) : (inBrackets : Bool) → List Char → Nat
  | _, [] => 0
  | inBrackets, c :: s =>
    if (c = ':' && !inBrackets) || endsAuthority kind c then 0
    else
      let inside := if c = '[' then true else if c = ']' then false else inBrackets
      hostLength kind inside s + 1

/-- A number of an IPv4 address: decimal, or octal behind `0`, or hexadecimal behind `0x`. -/
def ipv4Number? (s : List Char) : Option Nat :=
  let (base, digits) := match s with
    | '0' :: 'x' :: t | '0' :: 'X' :: t => (16, t)
    | '0' :: c :: t => (8, c :: t)
    | _ => (10, s)
  if s = [] || !digits.all (Numeral.isDigit base) then none
  else some (Numeral.value base digits)

/-- The parts of a name between its full stops; one full stop at the end does not count. -/
def nameParts (s : List Char) : List (List Char) :=
  let parts := splitAll (· = '.') s
  if parts.getLast? = some [] then parts.dropLast else parts

/-- Whether the last part of a name is a number, so that the name can only be an IPv4 address. -/
def endsInNumber (s : List Char) : Bool :=
  match (nameParts s).getLast? with
  | none => false
  | some last => (last ≠ [] && last.all (Numeral.isDigit 10)) || (ipv4Number? last).isSome

/-- The address of up to four numbers, the last of which fills the bytes that are left. -/
def ipv4OfNumbers? (ns : List Nat) : Option Ipv4 :=
  match ns.reverse with
  | [] => none
  | last :: others =>
    if 3 < others.length || others.any (255 < ·) || Nat.pow 256 (4 - others.length) ≤ last then none
    else
      let high := others.reverse.foldl (fun n x => n * 256 + x) 0
      some (Ipv4.ofNat (high * Nat.pow 256 (4 - others.length) + last))

/-- Reads a name that ends in a number as an IPv4 address. -/
def parseIpv4? (s : List Char) : Option Ipv4 := do
  let ns ← (nameParts s).mapM ipv4Number?
  ipv4OfNumbers? ns

/-- Reads a host in brackets. -/
def parseBracketed (s : List Char) : Except UrlError UrlHost :=
  if s.getLast? = some ']' then
    match Ipv6.parse? (s.drop 1).dropLast with
    | some ip => .ok (.ipv6 ip)
    | none => .error .invalidIpv6
  else .error .invalidIpv6

/-- Reads the host of a web scheme. -/
def parseDomain (s : List Char) : Except UrlError UrlHost :=
  if s.head? = some '[' then parseBracketed s
  else match Idna.toAscii (Percent.decode (Utf8.encodeChars s)) with
    | none => .error .invalidDomain
    | some [] => .error .emptyHost
    | some name =>
      if endsInNumber name then
        match parseIpv4? name with
        | some ip => .ok (.ipv4 ip)
        | none => .error .invalidIpv4
      else .ok (.domain name)

/-- Whether a character must not stand in an opaque host. -/
def isForbiddenOpaque (c : Char) : Bool :=
  c.toNat = 0 || "\t\n\r #/:<>?@[\\]^|".toList.contains c

/-- Reads an opaque host. -/
def parseOpaque (s : List Char) : Except UrlError UrlHost :=
  if s.head? = some '[' then parseBracketed s
  else if s.any isForbiddenOpaque then .error .invalidDomainCharacter
  else .ok (.domain (Percent.encode Percent.isControl s))

/-- Reads what follows the colon behind a host. -/
def parsePort (usual : Option UInt16) (s : List Char) : Except UrlError (Option UInt16) :=
  let ds := Numeral.digits 10 s
  let n := Numeral.value 10 ds
  if 65535 < n then .error .invalidPort
  else if (Numeral.rest 10 s).head?.any (fun c => !"/\\?#".toList.contains c) then
    .error .invalidPort
  else if ds = [] || usual = some (UInt16.ofNat n) then .ok none
  else .ok (some (UInt16.ofNat n))

/-- Reads the authority behind two slashes. -/
def parseAuthority (scheme : List Char) (kind : SchemeKind) (s : List Char) :
    Except UrlError Url := do
  let info ← splitUserInfo kind s
  let length := hostLength kind false info.rest
  let text := info.rest.take length
  let rest := info.rest.drop length
  let usual := match kind with
    | .web port => some port
    | _ => none
  if kind.isSpecial && text = [] then .error .emptyHost
  else
    let host ← if kind.isSpecial then parseDomain text else parseOpaque text
    if host = .domain [] && rest.head? = some ':' then .error .emptyHost
    else
      let port ← match rest with
        | ':' :: t => parsePort usual t
        | _ => .ok none
      if host = .domain [] && (info.userName ≠ [] || info.password ≠ []) then .error .emptyHost
      else
        let host := if host = .domain [] then none else some host
        .ok ⟨scheme, info.userName, info.password, host, port⟩

/-- Whether a file URL names a drive instead of a host. -/
def isDriveLetter : List Char → Bool
  | [a, b] => a.isAlpha && (b = ':' || b = '|')
  | _ => false

/-- Reads what follows the scheme of a file URL. -/
def parseFile (scheme : List Char) (s : List Char) : Except UrlError Url :=
  let none' : Url := ⟨scheme, [], [], none, none⟩
  let isSlash := fun c : Char => c = '/' || c = '\\'
  match s with
  | a :: b :: t =>
    if isSlash a && isSlash b then
      let host := t.takeWhile (!endsAuthority .file ·)
      if host = [] || isDriveLetter host then .ok none'
      else (parseDomain host).map fun h =>
        if h = .domain "localhost".toList then none' else { none' with host := some h }
    else .ok none'
  | _ => .ok none'

/-- Reads a URL. -/
def parse (s : List Char) : Except UrlError Url :=
  match splitScheme? (clean s) with
  | none => .error .noScheme
  | some (scheme, rest) =>
    match SchemeKind.of scheme with
    | .web port =>
      parseAuthority scheme (.web port) (rest.dropWhile fun c => c = '/' || c = '\\')
    | .file => parseFile scheme rest
    | .opaqueHost =>
      match rest with
      | '/' :: '/' :: t => parseAuthority scheme .opaqueHost t
      | _ => .ok ⟨scheme, [], [], none, none⟩

end Url

end ProxyTunnel
