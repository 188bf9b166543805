import ProxyTunnel.Proxy.Record
import ProxyTunnel.Toml.Reader

/-!
# Configuration files

A configuration names a proxy server and, if it likes, how long connecting may take. Other settings
are passed over.
-/

namespace ProxyTunnel

namespace Document

mutual

/-- Whether all integers fit into 64 bits, with or without sign. -/
def isNarrow : Document → Bool
  | .integer n => Text.Numeral.fits 64 n
  | .list items => areNarrow items
  | .table entries => areNarrowEntries entries
  | _ => true

/-- Whether all integers of a list fit. -/
def areNarrow : List Document → Bool
  | [] => true
  | d :: ds => d.isNarrow && areNarrow ds

/-- Whether all integers of a table fit. -/
def areNarrowEntries : List (String × Document) → Bool
  | [] => true
  | (_, d) :: es => d.isNarrow && areNarrowEntries es

end

/-- Reads a number of seconds, or of anything that is counted in 64 bits. -/
def count? : Document → Option Nat
  | .integer (.ofNat n) => if n < UInt64.size then some n else none
  | _ => none

end Document

/-- What a configuration file says. -/
structure Config where
  proxy : Proxy
  /-- How long connecting may take, in seconds. -/
  timeout : Option Nat
  deriving DecidableEq, Repr

namespace Config

/-- Reads a configuration from a table. -/
def ofDocument? : Document → Option Config
  | .table es => do
    guard (Document.isUnambiguous ["proxy", "timeout"] es)
    let proxy ← Document.lookup "proxy" es
    if proxy.isNarrow then
      some ⟨← Proxy.ofDocument? proxy, ← Document.optional Document.count? (Document.lookup "timeout" es)⟩
    else none
  | _ => none

/-- Reads a configuration from the text of a file. -/
def parse? (text : String) : Option Config := do
  ofDocument? (← Toml.parse? text.toList)

end Config

end ProxyTunnel
