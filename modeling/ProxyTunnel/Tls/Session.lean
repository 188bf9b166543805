import ProxyTunnel.Stream.Carrier
import ProxyTunnel.Tls.ServerName
import ProxyTunnel.Proxy.Basic

/-!
# Sessions

Carriers on which TLS sessions can be opened.
-/

namespace ProxyTunnel

/-- A carrier with a way to open a session on one of its levels. If that succeeds, the session is
the next level. -/
class SessionCarrier (σ : Type) extends Carrier σ where
  openSession : (level : Nat) → Tls.ServerName → Verification → σ → Outcome Fault Unit × σ

end ProxyTunnel
