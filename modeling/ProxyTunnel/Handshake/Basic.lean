import ProxyTunnel.Handshake.Error
import ProxyTunnel.Stream.Conversation

/-!
# Steps of handshakes

What the handshakes of all protocols are made of.
-/

namespace ProxyTunnel

namespace Conversation

/-- Writes a message and flushes it. -/
def send (message : Bytes) : Conversation HandshakeError Unit :=
  .write message .write (.flush .flush (.done ()))

/-- A conversation on SOCKS messages as part of a handshake. -/
def ofSocks {α : Type} (c : Conversation SocksError α) : Conversation HandshakeError α :=
  c.mapError .ofSocks

end Conversation

end ProxyTunnel
