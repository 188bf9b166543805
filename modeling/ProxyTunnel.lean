import ProxyTunnel.Text.Numeral
import ProxyTunnel.Text.Utf8
import ProxyTunnel.Text.Split
import ProxyTunnel.Net.Ipv4
import ProxyTunnel.Net.Word
import ProxyTunnel.Net.Ipv6
import ProxyTunnel.Net.Socket
import ProxyTunnel.Endpoint
import ProxyTunnel.Unicode.Printable
import ProxyTunnel.Unicode.Canonical
import ProxyTunnel.Unicode.Script
import ProxyTunnel.Idna.Mapping
import ProxyTunnel.Idna.Punycode
import ProxyTunnel.Idna.Domain
import ProxyTunnel.Text.Percent
import ProxyTunnel.Text.Base64
import ProxyTunnel.Text.Quoted
import ProxyTunnel.Credential
import ProxyTunnel.Url
import ProxyTunnel.Document
import ProxyTunnel.Proxy.Basic
import ProxyTunnel.Proxy.Link
import ProxyTunnel.Proxy.Record
import ProxyTunnel.Stream.Fault
import ProxyTunnel.Stream.Conversation
import ProxyTunnel.Stream.Carrier
import ProxyTunnel.Tls.ServerName
import ProxyTunnel.Tls.Opening
import ProxyTunnel.Tls.Session
import ProxyTunnel.Stream.Script
import ProxyTunnel.Stream.Peer
import ProxyTunnel.Socks.Error
import ProxyTunnel.Socks.Version
import ProxyTunnel.Socks.Address
import ProxyTunnel.Socks.Version4
import ProxyTunnel.Socks.Version5
import ProxyTunnel.Http.Error
import ProxyTunnel.Http.Request
import ProxyTunnel.Http.Response
import ProxyTunnel.Handshake.Error
import ProxyTunnel.Handshake.Basic
import ProxyTunnel.Handshake.Socks4
import ProxyTunnel.Handshake.Socks5
import ProxyTunnel.Handshake.Http
import ProxyTunnel.Client.Error
import ProxyTunnel.Client.Tunnel
import ProxyTunnel.Client.Connector
import ProxyTunnel.Client.Relay
import ProxyTunnel.Toml.Blank
import ProxyTunnel.Toml.Text
import ProxyTunnel.Toml.Scalar
import ProxyTunnel.Toml.Table
import ProxyTunnel.Toml.Reader
import ProxyTunnel.Program.Error
import ProxyTunnel.Program.Config
import ProxyTunnel.Program.Options
import ProxyTunnel.Program.Arguments
import ProxyTunnel.Program.CommandLine
import ProxyTunnel.Program.Completions
import ProxyTunnel.Program.Run
import ProxyTunnel.Main
import ProxyTunnel.Proofs.Net.Octets
import ProxyTunnel.Proofs.Stream.Hearing
import ProxyTunnel.Proofs.Stream.Operations
import ProxyTunnel.Proofs.Stream.Saying
import ProxyTunnel.Proofs.Socks.Replies
import ProxyTunnel.Proofs.Handshake.Socks5
import ProxyTunnel.Proofs.Http.Response
import ProxyTunnel.Proofs.Handshake.Http
import ProxyTunnel.Proofs.Client.Connector
import ProxyTunnel.Proofs.Socks.Version4
import ProxyTunnel.Proofs.Handshake.Orderly
import ProxyTunnel.Proofs.Stream.Serving
import ProxyTunnel.Proofs.Handshake.Pieces
import ProxyTunnel.Proofs.Stream.Faults
import ProxyTunnel.Proofs.Handshake.Faults
import ProxyTunnel.Proofs.Stream.Moments
import ProxyTunnel.Proofs.Handshake.Secrecy
import ProxyTunnel.Proofs.Stream.Recorder
import ProxyTunnel.Proofs.Stream.Order
import ProxyTunnel.Proofs.Client.Stacked
import ProxyTunnel.Proofs.Net.Ipv4
import ProxyTunnel.Proofs.Text.Numeral
import ProxyTunnel.Proofs.Net.Ipv6
import ProxyTunnel.Proofs.Net.Address
import ProxyTunnel.Proofs.Net.Socket
import ProxyTunnel.Proofs.Endpoint
import ProxyTunnel.Proofs.Stream.Alike
import ProxyTunnel.Proofs.Client.Password
import ProxyTunnel.Proofs.Stream.Cancellation
import ProxyTunnel.Proofs.Stream.Logged
import ProxyTunnel.Proofs.Client.Cancellation
import ProxyTunnel.Proofs.Relay.Moves
import ProxyTunnel.Proofs.Relay.Soundness
import ProxyTunnel.Proofs.Relay.Progress
import ProxyTunnel.Proofs.Stream.Heard
import ProxyTunnel.Proofs.Socks.Address
import ProxyTunnel.Proofs.Socks.Reply
import ProxyTunnel.Proofs.Socks.Version5
import ProxyTunnel.Proofs.Handshake.Session
import ProxyTunnel.Proofs.Http.Grammar
import ProxyTunnel.Proofs.Handshake.AtOnce
import ProxyTunnel.Proofs.Http.Request
import ProxyTunnel.Proofs.Http.Authorization
import ProxyTunnel.Proofs.Target
import ProxyTunnel.Proofs.Socks.NameLength
import ProxyTunnel.Proofs.Handshake.Refusals
import ProxyTunnel.Proofs.Handshake.Socks4
import ProxyTunnel.Proofs.Text.Percent
import ProxyTunnel.Proofs.Text.Split
import ProxyTunnel.Proofs.Idna.Plain
import ProxyTunnel.Proofs.Url
import ProxyTunnel.Proofs.Proxy.Link
import ProxyTunnel.Proofs.Unbracketed
import ProxyTunnel.Proofs.Socks.Greeting
import ProxyTunnel.Proofs.Proxy.Record
import ProxyTunnel.Proofs.Stream.Mirrors
import ProxyTunnel.Proofs.Stream.Trail
import ProxyTunnel.Proofs.Stream.Peer
import ProxyTunnel.Proofs.Tls.ServerName
import ProxyTunnel.Proofs.Client.Https
