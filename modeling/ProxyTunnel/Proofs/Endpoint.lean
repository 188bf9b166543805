import ProxyTunnel.Proofs.Net.Address
import ProxyTunnel.Proofs.Net.Socket
import ProxyTunnel.Proxy.Record

/-!
# Endpoints and their texts

Which endpoints a text can name (`Endpoint.IsTextual`): socket addresses without flow information,
and domain names that are not empty, do not start with a bracket and spell no IP address. Exactly
these are read back from what is written of them, and nothing else is ever read
(`Endpoint.textual_iff`).
-/

namespace ProxyTunnel.Endpoint

open Text Text.Numeral Net

/-- The endpoint is what a text of the form `host:port` can name. -/
def IsTextual : Endpoint → Prop
  | .socket (.v4 _ _) => True
  | .socket (.v6 _ _ flow _) => flow = 0
  | .domain name _ =>
    name ≠ "" ∧ name.toList.head? ≠ some '[' ∧ IpAddress.parse? name.toList = none

/-! ## What is read -/

theorem isTextual_of_socket {s : List Char} {a : SocketAddress}
    (h : SocketAddress.parse? s = some a) : (socket a).IsTextual := by
  rw [SocketAddress.parse?, Option.or_eq_some_iff] at h
  rcases h with h | ⟨-, h⟩
  · obtain ⟨ip, port, -, -, -, rfl⟩ := SocketAddress.parseV4?_eq_some h
    trivial
  · obtain ⟨-, ip, port, scope, rfl⟩ := SocketAddress.parseV6?_eq_some h
    rfl

theorem isTextual_ofHost {host : List Char} (hnil : host ≠ []) (hhead : host.head? ≠ some '[')
    (port : UInt16) : (ofHost host port).IsTextual := by
  rw [ofHost]
  split
  · rename_i ip _
    cases ip <;> trivial
  · rename_i hname
    exact ⟨by simpa using hnil, by simpa using hhead, by simpa using hname⟩

theorem isTextual_of_parse {text : String} {e : Endpoint} (h : parse text = .ok e) :
    e.IsTextual := by
  simp only [parse] at h
  split at h
  · rename_i a ha
    cases h
    exact isTextual_of_socket ha
  · split at h
    · cases h
    · split at h
      · cases h
      · split at h
        · cases h
        · rename_i hhost
          rw [not_or] at hhost
          cases h
          exact isTextual_ofHost hhost.1 hhost.2 _

theorem unbracket_of_head {s : List Char} (h : s.head? ≠ some '[') : unbracket s = s := by
  rw [unbracket]
  rintro t rfl
  exact h rfl

theorem IsTextual.normalize_eq {e : Endpoint} (h : e.IsTextual) : e.normalize = e := by
  cases e with
  | socket a => rfl
  | domain name port =>
    obtain ⟨-, hhead, hname⟩ := h
    rw [normalize, unbracket_of_head hhead, hname]

/-! ## What is written -/

theorem parse?_domain {name ds : List Char} (hnil : name ≠ []) (hhead : name.head? ≠ some '[')
    (hname : IpAddress.parse? name = none) (hds : ':' ∉ ds) :
    SocketAddress.parse? (name ++ ':' :: ds) = none := by
  rw [SocketAddress.parse?, Option.or_eq_none_iff]
  constructor
  · -- the text would have to be split at its last colon behind an IPv4 address
    refine Option.eq_none_iff_forall_ne_some.mpr fun a ha => ?_
    obtain ⟨ip, port, ds', htext, hds', -⟩ := SocketAddress.parseV4?_eq_some ha
    have hcolon : ':' ∉ ds' := fun h => by cases hds' _ h
    have hsplit := splitLast?_append ip.chars hcolon
    rw [← htext, splitLast?_append name hds] at hsplit
    cases hsplit
    rw [IpAddress.parse?_eq_some.mpr (.v4 ip)] at hname
    cases hname
  · refine Option.eq_none_iff_forall_ne_some.mpr fun a ha => ?_
    have hbracket := (SocketAddress.parseV6?_eq_some ha).1
    obtain ⟨c, name, rfl⟩ := List.exists_cons_of_ne_nil hnil
    exact hhead hbracket

theorem IsTextual.parse_display {e : Endpoint} (h : e.IsTextual) : parse e.display = .ok e := by
  cases e with
  | socket a =>
    have ha : a.written = a := by
      cases a with
      | v4 ip port => rfl
      | v6 ip port flow scope => rw [SocketAddress.written, show flow = 0 from h]
    simp only [parse, display, chars, String.toList_ofList, SocketAddress.parse?_chars, ha]
  | domain name port =>
    obtain ⟨hempty, hhead, hname⟩ := h
    have hnil : name.toList ≠ [] := by simpa using hempty
    have hds : ':' ∉ Nat.toDigits 10 port.toNat := fun h => by
      cases isDigit_of_mem_toDigits (by decide) (by decide) _ _ h
    simp [parse, display, chars, parse?_domain hnil hhead hname hds, splitLast?_append _ hds,
      port?_toDigits, hempty, hhead, ofHost, hname]

/-- Exactly the endpoints that a text can name are read back from what is written of them, and every
text that is read names such an endpoint, in its normal form, that is read back from its text and
from its entry in a document. -/
theorem textual_iff :
    (∀ e : Endpoint, parse e.display = .ok e ↔ e.IsTextual) ∧
    ∀ (text : String) (e : Endpoint), parse text = .ok e →
      e.IsTextual ∧ e.normalize = e ∧ parse e.display = .ok e ∧
        ofDocument? (.text e.display) = some e := by
  refine ⟨fun e => ⟨isTextual_of_parse, IsTextual.parse_display⟩, fun text e h => ?_⟩
  have hform := isTextual_of_parse h
  have hread := hform.parse_display
  refine ⟨hform, hform.normalize_eq, hread, ?_⟩
  rw [ofDocument?]
  simp [Document.text?, hread, Except.toOption]

/-- An address that is written with needless zeros is read in its canonical form. -/
theorem textual_iff_scoped :
    parse "[0:0::1%5]:080" = .ok (.socket (.v6 ⟨[0, 0, 0, 0, 0, 0, 0, 1], rfl⟩ 80 0 5)) ∧
      parse "[::1%5]:80" = .ok (.socket (.v6 ⟨[0, 0, 0, 0, 0, 0, 0, 1], rfl⟩ 80 0 5)) := by
  have hread : parse "[0:0::1%5]:080" =
      .ok (.socket (.v6 ⟨[0, 0, 0, 0, 0, 0, 0, 1], rfl⟩ 80 0 5)) := by decide
  exact ⟨hread, (textual_iff.2 _ _ hread).2.2.1⟩

end ProxyTunnel.Endpoint
