import Mathlib.Data.List.Basic
import ProxyTunnel.Client.Connector
import ProxyTunnel.Proofs.Net.Address

/-!
# What a server is called

In a session a server is called by its own address: by the IP address of a socket address, and by
the text of a domain name if that is a DNS name or the text of an IP address (`Endpoint.IsNamed`).

* `isDnsName_iff`: DNS names are labels with dots between them (`IsDnsName`);
* `ofText?_eq_some`: exactly these and the texts of addresses are names;
* `Proxy.serverName_eq_ok`, `Proxy.serverName_eq_error`: so a server has one name at most, and none
  only if it is a domain name of another form.
-/

namespace ProxyTunnel

open Text Text.Numeral

namespace Tls.ServerName

variable {s : List Char}

/-! ## DNS names -/

/-- A label is made of letters, digits, `_` and `-`, but has no `-` at its edges. -/
structure IsLabel (s : List Char) : Prop where
  ne_nil : s ≠ []
  length_le : s.length ≤ 63
  chars : ∀ c ∈ s, c.isAlphanum = true ∨ c = '_' ∨ c = '-'
  head_ne : s.head? ≠ some '-'
  getLast_ne : s.getLast? ≠ some '-'

/-- Labels with dots between them, the last one not of digits alone. -/
inductive Labels : List Char → Prop
  | last {s : List Char} (h : IsLabel s) (hs : ∃ c ∈ s, isDigit 10 c = false) : Labels s
  | cons {label s : List Char} (h : IsLabel label) (hs : Labels s) : Labels (label ++ '.' :: s)

/-- A DNS name may have one more dot at its end. -/
inductive IsDnsName : List Char → Prop
  | plain {s : List Char} (h : Labels s) (hlen : s.length ≤ 253) : IsDnsName s
  | dotted {s : List Char} (h : Labels s) (hlen : s.length < 253) : IsDnsName (s ++ ['.'])

theorem isEdge_iff {c : Char} (h : c.isAlphanum = true ∨ c = '_' ∨ c = '-') :
    isEdge c = true ↔ c ≠ '-' := by
  constructor
  · rintro hedge rfl
    exact absurd hedge (by decide)
  · intro hne
    rcases h with h | rfl | rfl
    · rw [isEdge, h, Bool.true_or]
    · rfl
    · exact absurd rfl hne

theorem isLabel_iff : isLabel s = true ↔ IsLabel s := by
  have hall : s.all (fun c => isEdge c || c = '-') = true ↔
      ∀ c ∈ s, c.isAlphanum = true ∨ c = '_' ∨ c = '-' := by
    simp [isEdge, or_assoc]
  have hedges (o : Option Char) (hmem : ∀ c ∈ o, c ∈ s)
      (hchars : ∀ c ∈ s, c.isAlphanum = true ∨ c = '_' ∨ c = '-') :
      o.all isEdge = true ↔ o ≠ some '-' := by
    cases o with
    | none => simp
    | some c =>
      rw [Option.all_some, isEdge_iff (hchars c (hmem c rfl)), ne_eq, ne_eq, Option.some.injEq]
  unfold isLabel maxLabelLength
  simp only [Bool.and_eq_true, decide_eq_true_eq]
  constructor
  · rintro ⟨⟨⟨⟨hpos, hlen⟩, hchars⟩, hhead⟩, hlast⟩
    rw [hall] at hchars
    exact {
      ne_nil := List.length_pos_iff.mp hpos
      length_le := hlen
      chars := hchars
      head_ne := (hedges _ (fun c hc => List.mem_of_mem_head? hc) hchars).mp hhead
      getLast_ne := (hedges _ (fun c hc => List.mem_of_mem_getLast? hc) hchars).mp hlast }
  · intro h
    exact ⟨⟨⟨⟨List.length_pos_iff.mpr h.ne_nil, h.length_le⟩, hall.mpr h.chars⟩,
      (hedges _ (fun c hc => List.mem_of_mem_head? hc) h.chars).mpr h.head_ne⟩,
      (hedges _ (fun c hc => List.mem_of_mem_getLast? hc) h.chars).mpr h.getLast_ne⟩

theorem IsLabel.ne_dot (h : IsLabel s) : ∀ c ∈ s, decide (c = '.') = false := by
  intro c hc
  refine decide_eq_false ?_
  rintro rfl
  rcases h.chars _ hc with h | h | h <;> revert h <;> decide

theorem Labels.ne_nil (h : Labels s) : s ≠ [] := by
  cases h with
  | last h _ => exact h.ne_nil
  | cons h _ => exact List.append_ne_nil_of_left_ne_nil h.ne_nil _

theorem Labels.getLast_ne (h : Labels s) : s.getLast? ≠ some '.' := by
  induction h with
  | last h _ => exact fun hlast => of_decide_eq_false (h.ne_dot _ (List.mem_of_getLast? hlast)) rfl
  | @cons label s _ hs ih =>
    rwa [List.append_cons, List.getLast?_append_of_ne_nil _ hs.ne_nil]

theorem Labels.colon_not_mem (h : Labels s) : ':' ∉ s := by
  have hlabel {s : List Char} (h : IsLabel s) : ':' ∉ s := by
    intro hc
    rcases h.chars _ hc with h | h | h <;> revert h <;> decide
  induction h with
  | last h _ => exact hlabel h
  | cons h _ ih => simp [hlabel h, ih]

/-- The parts between dots are the labels. -/
theorem labels_iff : Labels s ↔ (∀ label ∈ splitAll (· = '.') s, IsLabel label) ∧
    ∃ label ∈ (splitAll (· = '.') s).getLast?, ∃ c ∈ label, isDigit 10 c = false := by
  constructor
  · intro h
    induction h with
    | last h hs =>
      rw [splitAll_of_free h.ne_dot]
      exact ⟨by simpa using h, _, rfl, hs⟩
    | cons h _ ih =>
      rw [splitAll_append h.ne_dot (by decide), List.forall_mem_cons,
        List.getLast?_cons_of_ne_nil (splitAll_ne_nil _)]
      exact ⟨⟨h, ih.1⟩, ih.2⟩
  -- Each part goes with the text from it on.
  · intro h
    generalize hparts : splitAll (· = '.') s = parts at h
    induction parts generalizing s with
    | nil => exact absurd hparts (splitAll_ne_nil s)
    | cons label parts ih =>
      obtain ⟨hlabel, hparts'⟩ := List.forall_mem_cons.mp h.1
      rcases eq_of_splitAll hparts with ⟨rfl, rfl⟩ | ⟨c, rest, hc, rfl, hrest⟩
      · obtain ⟨last, hlast, hdigit⟩ := h.2
        cases hlast
        exact .last hlabel hdigit
      · obtain rfl := of_decide_eq_true hc
        rw [← hrest, List.getLast?_cons_of_ne_nil (splitAll_ne_nil _), hrest] at h
        exact .cons hlabel (ih hrest ⟨hparts', h.2⟩)

theorem isDnsName_iff_labels : isDnsName s = true ↔
    s.length ≤ 253 ∧ Labels (withoutTrailingDot s) := by
  have hlabels (parts : List (List Char)) :
      parts.all isLabel = true ↔ ∀ label ∈ parts, IsLabel label := by
    simp only [List.all_eq_true, isLabel_iff]
  have hlast (o : Option (List Char)) (ho : o ≠ none) :
      (o.all fun label => !label.all (isDigit 10)) = true ↔
        ∃ label ∈ o, ∃ c ∈ label, isDigit 10 c = false := by
    cases o with
    | none => exact absurd rfl ho
    | some label => simp
  have hsome : (splitAll (· = '.') (withoutTrailingDot s)).getLast? ≠ none := by
    simpa using splitAll_ne_nil (withoutTrailingDot s)
  rw [labels_iff]
  unfold isDnsName maxNameLength
  simp only [Bool.and_eq_true, decide_eq_true_eq, hlabels, hlast _ hsome, and_assoc]

theorem withoutTrailingDot_append (s : List Char) : withoutTrailingDot (s ++ ['.']) = s := by
  rw [withoutTrailingDot, List.getLast?_concat, if_pos rfl, List.dropLast_concat]

theorem withoutTrailingDot_of_ne (h : s.getLast? ≠ some '.') : withoutTrailingDot s = s := if_neg h

/-- DNS names are labels with dots between them, and maybe one behind. -/
theorem isDnsName_iff : isDnsName s = true ↔ IsDnsName s := by
  rw [isDnsName_iff_labels]
  constructor
  · rintro ⟨hlen, h⟩
    by_cases hdot : s.getLast? = some '.'
    · obtain ⟨t, rfl⟩ := List.getLast?_eq_some_iff.mp hdot
      rw [withoutTrailingDot_append] at h
      rw [List.length_append, List.length_singleton] at hlen
      exact .dotted h hlen
    · rw [withoutTrailingDot_of_ne hdot] at h
      exact .plain h hlen
  · rintro (⟨h, hlen⟩ | ⟨h, hlen⟩)
    · rw [withoutTrailingDot_of_ne h.getLast_ne]
      exact ⟨hlen, h⟩
    · rw [withoutTrailingDot_append, List.length_append, List.length_singleton]
      exact ⟨hlen, h⟩

instance (s : List Char) : Decidable (IsDnsName s) := decidable_of_iff _ isDnsName_iff

theorem IsDnsName.colon_not_mem (h : IsDnsName s) : ':' ∉ s := by
  cases h with
  | plain h _ => exact h.colon_not_mem
  | dotted h _ => simp [h.colon_not_mem]

/-- No DNS name is the text of an address: it has no colon, and its last label is no number. -/
theorem IsDnsName.not_spells (h : IsDnsName s) (ip : IpAddress) : ¬ip.Spells s := by
  intro hip
  cases hip with
  | v4 ip =>
    obtain ⟨-, hlabels⟩ := isDnsName_iff_labels.mp (isDnsName_iff.mpr h)
    rw [withoutTrailingDot_of_ne ip.getLast?_chars_ne, labels_iff, ip.splitAll_chars] at hlabels
    obtain ⟨-, last, hlast, c, hc, hdigit⟩ := hlabels
    cases hlast
    rw [isDigit_of_mem_toDigits (by decide) (by decide) _ c hc] at hdigit
    cases hdigit
  | v6 hip =>
    obtain ⟨ds, t, rfl, -⟩ := hip.colonFirst
    exact h.colon_not_mem (by simp)

/-- Exactly DNS names and the texts of addresses are names. -/
theorem ofText?_eq_some {text : String} {name : ServerName} : ofText? text = some name ↔
    (IsDnsName text.toList ∧ name = .dns text) ∨
      ∃ ip : IpAddress, ip.Spells text.toList ∧ name = .ip ip := by
  rw [ofText?]
  by_cases h : IsDnsName text.toList
  · rw [if_pos (isDnsName_iff.mpr h)]
    simp [h, h.not_spells, eq_comm]
  · rw [if_neg (isDnsName_iff.not.mpr h), Option.map_eq_some_iff]
    simp only [IpAddress.parse?_eq_some, h, false_and, false_or, eq_comm (a := name)]

end Tls.ServerName

/-! ## Servers -/

/-- The name of a server, which says nothing but what its address says. -/
inductive Endpoint.IsNamed : Endpoint → Tls.ServerName → Prop
  | socket (address : SocketAddress) : IsNamed (.socket address) (.ip address.ip)
  | dns {text : String} {port : UInt16} (h : Tls.ServerName.IsDnsName text.toList) :
    IsNamed (.domain text port) (.dns text)
  | literal {text : String} {port : UInt16} {ip : IpAddress} (h : ip.Spells text.toList) :
    IsNamed (.domain text port) (.ip ip)

theorem Endpoint.isNamed_domain {text : String} {port : UInt16} {name : Tls.ServerName} :
    IsNamed (.domain text port) name ↔ Tls.ServerName.ofText? text = some name := by
  rw [Tls.ServerName.ofText?_eq_some]
  constructor
  · intro h
    cases h with
    | dns h => exact .inl ⟨h, rfl⟩
    | literal h => exact .inr ⟨_, h, rfl⟩
  · rintro (⟨h, rfl⟩ | ⟨ip, h, rfl⟩)
    · exact .dns h
    · exact .literal h

namespace Proxy

variable {server : Endpoint}

theorem serverName_eq_ok {name : Tls.ServerName} :
    serverName server = .ok name ↔ server.IsNamed name := by
  cases server with
  | socket address =>
    constructor
    · intro h
      cases h
      exact .socket address
    · intro h
      cases h
      rfl
  | domain text port =>
    rw [Endpoint.isNamed_domain, serverName]
    cases Tls.ServerName.ofText? text with
    | none => simp
    | some n => simp

/-- Only a domain name may be no name of a server, and is then part of the error. -/
theorem serverName_eq_error {e : ClientError} :
    serverName server = .error e ↔ (∀ name, ¬server.IsNamed name) ∧
      ∃ text port, server = .domain text port ∧ e = .invalidServerName text := by
  cases server with
  | socket address =>
    constructor
    · intro h
      cases h
    · rintro ⟨hnone, -⟩
      exact absurd (.socket address) (hnone _)
  | domain text port =>
    simp only [Endpoint.isNamed_domain]
    rw [serverName]
    cases Tls.ServerName.ofText? text with
    | none => simp [eq_comm]
    | some n => simp

end Proxy

end ProxyTunnel
