import ProxyTunnel.Proxy.Record
import ProxyTunnel.Proofs.Endpoint

/-!
# Configurations of proxy servers are read back

A table says the same in many ways (`Document.Restated`): its entries may be put in another order,
entries that nobody knows may be added, entries that say what is assumed without them may be left
out, and tables inside it may be restated as well. What a key is found to hold changes only in these
ways (`Restated.lookup`), so all of them are read alike:

* `Credential.ofDocument?_table`: as the credential;
* `Proxy.ofDocument?_restated`: as the proxy server, and so is the list of its settings in order.
-/

namespace ProxyTunnel

open Document

namespace Document

/-- The value is what is assumed if there is none for the key. -/
def IsAssumed (key : String) (d : Document) : Prop :=
  d = .null ∨ (key = "password" ∧ d = .text "") ∨
    (key = "certificate_verification" ∧ d = .text "disabled")

theorem IsAssumed.eq_null {key : String} {d : Document} (h : IsAssumed key d)
    (hkey : key ∉ ["password", "certificate_verification"]) : d = .null := by
  simp only [List.mem_cons, List.not_mem_nil, or_false, not_or] at hkey
  rcases h with rfl | ⟨h, -⟩ | ⟨h, -⟩
  · rfl
  · exact absurd h hkey.1
  · exact absurd h hkey.2

/-- Entries that say the same as others, to a reader who knows some `keys` and takes values for each
other that `again` relates. -/
inductive Restated (keys : List String) (again : String → Document → Document → Prop)
    (es : List (String × Document)) : List (String × Document) → Prop
  | same : Restated keys again es es
  | reorder {fs fs' : List (String × Document)} (h : Restated keys again es fs)
      (hperm : fs.Perm fs') : Restated keys again es fs'
  | add {fs : List (String × Document)} {key : String} (d : Document)
      (h : Restated keys again es fs) (hkey : key ∉ keys) : Restated keys again es ((key, d) :: fs)
  | leaveOut {fs : List (String × Document)} {key : String} {d : Document}
      (h : Restated keys again es ((key, d) :: fs)) (hd : IsAssumed key d) :
      Restated keys again es fs
  | rewrite {fs : List (String × Document)} {key : String} {d d' : Document}
      (h : Restated keys again es ((key, d) :: fs)) (hd : again key d d') :
      Restated keys again es ((key, d') :: fs)

variable {keys : List String} {again : String → Document → Document → Prop}
  {es fs gs : List (String × Document)} {key : String}

theorem Restated.trans (h : Restated keys again es fs) (h' : Restated keys again fs gs) :
    Restated keys again es gs := by
  induction h' with
  | same => exact h
  | reorder _ hperm ih => exact .reorder ih hperm
  | add d _ hkey ih => exact .add d ih hkey
  | leaveOut _ hd ih => exact .leaveOut ih hd
  | rewrite _ hd ih => exact .rewrite ih hd

/-! ## Looking up keys -/

theorem lookup_cons_self (key : String) (d : Document) (es : List (String × Document)) :
    lookup key ((key, d) :: es) = some d := if_pos rfl

theorem lookup_cons_of_ne {k : String} (h : k ≠ key) (d : Document)
    (es : List (String × Document)) : lookup key ((k, d) :: es) = lookup key es := if_neg h

theorem lookup_eq_none_iff : lookup key es = none ↔ occurrences key es = 0 := by
  induction es with
  | nil => exact ⟨fun _ => rfl, fun _ => rfl⟩
  | cons e es ih =>
    obtain ⟨k, d⟩ := e
    by_cases hk : k = key
    · subst hk
      simp [lookup_cons_self, occurrences]
    · rw [lookup_cons_of_ne hk, ih, occurrences, occurrences, List.map_cons,
        List.count_cons_of_ne hk]

/-- A key with one entry is found to hold what that entry says. -/
theorem lookup_eq_some_iff {d : Document} (h : occurrences key es ≤ 1) :
    lookup key es = some d ↔ (key, d) ∈ es := by
  induction es with
  | nil => simp [lookup]
  | cons e es ih =>
    obtain ⟨k, d'⟩ := e
    rw [List.mem_cons, Prod.mk.injEq]
    by_cases hk : k = key
    · subst hk
      have hfree : ∀ v, (k, v) ∉ es := by
        intro v hv
        have hmem : 0 < occurrences k es := List.count_pos_iff.mpr (List.mem_map.mpr ⟨_, hv, rfl⟩)
        rw [occurrences, List.map_cons, List.count_cons_self, ← occurrences] at h
        omega
      rw [lookup_cons_self]
      simp [hfree, eq_comm]
    · rw [occurrences, List.map_cons, List.count_cons_of_ne hk] at h
      rw [lookup_cons_of_ne hk, ih h]
      simp [Ne.symm hk]

theorem lookup_perm (hperm : es.Perm fs) (h : occurrences key es ≤ 1) :
    lookup key fs = lookup key es := by
  have hcount : occurrences key fs = occurrences key es := (hperm.map Prod.fst).count_eq key |>.symm
  ext d
  rw [lookup_eq_some_iff h, lookup_eq_some_iff (hcount ▸ h), hperm.mem_iff]

/-- No known key comes twice that came once. -/
theorem Restated.occurrences_le (h : Restated keys again es fs) (hkey : key ∈ keys)
    (hone : occurrences key es ≤ 1) : occurrences key fs ≤ 1 := by
  induction h with
  | same => exact hone
  | reorder _ hperm ih => exact ((hperm.map Prod.fst).count_eq key).symm.trans_le ih
  | @add fs k d _ hk ih =>
    have hne : k ≠ key := fun heq => hk (heq ▸ hkey)
    rwa [occurrences, List.map_cons, List.count_cons_of_ne hne]
  | leaveOut _ _ ih => exact Nat.le_trans List.count_le_count_cons ih
  | rewrite _ _ ih => exact ih

theorem Restated.isUnambiguous (h : Restated keys again es fs)
    (hone : ∀ key, occurrences key es ≤ 1) : Document.isUnambiguous keys fs = true :=
  List.all_eq_true.mpr fun key hkey => decide_eq_true (h.occurrences_le hkey (hone key))

/-- What is known of the value of a key goes on to hold however the entries are restated, if it is
known of values taken for each other and of no value where there may be none. -/
theorem Restated.lookup (knows : Option Document → Prop) (h : Restated keys again es fs)
    (hkey : key ∈ keys) (hleave : ∀ d, IsAssumed key d → knows (some d) → knows none)
    (hrewrite : ∀ d d', again key d d' → knows (some d) → knows (some d'))
    (hone : occurrences key es ≤ 1) (hknows : knows (lookup key es)) :
    knows (Document.lookup key fs) := by
  induction h with
  | same => exact hknows
  | reorder h hperm ih =>
    rw [lookup_perm hperm (h.occurrences_le hkey hone)]
    exact ih
  | @add fs k d _ hk ih =>
    have hne : k ≠ key := fun heq => hk (heq ▸ hkey)
    rwa [lookup_cons_of_ne hne]
  | @leaveOut fs k d h hd ih =>
    by_cases hk : k = key
    · subst hk
      have hle := h.occurrences_le hkey hone
      rw [occurrences, List.map_cons, List.count_cons_self] at hle
      have hnone : occurrences k fs = 0 := Nat.le_zero.mp (Nat.le_of_succ_le_succ hle)
      rw [lookup_cons_self] at ih
      rw [lookup_eq_none_iff.mpr hnone]
      exact hleave d hd ih
    · rwa [lookup_cons_of_ne hk] at ih
  | @rewrite fs k d d' _ hd ih =>
    by_cases hk : k = key
    · subst hk
      rw [lookup_cons_self] at ih ⊢
      exact hrewrite d d' hd ih
    · rwa [lookup_cons_of_ne hk] at ih ⊢

end Document

/-! ## Credentials -/

namespace Credential

/-- The table of a credential restated. -/
def Restated : List (String × Document) → List (String × Document) → Prop :=
  Document.Restated ["user_name", "password"] fun _ _ _ => False

theorem ofDocument?_table {c : Credential} {fs : List (String × Document)}
    (h : Restated [("user_name", .text c.userName), ("password", .text c.password)] fs) :
    ofDocument? (.table fs) = some c := by
  have hone := List.nodup_iff_count.mp (show ["user_name", "password"].Nodup by decide)
  have huser : lookup "user_name" fs = some (.text c.userName) := by
    refine h.lookup (· = some (.text c.userName)) (by simp) ?_ (fun _ _ => False.elim) (hone _) rfl
    intro d hd htext
    cases hd.eq_null (by decide)
    cases htext
  have hpassword : lookup "password" fs = some (.text c.password) ∨
      lookup "password" fs = none ∧ c.password = "" := by
    refine h.lookup (fun o => o = some (.text c.password) ∨ o = none ∧ c.password = "")
      (by simp) ?_ (fun _ _ => False.elim) (hone _) (.inl rfl)
    rintro d (rfl | ⟨-, rfl⟩ | ⟨h, -⟩) htext
    · rcases htext with htext | ⟨htext, -⟩ <;> cases htext
    · rcases htext with htext | ⟨htext, -⟩
      · exact .inr ⟨rfl, (Document.text.inj (Option.some.inj htext)).symm⟩
      · cases htext
    · exact absurd h (by decide)
  have hkeys := h.isUnambiguous hone
  obtain ⟨userName, password⟩ := c
  rcases hpassword with hpassword | ⟨hpassword, hempty⟩
  · simp [ofDocument?, hkeys, huser, hpassword, text?]
  · simp [ofDocument?, hkeys, huser, hpassword, text?, show password = "" from hempty]

end Credential

/-! ## Proxy servers -/

theorem Protocol.nodup_keys (protocol : Protocol) : protocol.keys.Nodup := by
  cases protocol <;> decide

theorem Protocol.mem_keys (protocol : Protocol) {key : String}
    (h : key ∈ ["type", "server", "credential"]) : key ∈ protocol.keys := by
  have hprefix : ["type", "server", "credential"] <+: protocol.keys := by
    cases protocol <;> decide
  exact hprefix.subset h

theorem Protocol.ofName?_scheme (protocol : Protocol) :
    ofName? protocol.scheme = some protocol := by
  cases protocol <;> rfl

theorem Verification.ofName?_display (verification : Verification) :
    ofName? verification.display = some verification := by
  cases verification <;> rfl

theorem Endpoint.ofDocument?_display {e : Endpoint} (h : parse e.display = .ok e) :
    ofDocument? (.text e.display) = some e := by
  simp [ofDocument?, text?, h, Except.toOption]

namespace Proxy

theorem keys_entries (p : Proxy) : "type" :: p.entries.map Prod.fst = p.protocol.keys := by
  cases p <;> rfl

/-- The table of a proxy server restated: its credential may be as well. -/
def Restated (p : Proxy) : List (String × Document) → Prop :=
  Document.Restated p.protocol.keys
    (fun key d d' => key = "credential" ∧
      ∃ es fs, d = .table es ∧ d' = .table fs ∧ Credential.Restated es fs)
    (("type", .text p.protocol.scheme) :: p.entries)

/-- The value is a restated table of the credential; without a credential there is none, or null. -/
def HoldsCredential (credential : Option Credential) (o : Option Document) : Prop :=
  match credential with
  | none => o = none ∨ o = some .null
  | some c => ∃ fs, o = some (.table fs) ∧
    Credential.Restated [("user_name", .text c.userName), ("password", .text c.password)] fs

theorem HoldsCredential.optional_eq {credential : Option Credential} {o : Option Document}
    (h : HoldsCredential credential o) : optional Credential.ofDocument? o = some credential := by
  cases credential with
  | none => rcases h with rfl | rfl <;> rfl
  | some c =>
    obtain ⟨fs, rfl, hfs⟩ := h
    simp [Document.optional, Credential.ofDocument?_table hfs]

/-- What is read of the keys that only the protocols on top of HTTP know. -/
def HoldsRest (fs : List (String × Document)) : Proxy → Prop
  | .socks4a _ _ | .socks5 _ _ => True
  | .http _ _ userAgent => optional text? (lookup "user_agent" fs) = some userAgent
  | .https _ _ userAgent verification =>
    optional text? (lookup "user_agent" fs) = some userAgent ∧
      (lookup "certificate_verification" fs).elim (some .disabled) Verification.ofDocument? =
        some verification

/-- What a table is read as follows from what its keys hold. -/
theorem ofDocument?_table {p : Proxy} (hparse : Endpoint.parse p.server.display = .ok p.server)
    {fs : List (String × Document)} (hkeys : isUnambiguous p.protocol.keys fs = true)
    (htype : lookup "type" fs = some (.text p.protocol.scheme))
    (hserver : lookup "server" fs = some (.text p.server.display))
    (hcredential : HoldsCredential p.credential (lookup "credential" fs))
    (hrest : p.HoldsRest fs) : ofDocument? (.table fs) = some p := by
  have hread := Endpoint.ofDocument?_display hparse
  have hoptional := hcredential.optional_eq
  have hentries : ofDocument? (.table fs) = ofEntries? p.protocol fs := by
    simp [ofDocument?, htype, text?, Protocol.ofName?_scheme, hkeys]
  rw [hentries]
  cases p <;> dsimp only [Proxy.server, Proxy.credential, protocol, HoldsRest] at *
  · simp [ofEntries?, hserver, hread, hoptional]
  · simp [ofEntries?, hserver, hread, hoptional]
  · simp [ofEntries?, hserver, hread, hoptional, hrest]
  · obtain ⟨huser, hverification⟩ := hrest
    cases hv : lookup "certificate_verification" fs <;> rw [hv] at hverification
    · obtain rfl := Option.some.inj hverification
      simp [ofEntries?, hserver, hread, hoptional, huser, hv]
    · simp only [Option.elim_some] at hverification
      simp [ofEntries?, hserver, hread, hoptional, huser, hv, hverification]

namespace Restated

variable {p : Proxy} {fs : List (String × Document)}

theorem occurrences_le (p : Proxy) (key : String) :
    occurrences key (("type", .text p.protocol.scheme) :: p.entries) ≤ 1 := by
  rw [occurrences, List.map_cons, keys_entries]
  exact List.nodup_iff_count.mp p.protocol.nodup_keys key

/-- What is known of a value that is no credential goes on to hold. -/
theorem lookup_of_ne (knows : Option Document → Prop) (h : p.Restated fs) {key : String}
    (hkey : key ∈ p.protocol.keys) (hne : key ≠ "credential")
    (hleave : ∀ d, IsAssumed key d → knows (some d) → knows none)
    (hknows : knows (lookup key (("type", .text p.protocol.scheme) :: p.entries))) :
    knows (lookup key fs) :=
  h.lookup knows hkey hleave (fun _ _ hagain => absurd hagain.1 hne) (occurrences_le p key) hknows

theorem type_eq (h : p.Restated fs) : lookup "type" fs = some (.text p.protocol.scheme) := by
  refine h.lookup_of_ne (· = some (.text p.protocol.scheme)) (p.protocol.mem_keys (by decide))
    (by decide) ?_ rfl
  intro d hd htext
  cases hd.eq_null (by decide)
  cases htext

theorem server_eq (h : p.Restated fs) : lookup "server" fs = some (.text p.server.display) := by
  refine h.lookup_of_ne (· = some (.text p.server.display)) (p.protocol.mem_keys (by decide))
    (by decide) ?_ ?_
  · intro d hd htext
    cases hd.eq_null (by decide)
    cases htext
  · cases p <;> rfl

theorem holdsCredential (h : p.Restated fs) :
    HoldsCredential p.credential (lookup "credential" fs) := by
  refine h.lookup (HoldsCredential p.credential) (p.protocol.mem_keys (by decide)) ?_ ?_
    (occurrences_le p _) ?_
  · intro d hd hholds
    cases hd.eq_null (by decide)
    cases hc : p.credential with
    | none => exact .inl rfl
    | some c =>
      rw [hc] at hholds
      obtain ⟨fs, hfs, -⟩ := hholds
      cases hfs
  · rintro d d' ⟨-, es, fs, rfl, rfl, hagain⟩ hd
    cases hc : p.credential with
    | none =>
      rw [hc] at hd
      rcases hd with hd | hd <;> cases hd
    | some c =>
      rw [hc] at hd
      obtain ⟨es, hes, hrestated⟩ := hd
      cases hes
      exact ⟨fs, rfl, hrestated.trans hagain⟩
  · have hentry : lookup "credential" (("type", .text p.protocol.scheme) :: p.entries) =
        some ((p.credential.map Credential.toDocument).getD .null) := by
      cases p <;> rfl
    rw [hentry]
    cases p.credential with
    | none => exact .inr rfl
    | some c => exact ⟨_, rfl, .same⟩

theorem userAgent_eq (h : p.Restated fs) (hkey : "user_agent" ∈ p.protocol.keys)
    {userAgent : Option String}
    (hentry : lookup "user_agent" (("type", .text p.protocol.scheme) :: p.entries) =
      some ((userAgent.map Document.text).getD .null)) :
    Document.optional text? (lookup "user_agent" fs) = some userAgent := by
  refine h.lookup_of_ne (fun o => Document.optional text? o = some userAgent) hkey (by decide) ?_ ?_
  · intro d hd hread
    cases hd.eq_null (by decide)
    exact hread
  · rw [hentry]
    cases userAgent <;> rfl

theorem holdsRest (h : p.Restated fs) : p.HoldsRest fs := by
  cases p with
  | socks4a server credential => trivial
  | socks5 server credential => trivial
  | http server credential userAgent =>
    exact h.userAgent_eq (show _ ∈ Protocol.http.keys by decide) rfl
  | https server credential userAgent verification =>
    refine ⟨h.userAgent_eq (show _ ∈ Protocol.https.keys by decide) rfl, ?_⟩
    refine h.lookup_of_ne
      (fun o => o.elim (some .disabled) Verification.ofDocument? = some verification)
      (show "certificate_verification" ∈ Protocol.https.keys by decide) (by decide) ?_
      verification.ofName?_display
    rintro d (rfl | ⟨h, -⟩ | ⟨-, rfl⟩) hd
    · cases hd
    · exact absurd h (by decide)
    · exact hd

end Restated

/-- The list of all settings in order is read as well. -/
theorem ofDocument?_list {p : Proxy} (hparse : Endpoint.parse p.server.display = .ok p.server) :
    ofDocument? (.list (.text p.protocol.scheme :: p.entries.map Prod.snd)) = some p := by
  have hread := Endpoint.ofDocument?_display hparse
  have hcredential (c : Option Credential) : Document.optional Credential.ofDocument?
      (some ((c.map Credential.toDocument).getD .null)) = some c := by
    cases c <;> rfl
  have htext (s : Option String) :
      Document.optional text? (some ((s.map Document.text).getD .null)) = some s := by
    cases s <;> rfl
  have hverification (v : Verification) : Verification.ofDocument? (.text v.display) = some v :=
    v.ofName?_display
  have hitems : ofDocument? (.list (.text p.protocol.scheme :: p.entries.map Prod.snd)) =
      ofItems? p.protocol (p.entries.map Prod.snd) := by
    simp [ofDocument?, text?, Protocol.ofName?_scheme]
  rw [hitems]
  cases p <;> dsimp only [Proxy.server, Proxy.credential, protocol, entries] at *
  · simp [ofItems?, hread, hcredential]
  · simp [ofItems?, hread, hcredential]
  · simp [ofItems?, hread, hcredential, htext]
  · simp [ofItems?, hread, hcredential, htext, hverification]

/-- The address of what is read is read from the key of the address. -/
theorem server_of_ofEntries? {protocol : Protocol} {fs : List (String × Document)} {p : Proxy}
    (h : ofEntries? protocol fs = some p) :
    ∃ d, lookup "server" fs = some d ∧ Endpoint.ofDocument? d = some p.server := by
  simp only [ofEntries?, Option.bind_eq_bind, Option.bind_eq_some_iff] at h
  obtain ⟨d, hd, server, hserver, credential, -, h⟩ := h
  refine ⟨d, hd, ?_⟩
  cases protocol with
  | socks4a =>
    cases h
    exact hserver
  | socks5 =>
    cases h
    exact hserver
  | http =>
    obtain ⟨userAgent, -, h⟩ := Option.bind_eq_some_iff.mp h
    cases h
    exact hserver
  | https =>
    obtain ⟨userAgent, -, h⟩ := Option.bind_eq_some_iff.mp h
    split at h
    · cases h
      exact hserver
    · obtain ⟨verification, -, h⟩ := Option.bind_eq_some_iff.mp h
      cases h
      exact hserver

/-- A proxy server is read back from the table that is written of it exactly if its address is read
back from its text. Then it is read from everything that says the same as the table, and from the
list of its settings in order. -/
theorem ofDocument?_restated (p : Proxy) :
    (ofDocument? p.toDocument = some p ↔ Endpoint.parse p.server.display = .ok p.server) ∧
      (Endpoint.parse p.server.display = .ok p.server →
        (∀ fs, p.Restated fs → ofDocument? (.table fs) = some p) ∧
          ofDocument? (.list (.text p.protocol.scheme :: p.entries.map Prod.snd)) = some p) := by
  have hrestated (hparse : Endpoint.parse p.server.display = .ok p.server)
      (fs : List (String × Document)) (h : p.Restated fs) : ofDocument? (.table fs) = some p :=
    ofDocument?_table hparse (h.isUnambiguous (Restated.occurrences_le p)) h.type_eq h.server_eq
      h.holdsCredential h.holdsRest
  refine ⟨⟨fun h => ?_, fun h => hrestated h _ .same⟩, fun h => ⟨hrestated h, ofDocument?_list h⟩⟩
  simp only [ofDocument?, toDocument, Option.bind_eq_bind, Option.bind_eq_some_iff] at h
  obtain ⟨_, -, _, -, _, -, _, -, h⟩ := h
  obtain ⟨d, hd, hserver⟩ := server_of_ofEntries? h
  rw [Restated.server_eq .same] at hd
  cases hd
  simp only [Endpoint.ofDocument?, text?, Option.bind_eq_bind, Option.bind_some] at hserver
  cases hparse : Endpoint.parse p.server.display with
  | error e =>
    rw [hparse] at hserver
    cases hserver
  | ok e =>
    rw [hparse] at hserver
    cases hserver
    rfl

/-- The keys of an HTTPS proxy in another order, a comment among them, and all left out that can
be. -/
theorem ofDocument?_restated_brief :
    let p : Proxy := .https (.domain "proxy.test" 443) (some ⟨"user", ""⟩) none .disabled
    let fs : List (String × Document) := [("comment", .integer 1),
      ("credential", .table [("user_name", .text "user")]), ("type", .text "https"),
      ("server", .text "proxy.test:443")]
    Endpoint.parse p.server.display = .ok p.server ∧ p.Restated fs ∧
      ofDocument? (.table fs) = some p := by
  intro p fs
  have hparse : Endpoint.parse p.server.display = .ok p.server := by decide
  have hcredential : Credential.Restated
      [("user_name", .text "user"), ("password", .text "")] [("user_name", .text "user")] :=
    .leaveOut (.reorder .same (.swap _ _ _)) (.inr (.inl ⟨rfl, rfl⟩))
  have hfs : p.Restated fs := by
    have hall : p.Restated [("certificate_verification", .text "disabled"),
        ("user_agent", .null),
        ("credential", .table [("user_name", .text "user"), ("password", .text "")]),
        ("type", .text "https"), ("server", .text "proxy.test:443")] := by
      refine .reorder .same ?_
      exact ((List.reverse_perm _).symm.trans (.cons _ (.cons _ (.cons _ (.swap _ _ _)))))
    have hbrief := Document.Restated.leaveOut (.leaveOut hall (.inr (.inr ⟨rfl, rfl⟩))) (.inl rfl)
    exact .add _ (.rewrite hbrief ⟨rfl, _, _, rfl, rfl, hcredential⟩) (by decide)
  exact ⟨hparse, hfs, ((ofDocument?_restated p).2 hparse).1 fs hfs⟩

end Proxy

end ProxyTunnel
