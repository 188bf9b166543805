import ProxyTunnel.Proxy.Link
import ProxyTunnel.Proofs.Http.Request

/-!
# How HTTP proxies read credentials

A reader for the other side (`authorize?`): it looks for the header `Proxy-Authorization` among the
lines of a request, and reads the token of the Basic scheme. Of the text that the token stands for,
the user name ends at the first colon and the rest is the password.

* `authorize?_of_toBytes`: the text arrives, so of all credentials that are the same text a server
  sees the one without a colon in its user name;
* `authorize?_toBytes`: just the credentials without a colon in the user name are recovered, and
  just those without any colon are sent like no other. Nothing keeps colons out of user names, and
  URLs can spell them (`authorize?_toBytes_colon`).
-/

namespace ProxyTunnel

open Text

/-- What stands before and behind the first colon. -/
def splitColon? : List Char → Option (List Char × List Char)
  | [] => none
  | c :: s => if c = ':' then some ([], s) else (splitColon? s).map fun p => (c :: p.1, p.2)

theorem splitColon?_append {user : List Char} (h : ':' ∉ user) (password : List Char) :
    splitColon? (user ++ ':' :: password) = some (user, password) := by
  induction user with
  | nil => rfl
  | cons c user ih =>
    rw [List.mem_cons, not_or] at h
    rw [List.cons_append, splitColon?, if_neg (Ne.symm h.1), ih h.2]
    rfl

namespace Credential

variable {c : Credential}

/-- The credential that a text presents: the user name ends at the first colon. -/
def ofPair? (s : List Char) : Option Credential :=
  (splitColon? s).map fun p => ⟨String.ofList p.1, String.ofList p.2⟩

theorem toList_pair (c : Credential) :
    c.pair.toList = c.userName.toList ++ ':' :: c.password.toList := by
  rw [pair, String.toList_append, String.toList_append, List.append_assoc]
  rfl

theorem ofPair?_pair (h : ':' ∉ c.userName.toList) : ofPair? c.pair.toList = some c := by
  rw [ofPair?, toList_pair, splitColon?_append h, Option.map_some, String.ofList_toList,
    String.ofList_toList]

/-- One of the credentials that are the same text has no colon in its user name. -/
theorem exists_colonFree (c : Credential) :
    ∃ c' : Credential, c'.pair = c.pair ∧ ':' ∉ c'.userName.toList := by
  have hcolon : ':' ∈ c.pair.toList := by
    rw [toList_pair]
    exact List.mem_append_right _ List.mem_cons_self
  obtain ⟨user, password, hpair, huser⟩ := List.eq_append_cons_of_mem hcolon
  refine ⟨⟨String.ofList user, String.ofList password⟩, ?_, by rwa [String.toList_ofList]⟩
  rw [← String.toList_inj, toList_pair, String.toList_ofList, String.toList_ofList, hpair]

/-- A colon is somewhere in a credential that is the same text as another. -/
theorem colon_mem_of_pair {c' : Credential} (hne : c' ≠ c) (hpair : c'.pair = c.pair) :
    ':' ∈ c.userName.toList ∨ ':' ∈ c.password.toList := by
  have hsame : c'.userName.toList = c.userName.toList →
      c'.password.toList = c.password.toList → c' = c := by
    rw [String.toList_inj, String.toList_inj]
    cases c
    cases c'
    rintro rfl rfl
    rfl
  rw [← String.toList_inj, toList_pair, toList_pair, List.append_eq_append_iff] at hpair
  -- One user name is the beginning of the other, and what is between them starts with a colon.
  obtain ⟨s, huser, hrest⟩ | ⟨s, huser, hrest⟩ := hpair
  · cases s with
    | nil => exact absurd (hsame (huser.trans (List.append_nil _)).symm (List.cons.inj hrest).2) hne
    | cons a s =>
      obtain ⟨rfl, -⟩ := List.cons.inj hrest
      exact .inl (huser ▸ List.mem_append_right _ List.mem_cons_self)
  · cases s with
    | nil => exact absurd (hsame (huser.trans (List.append_nil _)) (List.cons.inj hrest).2.symm) hne
    | cons a s =>
      obtain ⟨-, hpassword⟩ := List.cons.inj hrest
      exact .inr (hpassword ▸ List.mem_append_right _ List.mem_cons_self)

/-- Just the credentials without any colon are the same text as no other. -/
theorem exists_ne_pair :
    (∃ c' ≠ c, c'.pair = c.pair) ↔ ':' ∈ c.userName.toList ∨ ':' ∈ c.password.toList := by
  constructor
  · exact fun ⟨c', hne, hpair⟩ => colon_mem_of_pair hne hpair
  · rintro (h | h)
    · obtain ⟨s, t, hst⟩ := List.append_of_mem h
      refine ⟨⟨String.ofList s, String.ofList (t ++ ':' :: c.password.toList)⟩, ?_, ?_⟩
      · intro heq
        rw [← congrArg userName heq, String.toList_ofList] at hst
        exact absurd hst (by simp)
      · rw [← String.toList_inj, toList_pair, toList_pair, hst]
        simp
    · obtain ⟨s, t, hst⟩ := List.append_of_mem h
      refine ⟨⟨String.ofList (c.userName.toList ++ ':' :: s), String.ofList t⟩, ?_, ?_⟩
      · intro heq
        rw [← congrArg password heq, String.toList_ofList] at hst
        have hlength := congrArg List.length hst
        rw [List.length_append, List.length_cons] at hlength
        omega
      · rw [← String.toList_inj, toList_pair, toList_pair, hst]
        simp

end Credential

namespace Http

/-- What stands behind the name in a header of this kind. -/
def authorization? (line : Bytes) : Option Bytes :=
  (Utf8.encode "Proxy-Authorization: ").isPrefixOf? line

/-- The credential that the value of a header presents by the Basic scheme. -/
def readBasic? (value : Bytes) : Option Credential := do
  let token ← (Utf8.encode "Basic ").isPrefixOf? value
  let token ← (Utf8.decode token).toOption
  let bs ← Base64.decode? token.toList
  let pair ← (Utf8.decode bs).toOption
  Credential.ofPair? pair.toList

/-- The credential that the head of a request presents. -/
def authorize? (head : Bytes) : Option Credential :=
  ((cutLines head).1.findSome? authorization?).bind readBasic?

theorem readBasic?_basic (c : Credential) :
    readBasic? (Utf8.encode c.basic) = Credential.ofPair? c.pair.toList := by
  have htoken : (Utf8.encode "Basic ").isPrefixOf? (Utf8.encode c.basic) =
      some (Utf8.encode (String.ofList (Base64.encode (Utf8.encode c.pair)))) := by
    rw [List.isPrefixOf?_eq_some_iff_append_eq, Utf8.encode, Utf8.encode, ← Utf8.encodeChars_append,
      ← String.toList_append]
    rfl
  simp only [readBasic?, htoken, Utf8.decode_encode, Except.toOption, String.toList_ofList,
    Base64.decode?_encode, Option.bind_eq_bind, Option.bind_some]

namespace ConnectRequest

variable {r : ConnectRequest} {bytes : Bytes}

theorem authorization?_append (value : List Char) :
    authorization? (Utf8.encodeChars ("Proxy-Authorization: ".toList ++ value)) =
      some (Utf8.encodeChars value) := by
  rw [authorization?, List.isPrefixOf?_eq_some_iff_append_eq, Utf8.encodeChars_append]
  rfl

/-- Only a credential brings the header into a request, whatever target and user agent are. -/
theorem findSome?_sentLines (r : ConnectRequest) :
    r.sentLines.findSome? authorization? = r.credential.map fun c => Utf8.encode c.basic := by
  have hline : ∀ host : List Char, authorization?
      (Utf8.encodeChars ("CONNECT ".toList ++ host ++ " HTTP/1.1".toList)) = none := fun host => by
    rw [List.append_assoc, Utf8.encodeChars_append]
    rfl
  have hhost : ∀ host : List Char,
      authorization? (Utf8.encodeChars ("Host: ".toList ++ host)) = none := fun host => by
    rw [Utf8.encodeChars_append]
    rfl
  have hagent : ∀ agent : List Char,
      authorization? (Utf8.encodeChars ("User-Agent: ".toList ++ agent)) = none := fun agent => by
    rw [Utf8.encodeChars_append]
    rfl
  have hend : authorization? (Utf8.encodeChars []) = none := rfl
  obtain ⟨target, agent, credential⟩ := r
  cases agent <;> cases credential <;>
    simp only [sentLines, lines, List.map_append, List.map_cons, List.map_nil, Option.map_none,
      Option.map_some, Option.toList_none, Option.toList_some, List.findSome?_append,
      List.findSome?_cons, List.findSome?_nil, hline, hhost, hagent, hend, authorization?_append,
      Option.or_none, Option.none_or, Utf8.encode]

/-- A server is told the text of a credential. -/
theorem authorize?_of_toBytes (h : r.toBytes = .ok bytes) :
    authorize? bytes = r.credential.bind fun c => Credential.ofPair? c.pair.toList := by
  rw [authorize?, cutLines_of_toBytes h, findSome?_sentLines, Option.bind_map]
  exact congrArg _ (funext readBasic?_basic)

/-- A server that is sent a credential sees one that is the same text with a colon between user name
and password. It is the credential itself exactly if there is no colon in its user name. Another
credential is sent alike exactly if there is a colon in the user name or the password. -/
theorem authorize?_toBytes {c : Credential} (hc : r.credential = some c)
    (h : r.toBytes = .ok bytes) :
    (∃ seen, authorize? bytes = some seen ∧ seen.pair = c.pair ∧ ':' ∉ seen.userName.toList) ∧
      (authorize? bytes = some c ↔ ':' ∉ c.userName.toList) ∧
      ((∃ c' ≠ c, c'.basic = c.basic) ↔ ':' ∈ c.userName.toList ∨ ':' ∈ c.password.toList) := by
  obtain ⟨seen, hpair, hseen⟩ := c.exists_colonFree
  have hread : authorize? bytes = some seen := by
    rw [authorize?_of_toBytes h, hc, Option.bind_some, ← hpair, Credential.ofPair?_pair hseen]
  refine ⟨⟨seen, hread, hpair, hseen⟩, ⟨fun hown => ?_, fun hcolon => ?_⟩, ?_⟩
  · rw [hread, Option.some.injEq] at hown
    exact hown ▸ hseen
  · rw [authorize?_of_toBytes h, hc, Option.bind_some, Credential.ofPair?_pair hcolon]
  · simp only [basic_inj]
    exact Credential.exists_ne_pair

/-- A credential that is recovered although a colon is in its password. -/
theorem authorize?_toBytes_password :
    let c : Credential := ⟨"aladdin", "open:sesame"⟩
    ∃ bytes, (mk (.domain "h" 80) none (some c)).toBytes = .ok bytes ∧
      authorize? bytes = some c := by
  intro c
  have h : (mk (.domain "h" 80) none (some c)).toBytes = .ok _ := rfl
  exact ⟨_, h, (authorize?_toBytes rfl h).2.1.mpr (by decide)⟩

/-- A URL with a colon in its user name, for which a server sees another user name. That user's
credential is sent alike. -/
theorem authorize?_toBytes_colon :
    let c : Credential := ⟨"a:b", "c"⟩
    let other : Credential := ⟨"a", "b:c"⟩
    (Proxy.parse "http://a%3Ab:c@[::1]").toOption.bind Proxy.credential = some c ∧
      c ≠ other ∧ c.basic = other.basic ∧
      ∃ bytes, (mk (.domain "h" 80) none (some c)).toBytes = .ok bytes ∧
        authorize? bytes = some other := by
  intro c other
  have h : (mk (.domain "h" 80) none (some c)).toBytes = .ok _ := rfl
  refine ⟨by decide +kernel, by decide, basic_inj.mpr (by decide), _, h, ?_⟩
  rw [authorize?_of_toBytes h]
  decide

end ConnectRequest

end Http

end ProxyTunnel
