import ProxyTunnel.Socks.Version4
import ProxyTunnel.Proofs.Net.Octets
import ProxyTunnel.Proofs.Text.Utf8

/-!
# How SOCKS4a servers read requests

A reader of requests written for the other side (`serve`): version and command, port and address,
the user ID up to its zero byte, and a host name up to its own, but only if the address is one of
`0.0.0.x` with `x` not zero (`IsSentinel`).

* `eq_of_build`: what a request consists of;
* `serve_address`, `serve_host`: how its two forms are read, whatever follows;
* `serve_toBytes`: exactly which targets are read back.
-/

namespace ProxyTunnel.Socks4

open Text Net Socks

/-- The bytes up to the first zero byte, and what follows it. -/
def untilZero? : Bytes → Option (Bytes × Bytes)
  | [] => none
  | b :: bs => if b = 0 then some ([], bs) else (untilZero? bs).map fun p => (b :: p.1, p.2)

theorem untilZero?_append {xs : Bytes} (h : 0 ∉ xs) (rest : Bytes) :
    untilZero? (xs ++ 0 :: rest) = some (xs, rest) := by
  induction xs with
  | nil => rfl
  | cons b xs ih =>
    rw [List.mem_cons, not_or] at h
    rw [List.cons_append, untilZero?, if_neg (Ne.symm h.1), ih h.2]
    rfl

/-- The addresses `0.0.0.x` with `x` not zero tell a server to expect a host name. -/
def IsSentinel (ip : Ipv4) : Prop := ip.a = 0 ∧ ip.b = 0 ∧ ip.c = 0 ∧ ip.d ≠ 0

instance (ip : Ipv4) : Decidable (IsSentinel ip) := inferInstanceAs (Decidable (_ ∧ _))

/-- What a server understands. -/
structure Reading where
  userId : Bytes
  target : Endpoint
  deriving DecidableEq, Repr

/-- What follows port and address: the user ID and, if the address says so, a host name. -/
def readRest (port : UInt16) (ip : Ipv4) (bs : Bytes) : Option (Reading × Bytes) := do
  let (userId, bs) ← untilZero? bs
  if IsSentinel ip then
    let (name, bs) ← untilZero? bs
    let name ← (Utf8.decode name).toOption
    some (⟨userId, .domain name port⟩, bs)
  else some (⟨userId, .socket (.v4 ip port)⟩, bs)

/-- How a server reads a request: what it understands, and the bytes behind the request. -/
def serve (bs : Bytes) : Option (Reading × Bytes) :=
  match bs with
  | version :: command :: hi :: lo :: a :: b :: c :: d :: bs =>
    if version = 4 ∧ command = 1 then readRest (Word.ofBytes hi lo) ⟨a, b, c, d⟩ bs else none
  | _ => none

theorem serve_append (port : UInt16) (ip : Ipv4) (bs : Bytes) :
    serve ([Version.v4.code, 1] ++ Word.bytes port ++ (ip.bytes ++ bs)) = readRest port ip bs := by
  show (if (4 : UInt8) = 4 ∧ (1 : UInt8) = 1 then
    readRest (Word.ofBytes _ _) ⟨ip.a, ip.b, ip.c, ip.d⟩ bs else none) = _
  rw [if_pos ⟨rfl, rfl⟩, Word.ofBytes_bytes]

theorem readRest_of_sentinel {ip : Ipv4} (hip : IsSentinel ip) {userId : Bytes} (hid : 0 ∉ userId)
    (port : UInt16) (bs : Bytes) :
    readRest port ip (userId ++ 0 :: bs) =
      (untilZero? bs).bind fun p => (Utf8.decode p.1).toOption.bind fun name =>
        some (⟨userId, .domain name port⟩, p.2) := by
  rw [readRest, untilZero?_append hid]
  exact if_pos hip

theorem readRest_of_not_sentinel {ip : Ipv4} (hip : ¬IsSentinel ip) {userId : Bytes}
    (hid : 0 ∉ userId) (port : UInt16) (rest : Bytes) :
    readRest port ip (userId ++ 0 :: rest) = some (⟨userId, .socket (.v4 ip port)⟩, rest) := by
  rw [readRest, untilZero?_append hid]
  exact if_neg hip

/-! ## Requests -/

/-- What a request is, and that none of its fields has a zero byte. -/
theorem eq_of_build {target : Endpoint} {userId : Bytes} {r : Request}
    (h : Request.build target userId = .ok r) :
    0 ∉ userId ∧
      ((∃ ip port, target.normalize = .socket (.v4 ip port) ∧ r = ⟨.address ip, port, userId⟩) ∨
        ∃ name port, target.normalize = .domain name port ∧ 0 ∉ Utf8.encode name ∧
          r = ⟨.host name, port, userId⟩) := by
  unfold Request.build at h
  split at h
  · cases h
  rename_i hid
  refine ⟨fun h₀ => hid (List.contains_iff_mem.mpr h₀), ?_⟩
  split at h
  · rename_i ip port ht
    cases h
    exact .inl ⟨ip, port, ht, rfl⟩
  · cases h
  · rename_i name port ht
    split at h
    · cases h
    · rename_i hname
      cases h
      exact .inr ⟨name, port, ht, fun h₀ => hname (List.contains_iff_mem.mpr h₀), rfl⟩

theorem serve_address (ip : Ipv4) (port : UInt16) (userId rest : Bytes) :
    serve ((Request.mk (.address ip) port userId).toBytes ++ rest) =
      readRest port ip (userId ++ 0 :: rest) := by
  rw [← serve_append, Request.toBytes]
  simp only [List.append_assoc, List.singleton_append]

theorem serve_host {name : String} (hname : 0 ∉ Utf8.encode name) (port : UInt16) {userId : Bytes}
    (hid : 0 ∉ userId) (rest : Bytes) :
    serve ((Request.mk (.host name) port userId).toBytes ++ rest) =
      some (⟨userId, .domain name port⟩, rest) := by
  have hbytes : (Request.mk (.host name) port userId).toBytes ++ rest =
      [Version.v4.code, 1] ++ Word.bytes port ++ (Request.hostFollows.bytes ++
        (userId ++ 0 :: (Utf8.encode name ++ 0 :: rest))) := by
    rw [Request.toBytes]
    simp only [List.append_assoc, List.cons_append, List.nil_append]
  rw [hbytes, serve_append, readRest_of_sentinel (by decide) hid, untilZero?_append hname]
  show (Utf8.decode (Utf8.encode name)).toOption.bind _ = _
  rw [Utf8.decode_encode]
  rfl

/-- A server reads back user ID and target and stops right behind the request, exactly unless the
target is one of the addresses that announce a host name. Then it takes the next bytes for that
name. -/
theorem serve_toBytes {target : Endpoint} {userId : Bytes} {r : Request}
    (h : Request.build target userId = .ok r) (rest : Bytes) :
    (serve (r.toBytes ++ rest) = some (⟨userId, target.normalize⟩, rest) ↔
      ¬∃ ip port, IsSentinel ip ∧ target.normalize = .socket (.v4 ip port)) ∧
    ∀ ip port, IsSentinel ip → target.normalize = .socket (.v4 ip port) →
      serve (r.toBytes ++ rest) =
        (untilZero? rest).bind fun p => (Utf8.decode p.1).toOption.bind fun name =>
          some (⟨userId, .domain name port⟩, p.2) := by
  obtain ⟨hid, ⟨ip, port, ht, rfl⟩ | ⟨name, port, ht, hname, rfl⟩⟩ := eq_of_build h
  · rw [ht, serve_address]
    by_cases hip : IsSentinel ip
    · rw [readRest_of_sentinel hip hid]
      refine ⟨⟨fun h => ?_, fun h => absurd ⟨ip, port, hip, rfl⟩ h⟩, ?_⟩
      · obtain ⟨p, -, h⟩ := Option.bind_eq_some_iff.mp h
        obtain ⟨name, -, h⟩ := Option.bind_eq_some_iff.mp h
        cases h
      · intro ip' port' _ he
        cases he
        rfl
    · rw [readRest_of_not_sentinel hip hid]
      refine ⟨⟨fun _ => ?_, fun _ => rfl⟩, fun ip' port' hip' he => ?_⟩
      · intro hs
        obtain ⟨ip', port', hip', he⟩ := hs
        cases he
        exact hip hip'
      · cases he
        exact absurd hip' hip
  · rw [ht, serve_host hname port hid]
    refine ⟨⟨fun _ hs => ?_, fun _ => rfl⟩, nofun⟩
    obtain ⟨ip, port', -, he⟩ := hs
    cases he

theorem serve_toBytes_literal :
    Request.build (.domain "10.0.0.7" 22) [65] = .ok ⟨.address ⟨10, 0, 0, 7⟩, 22, [65]⟩ ∧
      serve ((Request.mk (.address ⟨10, 0, 0, 7⟩) 22 [65]).toBytes ++ [1, 2]) =
        some (⟨[65], .socket (.v4 ⟨10, 0, 0, 7⟩ 22)⟩, [1, 2]) := by
  have h : Request.build (.domain "10.0.0.7" 22) [65] = .ok ⟨.address ⟨10, 0, 0, 7⟩, 22, [65]⟩ := by
    rfl
  refine ⟨h, (serve_toBytes h [1, 2]).1.mpr fun hs => ?_⟩
  obtain ⟨ip, port, hip, he⟩ := hs
  cases he
  exact absurd hip (by decide)

/-- The request for an address that announces a host name, with the first bytes of a tunnel behind
it. -/
theorem serve_toBytes_sentinel :
    Request.build (.socket (.v4 ⟨0, 0, 0, 5⟩ 80)) [] = .ok ⟨.address ⟨0, 0, 0, 5⟩, 80, []⟩ ∧
      serve ((Request.mk (.address ⟨0, 0, 0, 5⟩) 80 []).toBytes ++ [120, 0, 1]) =
        some (⟨[], .domain "x" 80⟩, [1]) := by
  refine ⟨rfl, ?_⟩
  decide

end ProxyTunnel.Socks4
