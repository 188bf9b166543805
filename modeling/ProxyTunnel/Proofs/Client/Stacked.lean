import ProxyTunnel.Proofs.Client.Connector
import ProxyTunnel.Proofs.Stream.Order
import ProxyTunnel.Proofs.Stream.Saying

/-!
# Tunnels inside tunnels

To connect through proxies one inside the tunnel of another is to call their handshakes one after
another on the bare stream, as long as no layer in between changes the bytes.

* `connectEach_eq`: the outcomes, and what is left of the carrier, on every carrier;
* `connectEach_hops`: the same for scripted streams; and if all succeed, then what is read from the
  outermost tunnel is what follows the last reply, and what is written to it reaches the stream.
-/

namespace ProxyTunnel

open Conversation Text

section

variable {σ : Type}

/-- What a client does that calls the handshake with a proxy server by itself, on a bare stream. -/
def Proxy.call [Carrier σ] (target : Endpoint) (s : σ) : Proxy → Outcome HandshakeError Unit × σ
  | .socks4a _ none => (handshakeSocks4 target []).run 0 s
  | .socks4a _ (some credential) =>
    (handshakeSocks4 target (Utf8.encode credential.userName)).run 0 s
  | .socks5 _ credential =>
    let (o, s) := (handshakeSocks5 target credential).run 0 s
    (o.map fun _ => (), s)
  | .http _ credential userAgent | .https _ credential userAgent _ =>
    (handshakeHttp target credential userAgent).run 0 s

/-- Calls handshakes one after another up to the first that fails: all outcomes in order. -/
def callEach [Carrier σ] : List (Proxy × Endpoint) → σ → List (Outcome HandshakeError Unit) × σ
  | [], s => ([], s)
  | (proxy, target) :: way, s =>
    match proxy.call target s with
    | (.ok (), s) =>
      let (os, s) := callEach way s
      (.ok () :: os, s)
    | (o, s) => ([o], s)

/-- Connects through proxies, each inside the tunnel of the one before, up to the first that fails:
all outcomes in order. -/
def connectEach [SessionCarrier σ] :
    List (Proxy × Endpoint) → Tunnel σ → List (Outcome ClientError Unit) × Tunnel σ
  | [], t => ([], t)
  | (proxy, target) :: way, t =>
    match connect proxy target t with
    | (.ok (), t) =>
      let (os, t) := connectEach way t
      (.ok () :: os, t)
    | (o, t) => ([o], t)

/-- The outcome of a handshake as the connector reports it. -/
def inContext (hop : Proxy × Endpoint) (o : Outcome HandshakeError Unit) :
    Outcome ClientError Unit :=
  o.mapError (.handshake hop.1.protocol hop.1.server)

/-- Every proxy is asked for the server of the next one, and the last one for the target. -/
theorem hops_eq_zip (target : Endpoint) (proxies : List Proxy) :
    hops target proxies = proxies.zip (proxies.tail.map Proxy.server ++ [target]) := by
  fun_induction hops target proxies with
  | case1 => rfl
  | case2 proxy => rfl
  | case3 proxy next proxies ih =>
    rw [ih]
    rfl

/-- All outcomes tell what `connectAll` ends with. -/
theorem connectAll_eq [SessionCarrier σ] (way : List (Proxy × Endpoint)) (t : Tunnel σ) :
    connectAll way t = ((connectEach way t).1.getLastD (.ok ()), (connectEach way t).2) := by
  induction way generalizing t with
  | nil => rfl
  | cons hop way ih =>
    obtain ⟨proxy, target⟩ := hop
    rw [connectAll, connectEach]
    rcases connect proxy target t with ⟨_ | e | _, t'⟩
    · show connectAll way t' = _
      rw [ih]
      cases hos : (connectEach way t').1 <;> simp [hos]
    · rfl
    · rfl

theorem run_handshake [Carrier σ] (proxy : Proxy) (target : Endpoint) (s : σ) :
    (proxy.handshake target).run 0 s = proxy.call target s := by
  cases proxy with
  | socks4a server credential => cases credential <;> rfl
  | socks5 server credential =>
    rw [Proxy.handshake, Proxy.call, run_bind]
    rcases (handshakeSocks5 target credential).run 0 s with ⟨_ | _ | _, s'⟩ <;> rfl
  | http server credential userAgent => rfl
  | https server credential userAgent verification => rfl

variable [SessionCarrier σ] {t : Tunnel σ}

/-- Without a session of its own, a proxy is asked on the bytes that the tunnel carries. -/
theorem connect_plain {proxy : Proxy} (hp : proxy.protocol ≠ .https) (target : Endpoint)
    (ht : t.level = 0) :
    connect proxy target t = (inContext (proxy, target) (proxy.call target t.carrier).1,
      ⟨(proxy.call target t.carrier).2, .plain :: t.layers⟩) := by
  have hopen : openLayer proxy t = (.ok (), t.push .plain) := by
    cases proxy with
    | https server credential userAgent verification => exact absurd rfl hp
    | _ => rfl
  have hlevel : (t.push .plain).level = 0 := by
    rw [← ht]
    simp [Tunnel.level, Tunnel.push]
  rw [connect_of_openLayer hopen, hlevel, run_handshake]
  rfl

/-- Outcomes and carrier are those of the same handshakes on the bare stream. -/
theorem connectEach_eq {way : List (Proxy × Endpoint)}
    (hway : ∀ hop ∈ way, hop.1.protocol ≠ .https) (ht : t.level = 0) :
    (connectEach way t).1 = List.zipWith inContext way (callEach way t.carrier).1 ∧
      (connectEach way t).2.carrier = (callEach way t.carrier).2 ∧
      (connectEach way t).2.level = 0 := by
  induction way generalizing t with
  | nil => exact ⟨rfl, rfl, ht⟩
  | cons hop way ih =>
    obtain ⟨proxy, target⟩ := hop
    have hplain := connect_plain (hway _ List.mem_cons_self) target ht
    have hlevel (s : σ) : (⟨s, .plain :: t.layers⟩ : Tunnel σ).level = 0 := by
      rw [← ht]
      simp [Tunnel.level]
    rw [connectEach, callEach, hplain]
    rcases proxy.call target t.carrier with ⟨_ | e | _, s⟩
    · obtain ⟨hos, hcarrier, hlevel'⟩ :=
        ih (t := ⟨s, .plain :: t.layers⟩) (fun hop h => hway hop (List.mem_cons_of_mem _ h))
          (hlevel s)
      refine ⟨?_, hcarrier, hlevel'⟩
      exact congrArg (Outcome.ok () :: ·) hos
    · exact ⟨by simp [inContext, Outcome.mapError], rfl, hlevel s⟩
    · exact ⟨by simp [inContext, Outcome.mapError], rfl, hlevel s⟩

/-- What holds between the states before and behind every operation holds between those before and
behind all calls. -/
theorem callEach_related {σ : Type} [Carrier σ] {R : σ → σ → Prop} (hR : Carrier.Respects 0 R)
    (way : List (Proxy × Endpoint)) (s : σ) : R s (callEach way s).2 := by
  induction way generalizing s with
  | nil => exact hR.refl s
  | cons hop way ih =>
    obtain ⟨proxy, target⟩ := hop
    have hcall : R s (proxy.call target s).2 := by
      rw [← run_handshake]
      exact hR.run (proxy.handshake target) s
    rw [callEach]
    generalize proxy.call target s = step at hcall ⊢
    rcases step with ⟨_ | e | _, s'⟩
    · exact hR.trans hcall (ih s')
    · exact hcall
    · exact hcall

/-- What is done on a tunnel is done on its carrier, on the level of the innermost session. -/
theorem run_tunnel (use : Use) (t : Tunnel σ) :
    use.run 0 t = ((use.run t.level t.carrier).1,
      { t with carrier := (use.run t.level t.carrier).2 }) := by
  cases use <;> rfl

theorem runAll_level (uses : List Use) (t : Tunnel σ) :
    Use.runAll 0 uses t = ((Use.runAll t.level uses t.carrier).1,
      { t with carrier := (Use.runAll t.level uses t.carrier).2 }) := by
  induction uses generalizing t with
  | nil => rfl
  | cons use uses ih =>
    rw [Use.runAll, Use.runAll, run_tunnel]
    dsimp only
    rw [ih]
    rfl

/-- What is done on a tunnel without sessions is done on its carrier. -/
theorem runAll_tunnel (uses : List Use) (ht : t.level = 0) :
    Use.runAll 0 uses t = ((Use.runAll 0 uses t.carrier).1,
      { t with carrier := (Use.runAll 0 uses t.carrier).2 }) := by
  rw [runAll_level, ht]

end

/-! ## Scripted streams -/

/-- Proxies put one inside the tunnel of another are the same handshakes one after another on the
bare stream. The outermost tunnel goes on where the last of them stopped. -/
theorem connectEach_hops (target : Endpoint) {proxies : List Proxy}
    (hproxies : ∀ proxy ∈ proxies, proxy.protocol ≠ .https) (s : Script) :
    let way := hops target proxies
    let calls := callEach way s
    let stack := connectEach way (⟨s, []⟩ : Tunnel Script)
    connectAll way (⟨s, []⟩ : Tunnel Script) = (stack.1.getLastD (.ok ()), stack.2) ∧
      stack.1 = List.zipWith inContext way calls.1 ∧ stack.2.carrier = calls.2 ∧
      ((∀ o ∈ calls.1, o = .ok ()) →
        ∃ got put, s.Carries got put calls.2 ∧
          (∀ uses, Use.runAll 0 uses stack.2 = ((Use.runAll 0 uses calls.2).1,
            { stack.2 with carrier := (Use.runAll 0 uses calls.2).2 })) ∧
          (∀ uses, calls.2.Carries ((Use.runAll 0 uses stack.2).1.flatMap Event.got)
            ((Use.runAll 0 uses stack.2).1.flatMap Event.put)
            (Use.runAll 0 uses stack.2).2.carrier) ∧
          ∀ S, s.Says S → ∃ rest, S = got ++ rest ∧
            (∀ n ≤ rest.length, ∀ atEnd, ∃ v,
              (Carrier.receive 0 n atEnd stack.2).1 = .ok v ∧ v.toList = rest.take n) ∧
            ∀ n > rest.length, ∀ atEnd, (Carrier.receive 0 n atEnd stack.2).1 = .error atEnd) := by
  intro way calls stack
  have hway : ∀ hop ∈ way, hop.1.protocol ≠ .https := by
    intro hop hhop
    have hzip : hop ∈ proxies.zip (proxies.tail.map Proxy.server ++ [target]) := by
      rwa [← hops_eq_zip]
    exact hproxies hop.1 (List.of_mem_zip hzip).1
  obtain ⟨hos, hcarrier, hlevel⟩ := connectEach_eq (t := (⟨s, []⟩ : Tunnel Script)) hway rfl
  have huses (uses : List Use) : Use.runAll 0 uses stack.2 = ((Use.runAll 0 uses calls.2).1,
      { stack.2 with carrier := (Use.runAll 0 uses calls.2).2 }) := by
    rw [runAll_tunnel uses hlevel, hcarrier]
  have hreceive (n : Nat) (atEnd : Fault) :
      (Carrier.receive 0 n atEnd stack.2).1 = (Carrier.receive 0 n atEnd calls.2).1 := by
    show (Carrier.receive (stack.2.level + 0) n atEnd stack.2.carrier).1 = _
    rw [hlevel, hcarrier]
  refine ⟨connectAll_eq way _, hos, hcarrier, fun _ => ?_⟩
  obtain ⟨got, put, hcarries⟩ := callEach_related Script.carries_respects way s
  refine ⟨got, put, hcarries, huses, fun uses => ?_, fun S hS => ?_⟩
  · rw [huses]
    exact Script.runAll_carries uses calls.2
  · obtain ⟨rest, rfl, hrest⟩ := hcarries.remains hS
    refine ⟨rest, rfl, fun n hn atEnd => ?_, fun n hn atEnd => ?_⟩
    · obtain ⟨v, left, rfl⟩ := exists_block hn
      obtain ⟨s', hreceived, -⟩ := hrest.receive_append atEnd
      refine ⟨v, ?_, (List.take_left' v.length_toList).symm⟩
      rw [hreceive, hreceived]
    · obtain ⟨s', hreceived, -⟩ := hrest.receive_short hn atEnd
      rw [hreceive, hreceived]

/-- A SOCKS5 server behind a SOCKS4a server: the byte behind both replies is the first one of the
tunnel. -/
theorem connectEach_hops_socks :
    let proxies : List Proxy := [.socks4a (.socket (.v4 ⟨10, 0, 0, 1⟩ 1080)) none,
      .socks5 (.socket (.v4 ⟨10, 0, 0, 2⟩ 1080)) none]
    let s : Script :=
      { items := [.data [0, 0x5A, 0, 0, 0, 0, 0, 0, 5],
          .data [0, 5, 0, 0, 1, 0, 0, 0, 0, 0, 0, 42]] }
    let stack := connectAll (hops (.socket (.v4 ⟨10, 0, 0, 3⟩ 80)) proxies) ⟨s, []⟩
    (∀ proxy ∈ proxies, proxy.protocol ≠ .https) ∧ stack.1 = .ok () ∧
      ∃ v, (Carrier.receive 0 1 .earlyEnd stack.2).1 = .ok v ∧ v.toList = [42] := by
  intro proxies s stack
  have hproxies : ∀ proxy ∈ proxies, proxy.protocol ≠ .https := by simp [proxies, Proxy.protocol]
  have hs : s.Says [0, 0x5A, 0, 0, 0, 0, 0, 0, 5, 0, 5, 0, 0, 1, 0, 0, 0, 0, 0, 0, 42] :=
    ⟨.data _ (.data _ .nil), nofun, rfl, rfl⟩
  have hcalls : (callEach (hops (.socket (.v4 ⟨10, 0, 0, 3⟩ 80)) proxies) s).1 =
      [.ok (), .ok ()] := by decide +kernel
  have hconsumed :
      (callEach (hops (.socket (.v4 ⟨10, 0, 0, 3⟩ 80)) proxies) s).2.consumed = 20 := by
    decide +kernel
  obtain ⟨hall, hos, -, hbehind⟩ :=
    connectEach_hops (.socket (.v4 ⟨10, 0, 0, 3⟩ 80)) hproxies s
  rw [hos, hcalls] at hall
  have hstack : stack = (.ok (), _) := hall
  obtain ⟨got, put, hcarries, -, -, hremains⟩ := hbehind (by simp [hcalls])
  obtain ⟨rest, hrest, hreceive, -⟩ := hremains _ hs
  have hgot : got.length = 20 := by
    have := hcarries.consumed.symm.trans hconsumed
    simpa [s] using this
  have hbyte : [42] = rest := by
    have := congrArg (List.drop 20) hrest
    rwa [List.drop_left' hgot] at this
  subst hbyte
  obtain ⟨v, hv, hlist⟩ := hreceive 1 (Nat.le_refl 1) .earlyEnd
  refine ⟨hproxies, ?_, v, ?_, hlist⟩
  · rw [hstack]
  · rw [hstack]
    exact hv

end ProxyTunnel
