import ProxyTunnel.Net.Ipv6

/-!
# Numbers and addresses as bytes

Port numbers, IPv4 and IPv6 addresses are sent as blocks of two, four and sixteen bytes. Every such
block is the form of exactly one number or address:

* `Word.bytes_ofBytes`, `Word.ofBytes_bytes`: two bytes and the number they make;
* `Ipv4.bytes_ofVector`, `Ipv6.bytes_ofVector`: the address of a block is written as that block;
* `Word.bytes_injective`, `Ipv4.bytes_injective`, `Ipv6.bytes_injective`: no two are written alike.
-/

namespace ProxyTunnel

namespace Net

theorem exists_two (v : Vector UInt8 2) : ∃ a b, v = #v[a, b] := by
  rcases v with ⟨⟨bs⟩, h⟩
  match bs, h with
  | [a, b], _ => exact ⟨a, b, rfl⟩

theorem exists_four (v : Vector UInt8 4) : ∃ a b c d, v = #v[a, b, c, d] := by
  rcases v with ⟨⟨bs⟩, h⟩
  match bs, h with
  | [a, b, c, d], _ => exact ⟨a, b, c, d, rfl⟩

namespace Word

theorem toNat_ofBytes (hi lo : UInt8) : (ofBytes hi lo).toNat = hi.toNat * 256 + lo.toNat := by
  have h₁ := hi.toNat_lt
  have h₂ := lo.toNat_lt
  simp only [ofBytes, UInt16.toNat_ofNat']
  omega

theorem bytes_ofBytes (hi lo : UInt8) : bytes (ofBytes hi lo) = [hi, lo] := by
  have h₁ := hi.toNat_lt
  have h₂ := lo.toNat_lt
  simp only [bytes, toNat_ofBytes, List.cons.injEq, and_true]
  constructor <;> apply UInt8.toNat_inj.mp <;> simp only [UInt8.toNat_ofNat'] <;> omega

theorem ofBytes_bytes (w : UInt16) :
    ofBytes (UInt8.ofNat (w.toNat / 256)) (UInt8.ofNat w.toNat) = w := by
  have h := w.toNat_lt
  apply UInt16.toNat_inj.mp
  simp only [toNat_ofBytes, UInt8.toNat_ofNat']
  omega

theorem bytes_injective {w w' : UInt16} (h : bytes w = bytes w') : w = w' := by
  simp only [bytes, List.cons.injEq, and_true] at h
  rw [← ofBytes_bytes w, ← ofBytes_bytes w', h.1, h.2]

theorem flatMap_bytes_injective {ws ws' : List UInt16} (h : ws.flatMap bytes = ws'.flatMap bytes) :
    ws = ws' := by
  induction ws generalizing ws' with
  | nil =>
    cases ws' with
    | nil => rfl
    | cons w' ws' => simp [bytes] at h
  | cons w ws ih =>
    cases ws' with
    | nil => simp [bytes] at h
    | cons w' ws' =>
      rw [List.flatMap_cons, List.flatMap_cons] at h
      obtain ⟨h₁, h₂⟩ := List.append_inj h rfl
      rw [bytes_injective h₁, ih h₂]

end Word

end Net

open Net

theorem Ipv4.bytes_ofVector (v : Vector UInt8 4) : (ofVector v).bytes = v.toList := by
  rcases v with ⟨⟨bs⟩, h⟩
  match bs, h with
  | [_, _, _, _], _ => rfl

theorem Ipv4.bytes_injective {ip ip' : Ipv4} (h : ip.bytes = ip'.bytes) : ip = ip' := by
  cases ip; cases ip'
  simpa [bytes] using h

theorem Ipv6.bytes_ofVector (v : Vector UInt8 16) : (ofVector v).bytes = v.toList := by
  rcases v with ⟨⟨bs⟩, h⟩
  match bs, h with
  | [_, _, _, _, _, _, _, _, _, _, _, _, _, _, _, _], _ =>
    simp [bytes, ofVector, Word.bytes_ofBytes]

theorem Ipv6.bytes_injective {ip ip' : Ipv6} (h : ip.bytes = ip'.bytes) : ip = ip' := by
  obtain ⟨gs, _⟩ := ip
  obtain ⟨gs', _⟩ := ip'
  cases Word.flatMap_bytes_injective (show gs.flatMap _ = gs'.flatMap _ from h)
  rfl

end ProxyTunnel
