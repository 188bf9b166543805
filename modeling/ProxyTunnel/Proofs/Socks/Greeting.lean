import Mathlib.Data.Finset.Sort
import Mathlib.Data.Finset.Dedup
import ProxyTunnel.Proofs.Socks.Version5

/-!
# The greeting of SOCKS5 encodes a set of methods

The order of the methods does not matter, nor how often each occurs: what is sent is a function of
the set of them (`toBytes_ofMethods`). A server finds the end of the message by its count byte as
long as that can hold the count (`exists_readGreeting_iff`).

Methods that differ may have one code, for every code can be that of an unassigned method. Among
those that bytes stand for (`Method.IsCoded`) there is one for each code, and the greeting tells
exactly which of them are offered (`toBytes_eq_iff`).

`toBytes_canonical` is all of it.
-/

namespace ProxyTunnel.Socks5

/-- The method that its code stands for. -/
def Method.IsCoded (m : Method) : Prop := ∃ c, m = .ofCode c

theorem Method.IsCoded.ofCode_code {m : Method} (h : m.IsCoded) : .ofCode m.code = m := by
  obtain ⟨c, rfl⟩ := h
  rw [code_ofCode]

theorem Method.distinct_eq_dedup (ms : List Method) : distinct ms = ms.dedup := by
  induction ms with
  | nil => rfl
  | cons m ms ih =>
    rw [distinct]
    split <;> rename_i hm
    · rw [ih, List.dedup_cons_of_mem hm]
    · rw [ih, List.dedup_cons_of_notMem hm]

namespace Greeting

variable {ms ms' : List Method}

/-- The codes of a set of methods in ascending order, that of each method once. -/
def codes (methods : Finset Method) : Bytes := (methods.val.map Method.code).sort

theorem length_codes (methods : Finset Method) : (codes methods).length = methods.card := by
  rw [codes, Multiset.length_sort, Multiset.card_map, Finset.card_val]

theorem mem_codes {methods : Finset Method} {c : UInt8} :
    c ∈ codes methods ↔ ∃ m ∈ methods, m.code = c := by
  rw [codes, Multiset.mem_sort, Multiset.mem_map]
  rfl

/-- The greeting is a function of the set of methods. -/
theorem toBytes_ofMethods (ms : List Method) :
    (ofMethods ms).toBytes = 5 :: UInt8.ofNat ms.toFinset.card :: codes ms.toFinset := by
  have hcodes : codes ms.toFinset = ((Method.distinct ms).map Method.code).mergeSort := by
    rw [codes, List.toFinset_val, Multiset.map_coe, Multiset.coe_sort, Method.distinct_eq_dedup]
  have hcard : ((Method.distinct ms).map Method.code).length = ms.toFinset.card := by
    rw [List.length_map, Method.distinct_eq_dedup, List.card_toFinset]
  rw [hcodes, ← hcard]
  rfl

theorem offers_iff (ms : List Method) (m : Method) : (ofMethods ms).offers m = true ↔ m ∈ ms := by
  rw [offers, decide_eq_true_iff, ofMethods, Method.distinct_eq_dedup, List.mem_dedup]

/-! ## Reading the methods -/

/-- What is behind the methods that the count byte announces: the rest, and those of the methods
that it does not count. -/
theorem readGreeting_append (ms : List Method) (rest : Bytes) :
    ∃ methods, readGreeting ((ofMethods ms).toBytes ++ rest) =
      some (methods, (codes ms.toFinset).drop (ms.toFinset.card % 256) ++ rest) := by
  have hcount : (UInt8.ofNat ms.toFinset.card).toNat = ms.toFinset.card % 256 := UInt8.toNat_ofNat'
  have hle : ms.toFinset.card % 256 ≤ (codes ms.toFinset).length := by
    rw [length_codes]
    exact Nat.mod_le _ _
  rw [toBytes_ofMethods, List.cons_append, readGreeting, List.cons_append, field?, hcount,
    if_pos (by rw [List.length_append]; omega), List.drop_append_of_le_length hle]
  exact ⟨_, rfl⟩

/-- A server that reads as many methods as it is told is at the end of the message exactly if the
count byte can hold their number. -/
theorem exists_readGreeting_iff (ms : List Method) (rest : Bytes) :
    (∃ methods, readGreeting ((ofMethods ms).toBytes ++ rest) = some (methods, rest)) ↔
      ms.toFinset.card ≤ 255 := by
  obtain ⟨methods, hread⟩ := readGreeting_append ms rest
  have hlen := length_codes ms.toFinset
  rw [hread]
  constructor
  · rintro ⟨_, h⟩
    have hdrop := congrArg List.length (congrArg Prod.snd (Option.some.inj h))
    rw [List.length_append, List.length_drop] at hdrop
    dsimp only at hdrop
    omega
  · intro h
    rw [Nat.mod_eq_of_lt (by omega), List.drop_of_length_le (by omega)]
    exact ⟨methods, rfl⟩

/-! ## Methods that bytes stand for -/

theorem codes_strict (h : ∀ m ∈ ms, m.IsCoded) : (codes ms.toFinset).Pairwise (· < ·) := by
  have hnodup : (codes ms.toFinset).Nodup := by
    rw [← Multiset.coe_nodup, codes, Multiset.sort_eq]
    refine ms.toFinset.nodup.map_on fun m hm m' hm' hcode => ?_
    rw [← (h m (List.mem_toFinset.mp hm)).ofCode_code, hcode,
      (h m' (List.mem_toFinset.mp hm')).ofCode_code]
  have hle : (codes ms.toFinset).Pairwise (· ≤ ·) := Multiset.pairwise_sort _ _
  exact (hle.and hnodup).imp fun hab => UInt8.lt_of_le_of_ne hab.1 hab.2

theorem mem_codes_iff_offers (h : ∀ m ∈ ms, m.IsCoded) (c : UInt8) :
    c ∈ codes ms.toFinset ↔ (ofMethods ms).offers (.ofCode c) = true := by
  rw [mem_codes, offers_iff]
  constructor
  · rintro ⟨m, hm, rfl⟩
    rw [List.mem_toFinset] at hm
    rwa [(h m hm).ofCode_code]
  · intro hm
    exact ⟨.ofCode c, List.mem_toFinset.mpr hm, Method.code_ofCode c⟩

/-- Among such methods a code is enough to tell one. -/
theorem mem_of_code_mem (h : ∀ m ∈ ms, m.IsCoded) {m : Method} (hm : m.IsCoded)
    (hcode : m.code ∈ ms.map Method.code) : m ∈ ms := by
  obtain ⟨m', hm', heq⟩ := List.mem_map.mp hcode
  rwa [← hm.ofCode_code, ← heq, (h m' hm').ofCode_code]

/-- Two offers are sent as the same bytes exactly if they have the same codes. -/
theorem toBytes_eq_iff (h : ∀ m ∈ ms, m.IsCoded) (h' : ∀ m ∈ ms', m.IsCoded) :
    (ofMethods ms').toBytes = (ofMethods ms).toBytes ↔
      ∀ c, c ∈ ms'.map Method.code ↔ c ∈ ms.map Method.code := by
  have hmem (ms : List Method) (c : UInt8) : c ∈ codes ms.toFinset ↔ c ∈ ms.map Method.code := by
    simp only [mem_codes, List.mem_toFinset, List.mem_map]
  constructor
  · intro heq c
    rw [toBytes_ofMethods, toBytes_ofMethods] at heq
    rw [← hmem, ← hmem, (List.cons.inj (List.cons.inj heq).2).2]
  · intro heq
    have hset : ms'.toFinset = ms.toFinset := by
      ext m
      rw [List.mem_toFinset, List.mem_toFinset]
      constructor
      · intro hm
        exact mem_of_code_mem h (h' m hm) ((heq _).mp (List.mem_map_of_mem hm))
      · intro hm
        exact mem_of_code_mem h' (h m hm) ((heq _).mpr (List.mem_map_of_mem hm))
    rw [toBytes_ofMethods, toBytes_ofMethods, hset]

/-- The greeting is the canonical encoding of the set of methods: version, count, and codes in
ascending order. -/
theorem toBytes_canonical (ms : List Method) :
    let g := ofMethods ms
    let n := ms.toFinset.card
    let codes := (ms.toFinset.val.map Method.code).sort
    g.toBytes = 5 :: UInt8.ofNat n :: codes ∧ (UInt8.ofNat n).toNat = n % 256 ∧
      g.toBytes.length = g.size ∧
      (∀ ms' : List Method, (∀ m, m ∈ ms' ↔ m ∈ ms) → (ofMethods ms').toBytes = g.toBytes) ∧
      (∀ m, g.offers m = true ↔ m ∈ ms) ∧
      (∀ rest, (∃ methods, readGreeting (g.toBytes ++ rest) = some (methods, rest)) ↔ n ≤ 255) ∧
      ((∀ m ∈ ms, m.IsCoded) → codes.Pairwise (· < ·) ∧
        (∀ c, c ∈ codes ↔ g.offers (.ofCode c) = true) ∧
        ∀ ms' : List Method, (∀ m ∈ ms', m.IsCoded) →
          ((ofMethods ms').toBytes = g.toBytes ↔
            ∀ c, c ∈ ms'.map Method.code ↔ c ∈ ms.map Method.code)) := by
  intro g n codes
  refine ⟨toBytes_ofMethods ms, UInt8.toNat_ofNat', length_toBytes g, fun ms' hms' => ?_,
    offers_iff ms, exists_readGreeting_iff ms, fun h => ⟨codes_strict h, mem_codes_iff_offers h,
      fun ms' h' => toBytes_eq_iff h h'⟩⟩
  have hset : ms'.toFinset = ms.toFinset := by
    ext m
    rw [List.mem_toFinset, List.mem_toFinset, hms']
  rw [toBytes_ofMethods, hset, ← toBytes_ofMethods]

/-- Methods out of order and repeated are sent as those in order, and not as two of which one is
another. -/
theorem toBytes_canonical_repeated :
    let ms : List Method := [.userPassword, .noAuthentication, .userPassword]
    (∀ m ∈ ms, m.IsCoded) ∧
      (ofMethods [.noAuthentication, .userPassword]).toBytes = (ofMethods ms).toBytes ∧
      (ofMethods [.noAuthentication, .unassigned 3]).toBytes ≠ (ofMethods ms).toBytes := by
  intro ms
  have hfree : Method.IsCoded .noAuthentication := ⟨0, rfl⟩
  have hpassword : Method.IsCoded .userPassword := ⟨2, rfl⟩
  have hthree : Method.IsCoded (.unassigned 3) := ⟨3, rfl⟩
  have hcoded : ∀ m ∈ ms, m.IsCoded := by simp [ms, hfree, hpassword]
  obtain ⟨-, -, -, -, -, -, hmethods⟩ := toBytes_canonical ms
  have hiff := (hmethods hcoded).2.2
  refine ⟨hcoded, (hiff _ (by simp [hfree, hpassword])).mpr fun c => ?_, fun h => ?_⟩
  · simp only [ms, List.map_cons, List.map_nil, List.mem_cons, Method.code]
    tauto
  · exact absurd (((hiff _ (by simp [hfree, hthree])).mp h) 3) (by decide)

end Greeting

end ProxyTunnel.Socks5
