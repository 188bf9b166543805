import ProxyTunnel.Proofs.Net.Ipv4
import ProxyTunnel.Proofs.Net.Octets

/-!
# The texts of IPv6 addresses

Which texts stand for an address is said without regard to how they are read (`Spells`): eight
groups of one to four hexadecimal digits between colons, where the last two may be written as an
IPv4 address, and where a row of zero groups may be left out between two colons.

* `read?_append`: every text of an address is read as it, in front of anything that can not go on
  with it;
* `spells_chars`: the canonical text is one of them. That the row left out in it is one of zeros is
  `longestZeros_spec`;
* `exists_spells`: nothing else is read as an address.
-/

namespace ProxyTunnel.Ipv6

open Text Text.Numeral Net

variable {r s t : List Char} {g : UInt16} {gs : List UInt16} {dotted : Bool}

/-! ## Texts -/

/-- One to four hexadecimal digits stand for a group. -/
structure GroupText (g : UInt16) (ds : List Char) : Prop where
  ne_nil : ds ≠ []
  length_le : ds.length ≤ 4
  isDigit : ∀ c ∈ ds, isDigit 16 c = true
  value_eq : value 16 ds = g.toNat

/-- Groups with colons between them, the last two of which may be written as an IPv4 address. -/
inductive Row : List UInt16 → (dotted : Bool) → List Char → Prop
  | group {g : UInt16} {ds : List Char} (hg : GroupText g ds) : Row [g] false ds
  | dotted (ip : Ipv4) : Row (groupsOfIpv4 ip) true ip.chars
  | cons {g : UInt16} {gs : List UInt16} {ds s : List Char} {dotted : Bool} (hg : GroupText g ds)
      (more : Row gs dotted s) : Row (g :: gs) dotted (ds ++ ':' :: s)

/-- No groups, or a row of them. -/
inductive Part : List UInt16 → (dotted : Bool) → List Char → Prop
  | nil : Part [] false []
  | row {gs : List UInt16} {s : List Char} {dotted : Bool} (h : Row gs dotted s) : Part gs dotted s

/-- The text stands for the address: as a row of eight groups, or without a row of zero groups in
the place of which two colons stand. -/
inductive Spells (ip : Ipv6) : List Char → Prop
  | full {s : List Char} {dotted : Bool} (h : Row ip.groups dotted s) : Spells ip s
  | compressed {before behind : List UInt16} {s t : List Char} {dotted : Bool} (zeros : Nat)
      (hs : Part before false s) (ht : Part behind dotted t)
      (hgroups : ip.groups = before ++ List.replicate (zeros + 1) 0 ++ behind) :
      Spells ip (s ++ ':' :: ':' :: t)

/-! ## Where reading stops -/

/-- Reading groups stops in front of the text: no hexadecimal digit or dot goes on with the group in
front of it, and no further group stands behind a colon. -/
structure Stops (r : List Char) : Prop where
  digit : NoDigit 16 r
  dot : r.head? ≠ some '.'
  group : ∀ t, r = ':' :: t → NoDigit 16 t

/-- The text can not go on with an address. -/
def Closes (r : List Char) : Prop := ∀ c ∈ r.head?, isDigit 16 c = false ∧ c ≠ '.' ∧ c ≠ ':'

theorem closes_nil : Closes [] := nofun

theorem Closes.stops (h : Closes r) : Stops r where
  digit c hc := (h c hc).1
  dot hc := (h '.' hc).2.1 rfl
  group t ht := by
    subst ht
    exact absurd rfl (h ':' rfl).2.2

theorem stops_colons (s : List Char) : Stops (':' :: ':' :: s) where
  digit := noDigit_cons rfl _
  dot := by simp
  group t ht := by
    cases ht
    exact noDigit_cons rfl s

/-! ## Groups -/

theorem readGroup?_of_noDigit (h : NoDigit 16 s) : readGroup? s = none := by
  rw [readGroup?, digits_of_noDigit h, if_pos (Or.inl rfl)]

theorem GroupText.readGroup?_append {ds : List Char} (hg : GroupText g ds) (hr : NoDigit 16 r) :
    readGroup? (ds ++ r) = some (g, r) := by
  have haccepted : ¬(ds = [] ∨ 4 < ds.length) := not_or.mpr ⟨hg.ne_nil, hg.length_le.not_gt⟩
  rw [readGroup?, digits_append hg.isDigit hr, rest_append hg.isDigit hr, hg.value_eq,
    if_neg haccepted, UInt16.ofNat_toNat]

theorem exists_groupText (h : readGroup? s = some (g, r)) :
    ∃ ds, GroupText g ds ∧ s = ds ++ r := by
  simp only [readGroup?, Option.ite_none_left_eq_some, Option.some.injEq, Prod.mk.injEq, not_or,
    not_lt] at h
  obtain ⟨⟨hne, hlength⟩, rfl, rfl⟩ := h
  have hvalue : value 16 (digits 16 s) < 65536 :=
    Nat.lt_of_lt_of_le (value_lt (by decide) _)
      (Nat.pow_le_pow_right (show 16 > 0 by decide) hlength)
  refine ⟨digits 16 s, ⟨hne, hlength, fun _ => isDigit_of_mem_digits, ?_⟩,
    (digits_append_rest 16 s).symm⟩
  rw [UInt16.toNat_ofNat', Nat.mod_eq_of_lt hvalue]

theorem groupText_groupChars (g : UInt16) : GroupText g (groupChars g) where
  ne_nil := Nat.toDigits_ne_nil
  length_le := (Nat.length_toDigits_le_iff (by decide) (by decide)).mpr g.toNat_lt
  isDigit := isDigit_of_mem_toDigits (by decide) (by decide) _
  value_eq := value_toDigits (by decide) (by decide) _

theorem isDigit_sixteen_of_ten {c : Char} (h : isDigit 10 c = true) : isDigit 16 c = true := by
  obtain ⟨d, hd⟩ := Option.isSome_iff_exists.mp h
  obtain ⟨hlt, rfl⟩ := eq_digitChar_of_digit? hd
  rw [isDigit, digit?_digitChar (by decide) (by omega)]
  rfl

theorem noDigit_ten (h : NoDigit 16 s) : NoDigit 10 s := fun c hc =>
  Bool.eq_false_iff.mpr fun hdigit =>
    Bool.eq_false_iff.mp (h c hc) (isDigit_sixteen_of_ten hdigit)

/-- What is read as an IPv4 address starts with digits, and goes on with a dot. -/
theorem digits_of_read? {ip : Ipv4} (h : Ipv4.read? s = some (ip, r)) :
    digits 16 s ≠ [] ∧ (rest 16 s).head? = some '.' := by
  obtain ⟨rfl, -⟩ := Ipv4.read?_eq_some.mp h
  have hds : ∀ c ∈ Nat.toDigits 10 ip.a.toNat, isDigit 16 c = true := fun c hc =>
    isDigit_sixteen_of_ten (isDigit_of_mem_toDigits (by decide) (by decide) _ c hc)
  rw [Ipv4.chars, List.append_assoc, List.cons_append, digits_append hds (noDigit_cons rfl _),
    rest_append hds (noDigit_cons rfl _)]
  exact ⟨Nat.toDigits_ne_nil, rfl⟩

/-- Digits are not read as an IPv4 address if no dot follows them. -/
theorem read?_append_of_isDigit {ds : List Char} (hds : ∀ c ∈ ds, isDigit 16 c = true)
    (hr : NoDigit 16 r) (hdot : r.head? ≠ some '.') : Ipv4.read? (ds ++ r) = none := by
  refine Option.eq_none_iff_forall_ne_some.mpr fun ⟨ip, t⟩ h => hdot ?_
  rw [← (digits_of_read? h).2, rest_append hds hr]

theorem read?_of_noDigit (h : NoDigit 16 s) : Ipv4.read? s = none :=
  Option.eq_none_iff_forall_ne_some.mpr fun ⟨_, _⟩ hs =>
    (digits_of_read? hs).1 (digits_of_noDigit h)

/-! ## Rows of groups -/

theorem readGroups_of_stops (n : Nat) (hr : Stops r) : readGroups n false r = ⟨[], false, r⟩ := by
  cases n with
  | zero => rfl
  | succ n =>
    cases h : skip? ':' r with
    | none => simp [readGroups, h]
    | some t =>
      have ht := hr.group t (eq_cons_of_skip? h)
      simp [readGroups, h, read?_of_noDigit ht, readGroup?_of_noDigit ht]

/-- What stands in front of a row: nothing, or the colon that separates it from a group. -/
def lead (first : Bool) : List Char := if first then [] else [':']

/-- A group is read in front of what is read behind it. -/
theorem readGroups_group (n : Nat) (first : Bool) {ds : List Char} (hg : GroupText g ds)
    (hr : NoDigit 16 r) (hdot : r.head? ≠ some '.') :
    readGroups (n + 1) first (lead first ++ (ds ++ r)) =
      ⟨g :: (readGroups n false r).groups, (readGroups n false r).dotted,
        (readGroups n false r).rest⟩ := by
  cases first <;> simp [readGroups, lead, skip?_cons_self, hg.readGroup?_append hr,
    read?_append_of_isDigit hg.isDigit hr hdot]

theorem readGroups_row (h : Row gs dotted s) {n : Nat} (hn : gs.length ≤ n) (hr : Stops r)
    (first : Bool) : readGroups n first (lead first ++ (s ++ r)) = ⟨gs, dotted, r⟩ := by
  induction h generalizing n first with
  | group hg =>
    obtain ⟨n, rfl⟩ := Nat.exists_eq_add_one.mpr (Nat.zero_lt_of_lt hn)
    rw [readGroups_group n first hg hr.digit hr.dot, readGroups_of_stops n hr]
  | dotted ip =>
    obtain ⟨n, rfl⟩ := Nat.exists_eq_add_of_le' hn
    have hip : Ipv4.read? (ip.chars ++ r) = some (ip, r) :=
      Ipv4.read?_eq_some.mpr ⟨rfl, noDigit_ten hr.digit⟩
    cases first <;> simp [readGroups, lead, skip?_cons_self, hip, groupsOfIpv4]
  | cons hg more ih =>
    obtain ⟨n, rfl⟩ := Nat.exists_eq_add_one.mpr (Nat.zero_lt_of_lt hn)
    have hmore := ih (Nat.le_of_succ_le_succ hn) false
    rw [List.append_assoc, List.cons_append,
      readGroups_group n first hg (noDigit_cons rfl _) (by simp)]
    exact congrArg (fun m : Groups => Groups.mk (_ :: m.groups) m.dotted m.rest) hmore

theorem readGroups_part (h : Part gs dotted s) {n : Nat} (hn : gs.length ≤ n) (hr : Stops r) :
    readGroups n true (s ++ r) = ⟨gs, dotted, r⟩ := by
  cases h with
  | nil =>
    cases n with
    | zero => rfl
    | succ n => simp [readGroups, read?_of_noDigit hr.digit, readGroup?_of_noDigit hr.digit]
  | row h => exact readGroups_row h hn hr true

/-- What is read as groups is no group at all, or a row of them. -/
theorem row_of_readGroups {n : Nat} {first : Bool} (h : readGroups n first s = ⟨gs, dotted, r⟩) :
    gs.length ≤ n ∧ (gs = [] ∧ dotted = false ∧ r = s ∨
      ∃ t, Row gs dotted t ∧ s = lead first ++ (t ++ r)) := by
  induction n generalizing first s gs dotted r with
  | zero =>
    cases h
    exact ⟨Nat.le_refl _, .inl ⟨rfl, rfl, rfl⟩⟩
  | succ n ih =>
    rw [readGroups] at h
    split at h
    · cases h
      exact ⟨Nat.zero_le _, .inl ⟨rfl, rfl, rfl⟩⟩
    rename_i u hu
    have hlead : s = lead first ++ u := by
      cases first with
      | true => exact Option.some.inj hu
      | false => exact eq_cons_of_skip? hu
    split at h
    · rename_i ip v hip
      cases h
      rw [Option.ite_none_left_eq_some] at hip
      obtain ⟨hn, hip⟩ := hip
      obtain ⟨rfl, -⟩ := Ipv4.read?_eq_some.mp hip
      exact ⟨Nat.succ_le_succ (Nat.one_le_iff_ne_zero.mpr hn), .inr ⟨_, .dotted ip, hlead⟩⟩
    split at h
    · cases h
      exact ⟨Nat.zero_le _, .inl ⟨rfl, rfl, rfl⟩⟩
    rename_i g v hg
    obtain ⟨ds, htext, rfl⟩ := exists_groupText hg
    obtain ⟨hlength, hmore⟩ := ih (show readGroups n false v = ⟨_, _, _⟩ from rfl)
    cases h
    refine ⟨Nat.succ_le_succ hlength, .inr ?_⟩
    rcases hmore with ⟨hnil, hplain, hrest⟩ | ⟨t, hrow, hv⟩
    · rw [hnil, hplain, hrest]
      exact ⟨ds, .group htext, hlead⟩
    · refine ⟨_, .cons htext hrow, ?_⟩
      rw [hlead, List.append_assoc]
      exact congrArg (fun v => lead first ++ (ds ++ v)) hv

theorem part_of_readGroups {n : Nat} (h : readGroups n true s = ⟨gs, dotted, r⟩) :
    gs.length ≤ n ∧ ∃ t, Part gs dotted t ∧ s = t ++ r := by
  obtain ⟨hlength, ⟨rfl, rfl, rfl⟩ | ⟨t, hrow, hs⟩⟩ := row_of_readGroups h
  · exact ⟨hlength, [], .nil, rfl⟩
  · exact ⟨hlength, t, .row hrow, hs⟩

/-! ## Addresses -/

theorem ofGroups?_groups (ip : Ipv6) : ofGroups? ip.groups = some ip := dif_pos ip.length_eq

theorem groups_of_ofGroups? {ip : Ipv6} (h : ofGroups? gs = some ip) : ip.groups = gs := by
  rw [ofGroups?, Option.dite_none_right_eq_some] at h
  obtain ⟨_, h⟩ := h
  cases h
  rfl

/-- Every text of an address is read as it. -/
theorem read?_append {ip : Ipv6} (h : Spells ip s) (hr : Closes r) :
    read? (s ++ r) = some (ip, r) := by
  cases h with
  | full h =>
    rw [read?, readGroups_part (.row h) ip.length_eq.le hr.stops, if_pos ip.length_eq,
      ofGroups?_groups]
    rfl
  | @compressed before behind s t dotted zeros hs ht hgroups =>
    have hlength : before.length + (zeros + 1) + behind.length = 8 := by
      rw [← ip.length_eq, hgroups]
      simp only [List.length_append, List.length_replicate]
    have hzeros : 8 - before.length - behind.length = zeros + 1 := by omega
    have hip : ofGroups? (before ++ (List.replicate (zeros + 1) 0 ++ behind)) = some ip := by
      rw [← List.append_assoc, ← hgroups, ofGroups?_groups]
    rw [List.append_assoc, List.cons_append, List.cons_append, read?,
      readGroups_part hs (n := 8) (by omega) (stops_colons (t ++ r)), if_neg (by simp; omega)]
    simp [skip?_cons_self, readGroups_part ht (n := 7 - before.length) (by omega) hr.stops, hzeros,
      hip]

/-- What is read as an address is one of its texts. -/
theorem exists_spells {ip : Ipv6} (h : read? s = some (ip, r)) :
    ∃ t, Spells ip t ∧ s = t ++ r := by
  rcases hhead : readGroups 8 true s with ⟨before, dotted, rest⟩
  obtain ⟨hbefore, t, hpart, rfl⟩ := part_of_readGroups hhead
  simp only [read?, hhead] at h
  split at h
  · obtain ⟨ip, hip, h⟩ := Option.map_eq_some_iff.mp h
    cases h
    cases hpart with
    | nil => contradiction
    | row hrow => exact ⟨t, .full (groups_of_ofGroups? hip ▸ hrow), rfl⟩
  split at h
  · cases h
  rename_i hshort hplain
  simp only [Option.bind_eq_bind, Option.bind_eq_some_iff] at h
  obtain ⟨u, hu, v, hv, h⟩ := h
  obtain rfl := eq_cons_of_skip? hu
  obtain rfl := eq_cons_of_skip? hv
  rcases htail : readGroups (7 - before.length) true v with ⟨behind, dotted', rest⟩
  obtain ⟨hbehind, t', hpart', rfl⟩ := part_of_readGroups htail
  rw [htail] at h
  obtain ⟨ip, hip, h⟩ := Option.map_eq_some_iff.mp h
  cases h
  obtain ⟨zeros, hzeros⟩ : ∃ zeros, 8 - before.length - behind.length = zeros + 1 :=
    Nat.exists_eq_add_one.mpr (by omega)
  have hgroups := groups_of_ofGroups? hip
  rw [hzeros] at hgroups
  obtain rfl := Bool.eq_false_iff.mpr hplain
  exact ⟨_, .compressed zeros hpart hpart' hgroups, by simp⟩

/-! ## The row of zero groups -/

theorem leadingZeros_spec (gs : List UInt16) :
    ∃ t, gs = List.replicate (leadingZeros gs) 0 ++ t := by
  induction gs with
  | nil => exact ⟨[], rfl⟩
  | cons g gs ih =>
    rw [leadingZeros]
    split
    · rename_i hg
      obtain ⟨t, ht⟩ := ih
      refine ⟨t, ?_⟩
      rw [List.replicate_succ, List.cons_append, ← ht, hg]
    · exact ⟨g :: gs, rfl⟩

/-- The longest row of zero groups is a row of zero groups. -/
theorem longestZeros_spec {i start len : Nat} {gs : List UInt16}
    (h : longestZeros i gs = (start, len)) (hlen : 0 < len) :
    ∃ before behind, gs = before ++ List.replicate len 0 ++ behind ∧
      start = i + before.length := by
  induction gs generalizing i with
  | nil =>
    cases h
    omega
  | cons g gs ih =>
    rw [longestZeros] at h
    split at h
    · cases h
      obtain ⟨t, ht⟩ := leadingZeros_spec (g :: gs)
      exact ⟨[], t, ht, rfl⟩
    · obtain ⟨before, behind, hgs, hstart⟩ := ih h
      refine ⟨g :: before, behind, ?_, ?_⟩
      · rw [List.cons_append, List.cons_append, ← hgs]
      · rw [hstart, List.length_cons]
        omega

/-! ## The canonical text -/

theorem row_joinGroups (hgs : gs ≠ []) : Row gs false (joinGroups gs) := by
  fun_induction joinGroups gs with
  | case1 => exact absurd rfl hgs
  | case2 g => exact .group (groupText_groupChars g)
  | case3 g gs hne ih => exact .cons (groupText_groupChars g) (ih hne)

theorem part_joinGroups (gs : List UInt16) : Part gs false (joinGroups gs) := by
  cases gs with
  | nil => exact .nil
  | cons g gs => exact .row (row_joinGroups (List.cons_ne_nil g gs))

theorem groups_of_mapped? {ip : Ipv6} {ip4 : Ipv4} (h : mapped? ip = some ip4) :
    ip.groups = List.replicate 5 0 ++ 0xFFFF :: groupsOfIpv4 ip4 := by
  rw [mapped?] at h
  split at h
  · rename_i x y hgroups
    cases h
    rw [hgroups, groupsOfIpv4, Word.ofBytes_bytes, Word.ofBytes_bytes]
    rfl
  · cases h

/-- The text of an IPv4-mapped address has a group between the zeros left out and the IPv4
address. -/
theorem mappedChars (s : List Char) :
    "::ffff:".toList ++ s = [] ++ ':' :: ':' :: (groupChars 0xFFFF ++ ':' :: s) := by
  simp
  rfl

/-- The canonical text of an address is one of its texts. -/
theorem spells_chars (ip : Ipv6) : Spells ip ip.chars := by
  rw [chars]
  cases hmapped : mapped? ip with
  | some ip4 =>
    dsimp only
    rw [mappedChars]
    exact .compressed 4 .nil (.row (.cons (groupText_groupChars 0xFFFF) (.dotted ip4)))
      (groups_of_mapped? hmapped)
  | none =>
    obtain ⟨start, len, hzeros⟩ : ∃ start len, longestZeros 0 ip.groups = (start, len) :=
      ⟨_, _, rfl⟩
    simp only [hzeros]
    split
    · rename_i hlen
      obtain ⟨zeros, rfl⟩ := Nat.exists_eq_add_one.mpr (Nat.zero_lt_of_lt hlen)
      obtain ⟨before, behind, hgroups, hstart⟩ := longestZeros_spec hzeros (by omega)
      have htake : ip.groups.take start = before := by
        rw [hgroups, List.append_assoc, List.take_left' (by omega)]
      have hdrop : ip.groups.drop (start + (zeros + 1)) = behind := by
        rw [hgroups, List.drop_left' (by rw [List.length_append, List.length_replicate]; omega)]
      have hcolons : "::".toList = [':', ':'] := by simp
      rw [htake, hdrop, hcolons, List.append_assoc]
      exact .compressed zeros (part_joinGroups before) (part_joinGroups behind) hgroups
    · have hne : ip.groups ≠ [] := List.ne_nil_of_length_pos (by rw [ip.length_eq]; decide)
      exact .full (row_joinGroups hne)

/-- The canonical text of an address is read back. -/
theorem read?_chars_append (ip : Ipv6) (hr : Closes r) : read? (ip.chars ++ r) = some (ip, r) :=
  read?_append (spells_chars ip) hr

end ProxyTunnel.Ipv6
