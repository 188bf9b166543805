import ProxyTunnel.Http.Response

/-!
# Heads of responses, prefix by prefix

What `ConnectResponse.parse` says of a byte string, by the head that the bytes lead to. A head that
is complete or refused stays so (`run_of_settled`), and only a line feed completes one
(`step_eq_complete`). So:

* `parse_eq_run`: the response or the error is that of the head;
* `parse_eq_none`: it says nothing exactly while the head is incomplete;
* `parse_length`: the length it reports is that of the first prefix that has the response, and that
  prefix ends with a line feed.
-/

namespace ProxyTunnel.Http

namespace Head

/-- A head that is complete or refused. -/
def IsSettled (h : Head) : Prop := ∃ r, ConnectResponse.ofHead? h = some r

theorem step_of_settled {h : Head} (hs : h.IsSettled) (b : UInt8) : h.step b = h := by
  obtain ⟨r, hr⟩ := hs
  cases h with
  | complete | refused => rfl
  | _ => cases hr

theorem run_of_settled {h : Head} (hs : h.IsSettled) (bs : Bytes) : h.run bs = h := by
  induction bs with
  | nil => rfl
  | cons b bs ih =>
    show (h.step b).run bs = h
    rw [step_of_settled hs, ih]

/-- Only a line feed completes a head. -/
theorem step_eq_complete {h : Head} {b : UInt8} {status : Nat} (hs : ¬h.IsSettled)
    (hb : h.step b = .complete status) : b = lf := by
  refine Decidable.byContradiction fun hne => ?_
  cases h with
  | complete | refused => exact hs ⟨_, rfl⟩
  | version rest =>
    match rest with
    | [] => cases hb
    | [e] => simp only [step] at hb; split at hb <;> cases hb
    | e :: e' :: rest => simp only [step] at hb; split at hb <;> cases hb
  | _ =>
    -- Nothing that a line feed leads to is left.
    simp only [step, hne, if_false] at hb
    repeat' split at hb
    all_goals cases hb

end Head

namespace ConnectResponse

theorem parseFrom_of_settled {h : Head} {r : Except HttpError ConnectResponse}
    (hr : ofHead? h = some r) (n : Nat) (bs : Bytes) :
    parseFrom h n bs = r.map fun response => some (response, n) := by
  unfold parseFrom
  rw [hr]

theorem parseFrom_nil {h : Head} (hr : ofHead? h = none) (n : Nat) :
    parseFrom h n [] = .ok none := by
  rw [parseFrom, hr]

theorem parseFrom_cons {h : Head} (hr : ofHead? h = none) (n : Nat) (b : UInt8) (bs : Bytes) :
    parseFrom h n (b :: bs) = parseFrom (h.step b) (n + 1) bs := by
  rw [parseFrom, hr]

/-- Apart from the length, it is the last head that decides. -/
theorem parseFrom_eq_run (h : Head) (n : Nat) (bs : Bytes) :
    (parseFrom h n bs).map (Option.map Prod.fst) =
      match ofHead? (h.run bs) with
      | none => .ok none
      | some r => r.map some := by
  induction bs generalizing h n with
  | nil =>
    show _ = match ofHead? h with | none => _ | some r => _
    cases hr : ofHead? h with
    | none => rw [parseFrom_nil hr]; rfl
    | some r => rw [parseFrom_of_settled hr]; cases r <;> rfl
  | cons b bs ih =>
    cases hr : ofHead? h with
    | none =>
      rw [parseFrom_cons hr, ih]; rfl
    | some r =>
      rw [parseFrom_of_settled hr, Head.run_of_settled ⟨r, hr⟩, hr]
      cases r <;> rfl

theorem parse_eq_none {bs : Bytes} :
    parse bs = .ok none ↔ ofHead? (Head.start.run bs) = none := by
  have h := parseFrom_eq_run .start 0 bs
  rw [parse]
  constructor
  · intro hp
    rw [hp] at h
    cases hr : ofHead? (Head.start.run bs) with
    | none => rfl
    | some r => rw [hr] at h; cases r <;> cases h
  · intro hr
    rw [hr] at h
    match hp : parseFrom .start 0 bs with
    | .ok none => rfl
    | .ok (some _) => rw [hp] at h; cases h
    | .error _ => rw [hp] at h; cases h

theorem ofHead?_of_parse_ok {bs : Bytes} {response : ConnectResponse} {n : Nat}
    (hp : parse bs = .ok (some (response, n))) :
    ofHead? (Head.start.run bs) = some (.ok response) := by
  have h := parseFrom_eq_run .start 0 bs
  rw [← parse, hp] at h
  cases hr : ofHead? (Head.start.run bs) with
  | none => rw [hr] at h; cases h
  | some r => rw [hr] at h; cases r <;> cases h; rfl

theorem ofHead?_of_parse_error {bs : Bytes} {e : HttpError} (hp : parse bs = .error e) :
    ofHead? (Head.start.run bs) = some (.error e) := by
  have h := parseFrom_eq_run .start 0 bs
  rw [← parse, hp] at h
  cases hr : ofHead? (Head.start.run bs) with
  | none => rw [hr] at h; cases h
  | some r => rw [hr] at h; cases r <;> cases h; rfl

/-- A response comes with the length of a prefix that ends with a line feed and has it already. -/
theorem exists_of_parseFrom {h : Head} {n m : Nat} {bs : Bytes} {response : ConnectResponse}
    (hn : ofHead? h = none) (hp : parseFrom h n bs = .ok (some (response, m))) :
    ∃ first rest, bs = first ++ [lf] ++ rest ∧ m = n + first.length + 1 ∧
      ofHead? (h.run (first ++ [lf])) = some (.ok response) := by
  induction bs generalizing h n with
  | nil => rw [parseFrom_nil hn] at hp; cases hp
  | cons b bs ih =>
    rw [parseFrom_cons hn] at hp
    cases hr : ofHead? (h.step b) with
    | none =>
      obtain ⟨first, rest, rfl, rfl, hrun⟩ := ih hr hp
      refine ⟨b :: first, rest, rfl, ?_, hrun⟩
      rw [List.length_cons]; omega
    | some r =>
      rw [parseFrom_of_settled hr] at hp
      cases r with
      | error e => cases hp
      | ok found =>
        cases hp
        obtain ⟨status, hs⟩ : ∃ status, h.step b = .complete status := by
          cases hh : h.step b with
          | complete status => exact ⟨status, rfl⟩
          | _ => rw [hh] at hr; cases hr
        have hb : b = lf := Head.step_eq_complete (by rintro ⟨r, h'⟩; rw [hn] at h'; cases h') hs
        exact ⟨[], bs, by rw [hb]; rfl, rfl, by rw [← hb]; exact hr⟩

end ConnectResponse

end ProxyTunnel.Http
