import ProxyTunnel.Proofs.Http.Response

/-!
# The grammar of responses

A head (`IsHead`) is made of lines: empty lines, the status line, header lines and one more empty
line. `Head.step` goes through them byte by byte; here they are read back from its steps.

* `Head.lineEnd?`, `Head.return?`: where lines may end, and where that leads;
* `run_text`, `run_headerLine`, `run_statusLine`: what the steps make of each part;
* `exists_of_text`, `exists_of_lineStart`, `exists_of_codeEnd`, `exists_of_start`: what each part
  must be for the head to get complete;
* `parse_eq_some`: so `ConnectResponse.parse` finds exactly the heads.
-/

namespace ProxyTunnel.Http

/-- The end of a line. -/
inductive LineEnd : Bytes → Prop where
  | lf : LineEnd [lf]
  | crlf : LineEnd [cr, lf]

/-- What may stand behind the status code: nothing, or a blank and a text. -/
inductive Reason : Bytes → Prop where
  | none : Reason []
  | some {text : Bytes} (h : ∀ b ∈ text, isTextByte b = true) : Reason (32 :: text)

/-- A status line, and the status that it tells. -/
inductive StatusLine : Bytes → Nat → Prop where
  | mk {minor a b c : UInt8} {x y z : Nat} {reason eol : Bytes} (hminor : minor = 48 ∨ minor = 49)
    (ha : digit? a = some x) (hb : digit? b = some y) (hc : digit? c = some z)
    (hreason : Reason reason) (heol : LineEnd eol) :
    StatusLine (Text.Utf8.encode "HTTP/1." ++ ([minor, 32, a, b, c] ++ (reason ++ eol)))
      (10 * (10 * x + y) + z)

/-- A header line. -/
inductive HeaderLine : Bytes → Prop where
  | mk {name value eol : Bytes} (hne : name ≠ []) (hname : ∀ b ∈ name, isNameByte b = true)
    (hvalue : ∀ b ∈ value, isTextByte b = true) (heol : LineEnd eol) :
    HeaderLine (name ++ 58 :: (value ++ eol))

/-- The whole head of a response, and its status. -/
inductive IsHead : Bytes → Nat → Prop where
  | mk {blanks headers : List Bytes} {line eol : Bytes} {status : Nat}
    (hblanks : ∀ l ∈ blanks, LineEnd l) (hline : StatusLine line status)
    (hheaders : ∀ l ∈ headers, HeaderLine l) (hcount : headers.length ≤ 32)
    (heol : LineEnd eol) : IsHead (blanks.flatten ++ (line ++ (headers.flatten ++ eol))) status

theorem isTextByte_ne {b : UInt8} (h : isTextByte b = true) : b ≠ cr ∧ b ≠ lf := by
  constructor <;> rintro rfl <;> cases h

theorem isNameByte_ne {b : UInt8} (h : isNameByte b = true) : b ≠ cr ∧ b ≠ lf ∧ b ≠ 58 := by
  refine ⟨?_, ?_, ?_⟩ <;> rintro rfl <;> revert h <;> decide

namespace Head

/-- The head behind the end of the line, where the line may end. -/
def lineEnd? : Head → Option Head
  | .start => some .start
  | .codeEnd status | .reason status => some (.lineStart status 0)
  | .lineStart status _ => some (.complete status)
  | .blank status count | .value status count => some (countLine status count)
  | _ => none

/-- The head behind the line feed, where only that may follow. -/
def return? : Head → Option Head
  | .startReturn => some .start
  | .statusReturn status => some (.lineStart status 0)
  | .endReturn status => some (.complete status)
  | .valueReturn status count => some (countLine status count)
  | _ => none

/-- The head is inside a text that goes on to the end of the line. -/
def IsText : Head → Prop
  | .reason _ | .blank _ _ | .value _ _ => True
  | _ => False

variable {h next : Head} {b : UInt8} {bs text eol : Bytes} {status : Nat}

/-! ## Steps -/

theorem step_lf (hn : h.lineEnd? = some next) : h.step lf = next := by
  cases h <;> cases hn <;> rfl

theorem step_cr (hn : h.lineEnd? = some next) : (h.step cr).return? = some next := by
  cases h <;> cases hn <;> rfl

theorem step_return (hn : h.return? = some next) : h.step lf = next := by
  cases h <;> cases hn <;> rfl

theorem refused_of_return (hn : h.return? = some next) (hb : b ≠ lf) :
    ∃ fault, h.step b = .refused fault := by
  cases h <;> cases hn <;> exact ⟨_, if_neg hb⟩

/-- A text goes on. -/
theorem step_text (ht : h.IsText) (hb : isTextByte b = true) :
    (h.step b).IsText ∧ (h.step b).lineEnd? = h.lineEnd? := by
  obtain ⟨hcr, hlf⟩ := isTextByte_ne hb
  cases h with
  | reason | value =>
    rw [step, if_neg hcr, if_neg hlf, if_pos hb]
    exact ⟨trivial, rfl⟩
  | blank =>
    rw [step, if_neg hcr, if_neg hlf, if_pos hb]
    split <;> exact ⟨trivial, rfl⟩
  | _ => exact ht.elim

theorem refused_of_text (ht : h.IsText) (hcr : b ≠ cr) (hlf : b ≠ lf) (hb : ¬isTextByte b = true) :
    ∃ fault, h.step b = .refused fault := by
  cases h with
  | reason | value =>
    rw [step, if_neg hcr, if_neg hlf, if_neg hb]
    exact ⟨_, rfl⟩
  | blank =>
    have hblank : ¬(b = 32 || b = 9) = true := by
      simp only [Bool.or_eq_true, decide_eq_true_eq]
      rintro (rfl | rfl) <;> exact hb rfl
    rw [step, if_neg hblank, if_neg hcr, if_neg hlf, if_neg hb]
    exact ⟨_, rfl⟩
  | _ => exact ht.elim

/-! ## Parts of a head and what the steps make of them -/

theorem run_lineEnd (hn : h.lineEnd? = some next) (he : LineEnd eol) : h.run eol = next := by
  cases he with
  | lf => exact step_lf hn
  | crlf => exact step_return (step_cr hn)

theorem run_text (ht : h.IsText) (hn : h.lineEnd? = some next)
    (htext : ∀ b ∈ text, isTextByte b = true) (he : LineEnd eol) : h.run (text ++ eol) = next := by
  induction text generalizing h with
  | nil => exact run_lineEnd hn he
  | cons b text ih =>
    obtain ⟨ht', hn'⟩ := step_text ht (htext b List.mem_cons_self)
    exact ih ht' (hn'.trans hn) fun b hb => htext b (List.mem_cons_of_mem _ hb)

theorem step_name {count : Nat} (hb : isNameByte b = true) :
    (name status count).step b = .name status count := by
  rw [step, if_neg (isNameByte_ne hb).2.2, if_pos hb]

theorem run_name {count : Nat} {bytes : Bytes} (hname : ∀ b ∈ bytes, isNameByte b = true) :
    (name status count).run bytes = .name status count := by
  induction bytes with
  | nil => rfl
  | cons b bytes ih =>
    show ((name status count).step b).run bytes = _
    rw [step_name (hname b List.mem_cons_self)]
    exact ih fun b hb => hname b (List.mem_cons_of_mem _ hb)

theorem run_headerLine {line : Bytes} (hl : HeaderLine line) (count : Nat) :
    (lineStart status count).run line = countLine status count := by
  obtain ⟨hne, hname, hvalue, he⟩ := hl
  rename_i name value eol
  obtain ⟨b, rest, rfl⟩ := List.exists_cons_of_ne_nil hne
  have hb := hname b List.mem_cons_self
  have hstep : (lineStart status count).step b = .name status count := by
    rw [step, if_neg (isNameByte_ne hb).1, if_neg (isNameByte_ne hb).2.1, if_pos hb]
  rw [run_append]
  show (((lineStart status count).step b).run rest).run _ = _
  rw [hstep, run_name fun b hb => hname b (List.mem_cons_of_mem _ hb)]
  exact run_text (h := .blank status count) trivial rfl hvalue he

theorem run_headers {headers : List Bytes} {count : Nat} (hh : ∀ l ∈ headers, HeaderLine l)
    (hcount : count + headers.length ≤ maxHeaders) :
    (lineStart status count).run headers.flatten = .lineStart status (count + headers.length) := by
  induction headers generalizing count with
  | nil => rfl
  | cons line headers ih =>
    rw [List.length_cons] at hcount
    rw [List.flatten_cons, run_append, run_headerLine (hh line List.mem_cons_self), countLine,
      if_pos (by omega), ih (fun l hl => hh l (List.mem_cons_of_mem _ hl)) (by omega),
      List.length_cons, Nat.add_right_comm]
    rfl

theorem run_blanks {blanks : List Bytes} (hb : ∀ l ∈ blanks, LineEnd l) :
    start.run blanks.flatten = .start := by
  induction blanks with
  | nil => rfl
  | cons line blanks ih =>
    rw [List.flatten_cons, run_append, run_lineEnd rfl (hb line List.mem_cons_self)]
    exact ih fun l hl => hb l (List.mem_cons_of_mem _ hl)

theorem run_reason {reason : Bytes} (hr : Reason reason) (he : LineEnd eol) :
    (codeEnd status).run (reason ++ eol) = .lineStart status 0 := by
  cases hr with
  | none => exact run_lineEnd rfl he
  | some htext => exact run_text (h := .reason status) trivial rfl htext he

theorem step_code {d left : Nat} (hb : digit? b = some d) :
    (code left status).step b =
      if left ≤ 1 then .codeEnd (10 * status + d) else .code (left - 1) (10 * status + d) := by
  rw [step, hb]

theorem run_statusLine {line : Bytes} (hl : StatusLine line status) :
    start.run line = .lineStart status 0 := by
  obtain ⟨hminor, ha, hb, hc, hreason, he⟩ := hl
  rename_i minor a b c x y z reason eol
  have hversion : (start.run (Text.Utf8.encode "HTTP/1.")).step minor = .versionEnd := by
    obtain rfl | rfl := hminor <;> decide
  rw [run_append, run_append]
  show ((((((start.run (Text.Utf8.encode "HTTP/1.")).step minor).step 32).step a).step b).step
    c).run (reason ++ eol) = _
  rw [hversion]
  show ((((code 3 0).step a).step b).step c).run (reason ++ eol) = _
  rw [step_code ha, if_neg (by decide), step_code hb, if_neg (by decide), step_code hc,
    if_pos (by decide), Nat.mul_zero, Nat.zero_add]
  exact run_reason hreason he

/-! ## What the parts of a head must be -/

variable {count : Nat}

theorem not_complete_of_refused (hb : ∃ fault, h.step b = .refused fault)
    (hc : h.run (b :: bs) = .complete status) : False := by
  obtain ⟨fault, hb⟩ := hb
  change (h.step b).run bs = _ at hc
  rw [hb, run_of_settled ⟨_, rfl⟩] at hc
  cases hc

theorem exists_of_return (hn : h.return? = some next) (hc : h.run bs = .complete status) :
    ∃ rest, bs = lf :: rest ∧ next.run rest = .complete status := by
  cases bs with
  | nil =>
    obtain rfl : h = .complete status := hc
    cases hn
  | cons b bs =>
    by_cases hb : b = lf
    · subst hb
      change (h.step lf).run bs = _ at hc
      rw [step_return hn] at hc
      exact ⟨bs, rfl, hc⟩
    · exact (not_complete_of_refused (refused_of_return hn hb) hc).elim

/-- Where a line may end, it can end in two ways. -/
theorem exists_of_lineEnd (hn : h.lineEnd? = some next) (hb : b = cr ∨ b = lf)
    (hc : h.run (b :: bs) = .complete status) :
    ∃ eol rest, b :: bs = eol ++ rest ∧ LineEnd eol ∧ next.run rest = .complete status := by
  change (h.step b).run bs = _ at hc
  obtain rfl | rfl := hb
  · obtain ⟨rest, rfl, hrest⟩ := exists_of_return (step_cr hn) hc
    exact ⟨[cr, lf], rest, rfl, .crlf, hrest⟩
  · rw [step_lf hn] at hc
    exact ⟨[lf], bs, rfl, .lf, hc⟩

theorem exists_of_text (ht : h.IsText) (hn : h.lineEnd? = some next)
    (hc : h.run bs = .complete status) :
    ∃ text eol rest, bs = text ++ (eol ++ rest) ∧ (∀ b ∈ text, isTextByte b = true) ∧
      LineEnd eol ∧ next.run rest = .complete status := by
  induction bs generalizing h with
  | nil =>
    obtain rfl : h = .complete status := hc
    exact ht.elim
  | cons b bs ih =>
    by_cases hend : b = cr ∨ b = lf
    · obtain ⟨eol, rest, hbs, he, hc⟩ := exists_of_lineEnd hn hend hc
      exact ⟨[], eol, rest, hbs, nofun, he, hc⟩
    rw [not_or] at hend
    by_cases hb : isTextByte b = true
    · obtain ⟨ht', hn'⟩ := step_text ht hb
      obtain ⟨text, eol, rest, rfl, htext, he, hc⟩ := ih ht' (hn'.trans hn) hc
      refine ⟨b :: text, eol, rest, rfl, fun b' hb' => ?_, he, hc⟩
      obtain rfl | hb' := List.mem_cons.mp hb'
      · exact hb
      · exact htext b' hb'
    · exact (not_complete_of_refused (refused_of_text ht hend.1 hend.2 hb) hc).elim

theorem exists_of_name {status' : Nat} (hc : (name status count).run bs = .complete status') :
    ∃ bytes value eol rest, bs = bytes ++ 58 :: (value ++ (eol ++ rest)) ∧
      (∀ b ∈ bytes, isNameByte b = true) ∧ (∀ b ∈ value, isTextByte b = true) ∧ LineEnd eol ∧
        (countLine status count).run rest = .complete status' := by
  induction bs with
  | nil => cases hc
  | cons b bs ih =>
    by_cases hcolon : b = 58
    · subst hcolon
      obtain ⟨value, eol, rest, rfl, hvalue, he, hc⟩ :=
        exists_of_text (h := .blank status count) trivial rfl hc
      exact ⟨[], value, eol, rest, rfl, nofun, hvalue, he, hc⟩
    by_cases hb : isNameByte b = true
    · change ((name status count).step b).run bs = _ at hc
      rw [step_name hb] at hc
      obtain ⟨bytes, value, eol, rest, rfl, hname, h⟩ := ih hc
      refine ⟨b :: bytes, value, eol, rest, rfl, fun b' hb' => ?_, h⟩
      obtain rfl | hb' := List.mem_cons.mp hb'
      · exact hb
      · exact hname b' hb'
    · refine (not_complete_of_refused ⟨.headerName, ?_⟩ hc).elim
      rw [step, if_neg hcolon, if_neg hb]

theorem exists_of_lineStart {status' : Nat} (hcount : count ≤ maxHeaders)
    (hc : (lineStart status count).run bs = .complete status') :
    status' = status ∧ ∃ (headers : List Bytes) (eol rest : Bytes),
      bs = headers.flatten ++ (eol ++ rest) ∧
      (∀ l ∈ headers, HeaderLine l) ∧ count + headers.length ≤ maxHeaders ∧ LineEnd eol := by
  -- Each header line leaves fewer bytes and one header less.
  generalize hlen : bs.length = n
  induction n using Nat.strongRecOn generalizing bs count with
  | ind n ih =>
  subst hlen
  cases bs with
  | nil => cases hc
  | cons b bs =>
  by_cases hend : b = cr ∨ b = lf
  · obtain ⟨eol, rest, hbs, he, hc⟩ := exists_of_lineEnd rfl hend hc
    rw [run_of_settled ⟨_, rfl⟩] at hc
    cases hc
    exact ⟨rfl, [], eol, rest, hbs, nofun, hcount, he⟩
  rw [not_or] at hend
  by_cases hb : isNameByte b = true
  · change ((lineStart status count).step b).run bs = _ at hc
    rw [step, if_neg hend.1, if_neg hend.2, if_pos hb] at hc
    obtain ⟨bytes, value, eol, rest, rfl, hname, hvalue, he, hc⟩ := exists_of_name hc
    have hline : HeaderLine ((b :: bytes) ++ 58 :: (value ++ eol)) := by
      refine .mk (List.cons_ne_nil _ _) (fun b' hb' => ?_) hvalue he
      obtain rfl | hb' := List.mem_cons.mp hb'
      · exact hb
      · exact hname b' hb'
    rw [countLine] at hc
    split at hc
    · obtain ⟨hstatus, headers, last, rest, rfl, hheaders, hcount, hlast⟩ :=
        ih _ (by simp only [List.length_cons, List.length_append]; omega) (by omega) hc rfl
      refine ⟨hstatus, (b :: bytes ++ 58 :: (value ++ eol)) :: headers, last, rest, ?_,
        fun l hl => ?_, ?_, hlast⟩
      · simp only [List.flatten_cons, List.append_assoc, List.cons_append]
      · obtain rfl | hl := List.mem_cons.mp hl
        · exact hline
        · exact hheaders l hl
      · rw [List.length_cons]
        omega
    · rw [run_of_settled ⟨_, rfl⟩] at hc
      cases hc
  · refine (not_complete_of_refused ⟨.headerName, ?_⟩ hc).elim
    rw [step, if_neg hend.1, if_neg hend.2, if_neg hb]

theorem exists_of_codeEnd {status' : Nat} (hc : (codeEnd status).run bs = .complete status') :
    ∃ reason eol rest, bs = reason ++ (eol ++ rest) ∧ Reason reason ∧ LineEnd eol ∧
      (lineStart status 0).run rest = .complete status' := by
  cases bs with
  | nil => cases hc
  | cons b bs =>
    by_cases hend : b = cr ∨ b = lf
    · obtain ⟨eol, rest, hbs, he, hc⟩ := exists_of_lineEnd rfl hend hc
      exact ⟨[], eol, rest, hbs, .none, he, hc⟩
    rw [not_or] at hend
    by_cases hb : b = 32
    · subst hb
      obtain ⟨text, eol, rest, rfl, htext, he, hc⟩ :=
        exists_of_text (h := .reason status) trivial rfl hc
      exact ⟨32 :: text, eol, rest, rfl, .some htext, he, hc⟩
    · refine (not_complete_of_refused ⟨.status, ?_⟩ hc).elim
      rw [step, if_neg hb, if_neg hend.1, if_neg hend.2]

theorem exists_of_code {left status' : Nat} (hc : (code left status).run bs = .complete status') :
    ∃ b x rest, bs = b :: rest ∧ digit? b = some x ∧
      (if left ≤ 1 then codeEnd (10 * status + x) else code (left - 1) (10 * status + x)).run rest =
        .complete status' := by
  cases bs with
  | nil => cases hc
  | cons b bs =>
    cases hb : digit? b with
    | none =>
      refine (not_complete_of_refused ⟨.status, ?_⟩ hc).elim
      rw [step, hb]
    | some x =>
      refine ⟨b, x, bs, rfl, hb, ?_⟩
      rw [← step_code hb]
      exact hc

theorem step_version (e e' : UInt8) (rest : Bytes) :
    (version (e :: e' :: rest)).step b =
      if b = e then .version (e' :: rest) else .refused .version := rfl

theorem exists_of_version {rest : Bytes} (hne : rest ≠ [])
    (hc : (version rest).run bs = .complete status) :
    ∃ bs', bs = rest ++ bs' ∧ versionDigit.run bs' = .complete status := by
  induction rest generalizing bs with
  | nil => exact absurd rfl hne
  | cons e rest ih =>
    cases bs with
    | nil => cases hc
    | cons b bs =>
      by_cases hb : b = e
      · subst hb
        change ((version (b :: rest)).step b).run bs = _ at hc
        cases rest with
        | nil =>
          rw [step, if_pos rfl] at hc
          exact ⟨bs, rfl, hc⟩
        | cons e' rest =>
          rw [step_version, if_pos rfl] at hc
          obtain ⟨bs', rfl, hrest⟩ := ih (List.cons_ne_nil _ _) hc
          exact ⟨bs', rfl, hrest⟩
      · refine (not_complete_of_refused ⟨.version, ?_⟩ hc).elim
        cases rest with
        | nil => rw [step, if_neg hb]
        | cons e' rest =>
          rw [step_version, if_neg hb]

theorem exists_of_versionDigit (hc : versionDigit.run bs = .complete status) :
    ∃ minor rest, bs = minor :: 32 :: rest ∧ (minor = 48 ∨ minor = 49) ∧
      (code 3 0).run rest = .complete status := by
  cases bs with
  | nil => cases hc
  | cons minor bs =>
    by_cases hminor : minor = 48 ∨ minor = 49
    · change (versionDigit.step minor).run bs = _ at hc
      have hstep : versionDigit.step minor = .versionEnd := by
        obtain rfl | rfl := hminor <;> rfl
      rw [hstep] at hc
      cases bs with
      | nil => cases hc
      | cons b bs =>
        by_cases hb : b = 32
        · subst hb
          exact ⟨minor, bs, rfl, hminor, hc⟩
        · refine (not_complete_of_refused ⟨.version, ?_⟩ hc).elim
          rw [step, if_neg hb]
    · refine (not_complete_of_refused ⟨.version, ?_⟩ hc).elim
      rw [step, if_neg (by simpa using hminor)]

theorem exists_of_start (hc : start.run bs = .complete status) :
    ∃ (blanks : List Bytes) (rest : Bytes),
      bs = blanks.flatten ++ (Text.Utf8.encode "HTTP/1." ++ rest) ∧ (∀ l ∈ blanks, LineEnd l) ∧
        versionDigit.run rest = .complete status := by
  -- Each empty line leaves fewer bytes.
  generalize hlen : bs.length = n
  induction n using Nat.strongRecOn generalizing bs with
  | ind n ih =>
  subst hlen
  cases bs with
  | nil => cases hc
  | cons b bs =>
  by_cases hend : b = cr ∨ b = lf
  · obtain ⟨eol, rest, hbs, he, hc⟩ := exists_of_lineEnd rfl hend hc
    have hpos : 0 < eol.length := by cases he <;> decide
    have hlen : (b :: bs).length = eol.length + rest.length := by rw [hbs, List.length_append]
    obtain ⟨blanks, rest', rfl, hblanks, hc⟩ := ih _ (by omega) hc rfl
    refine ⟨eol :: blanks, rest', ?_, fun l hl => ?_, hc⟩
    · rw [hbs, List.flatten_cons, List.append_assoc]
    · obtain rfl | hl := List.mem_cons.mp hl
      · exact he
      · exact hblanks l hl
  rw [not_or] at hend
  by_cases hb : b = 72
  · subst hb
    have hne : Text.Utf8.encode "TTP/1." ≠ [] := by decide
    obtain ⟨rest, rfl, hc⟩ := exists_of_version hne hc
    exact ⟨[], rest, rfl, nofun, hc⟩
  · refine (not_complete_of_refused ⟨.version, ?_⟩ hc).elim
    rw [step, if_neg hend.1, if_neg hend.2, if_neg hb]

/-- Bytes that complete a head start with one. -/
theorem exists_isHead (hc : start.run bs = .complete status) :
    ∃ head rest, bs = head ++ rest ∧ IsHead head status := by
  obtain ⟨blanks, _, rfl, hblanks, hc⟩ := exists_of_start hc
  obtain ⟨minor, _, rfl, hminor, hc⟩ := exists_of_versionDigit hc
  obtain ⟨a, x, _, rfl, ha, hc⟩ := exists_of_code hc
  obtain ⟨b, y, _, rfl, hb, hc⟩ := exists_of_code hc
  obtain ⟨c, z, _, rfl, hd, hc⟩ := exists_of_code hc
  rw [if_pos (by decide)] at hc
  obtain ⟨reason, eol, _, rfl, hreason, he, hc⟩ := exists_of_codeEnd hc
  obtain ⟨rfl, headers, last, rest, rfl, hheaders, hcount, hlast⟩ :=
    exists_of_lineStart (Nat.zero_le _) hc
  rw [Nat.zero_add] at hcount
  have hline := StatusLine.mk hminor ha hb hd hreason he
  rw [Nat.mul_zero, Nat.zero_add]
  refine ⟨_, rest, ?_, .mk hblanks hline hheaders hcount hlast⟩
  simp only [List.append_assoc, List.cons_append, List.nil_append]

/-- A head is completed by its last byte, which is a line feed. -/
theorem eq_append_of_isHead {head : Bytes} (hh : IsHead head status) :
    ∃ first, head = first ++ [lf] ∧ ConnectResponse.ofHead? (start.run first) = none ∧
      start.run head = .complete status := by
  obtain ⟨hblanks, hline, hheaders, hcount, he⟩ := hh
  rename_i blanks headers line eol
  have hrun : (start.run (blanks.flatten ++ (line ++ headers.flatten))) =
      .lineStart status headers.length := by
    rw [run_append, run_blanks hblanks, run_append, run_statusLine hline,
      run_headers hheaders (Nat.le_trans (Nat.le_of_eq (Nat.zero_add _)) hcount), Nat.zero_add]
  have hbytes : blanks.flatten ++ (line ++ (headers.flatten ++ eol)) =
      blanks.flatten ++ (line ++ headers.flatten) ++ eol := by
    simp only [List.append_assoc]
  rw [hbytes]
  have hcomplete : start.run (blanks.flatten ++ (line ++ headers.flatten) ++ eol) =
      .complete status := by
    rw [run_append, hrun]
    exact run_lineEnd rfl he
  cases he with
  | lf => exact ⟨_, rfl, by rw [hrun]; rfl, hcomplete⟩
  | crlf =>
    refine ⟨blanks.flatten ++ (line ++ headers.flatten) ++ [cr], ?_, ?_, hcomplete⟩
    · rw [List.append_assoc _ [cr]]
      rfl
    · rw [run_append, hrun]
      rfl

end Head

namespace ConnectResponse

/-- Bytes that do not settle a head are passed over. -/
theorem parseFrom_append {h : Head} {q : Bytes} (hq : ofHead? (h.run q) = none) (n : Nat)
    (rest : Bytes) : parseFrom h n (q ++ rest) = parseFrom (h.run q) (n + q.length) rest := by
  induction q generalizing h n with
  | nil => rfl
  | cons b q ih =>
    have hh : ofHead? h = none := by
      cases hr : ofHead? h with
      | none => rfl
      | some r =>
        rw [Head.run_of_settled ⟨r, hr⟩, hr] at hq
        cases hq
    rw [List.cons_append, parseFrom_cons hh, ih hq, List.length_cons, Nat.add_right_comm]
    rfl

theorem ofStatus_eq_ok {status : Nat} {response : ConnectResponse} :
    ofStatus status = .ok response ↔ 100 ≤ status ∧ response = ⟨status⟩ := by
  rw [ofStatus]
  split
  · rename_i hlt
    constructor
    · intro h
      cases h
    · intro h
      exact absurd h.1 (Nat.not_le.mpr hlt)
  · rename_i hge
    constructor
    · intro h
      cases h
      exact ⟨Nat.le_of_not_lt hge, rfl⟩
    · rintro ⟨-, rfl⟩
      rfl

/-- What `parse` finds are the heads that tell a status, whatever stands behind them. -/
theorem parse_eq_some {bs : Bytes} {response : ConnectResponse} {n : Nat} :
    parse bs = .ok (some (response, n)) ↔ 100 ≤ response.status ∧
      ∃ head rest, bs = head ++ rest ∧ n = head.length ∧ IsHead head response.status := by
  have hfound {head rest : Bytes} {status : Nat} (hh : IsHead head status) :
      parse (head ++ rest) = (ofStatus status).map fun r => some (r, head.length) := by
    obtain ⟨first, rfl, hfirst, hrun⟩ := Head.eq_append_of_isHead hh
    rw [parse, List.append_assoc, parseFrom_append hfirst, List.singleton_append,
      parseFrom_cons hfirst]
    have hstep : (Head.start.run first).step lf = .complete status := by
      rw [Head.run_append] at hrun
      exact hrun
    rw [hstep, parseFrom_of_settled (r := ofStatus status) rfl, List.length_append, Nat.zero_add]
    rfl
  constructor
  · intro hp
    have hr := ofHead?_of_parse_ok hp
    obtain ⟨status, hrun⟩ : ∃ status, Head.start.run bs = .complete status := by
      cases hh : Head.start.run bs with
      | complete status => exact ⟨status, rfl⟩
      | _ => rw [hh] at hr; cases hr
    rw [hrun, ofHead?, Option.some.injEq, ofStatus_eq_ok] at hr
    obtain ⟨hstatus, rfl⟩ := hr
    obtain ⟨head, rest, rfl, hh⟩ := Head.exists_isHead hrun
    rw [hfound hh, ofStatus_eq_ok.mpr ⟨hstatus, rfl⟩] at hp
    cases hp
    exact ⟨hstatus, head, rest, rfl, rfl, hh⟩
  · intro h
    obtain ⟨hstatus, head, rest, rfl, rfl, hh⟩ := h
    rw [hfound hh, ofStatus_eq_ok.mpr ⟨hstatus, rfl⟩]
    rfl

end ConnectResponse

end ProxyTunnel.Http
