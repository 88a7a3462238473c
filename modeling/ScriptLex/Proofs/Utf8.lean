import ScriptLex.Proofs.Utf8Character

/-! Reading UTF-8 against writing it.

The reader gives back what was written and nothing else. Of any other input it names the first
fault: how many bytes stand in front of it, and how many belong to it. -/

set_option autoImplicit false

namespace ScriptLex.Text.Utf8

/-! ### Reading what was written -/

section

variable (index : Nat) (bs : List UInt8)

theorem decodeFrom_completes {begun : Begun} {bytes : List UInt8} {n : Nat}
    (completes : begun.Completes bytes n) :
    decodeFrom index (some begun) (bytes ++ bs) =
      (decodeFrom (index + (begun.seen + bytes.length)) none bs).map (Char.ofNat n :: ·) := by
  induction completes with
  | @last begun b n inRange one number =>
    have done : (begun.extend b).missing = 0 := by rw [Begun.extend_missing, one]
    rw [List.singleton_append, decodeFrom, if_pos inRange]
    simp only [done, if_true, number]
    rfl
  | @more begun b bytes n inRange more rest ih =>
    have going : (begun.extend b).missing ≠ 0 := by
      rw [Begun.extend_missing]
      omega
    rw [List.cons_append, decodeFrom, if_pos inRange]
    simp only [going, if_false, ih]
    rw [Begun.extend_seen, List.length_cons, Nat.add_assoc begun.seen, Nat.add_comm 1]

theorem decodeFrom_utf8EncodeChar (c : Char) :
    decodeFrom index none (String.utf8EncodeChar c ++ bs) =
      (decodeFrom (index + (String.utf8EncodeChar c).length) none bs).map (c :: ·) := by
  obtain ⟨b, rest, encoded⟩ := List.exists_cons_of_length_pos
    (show 0 < (String.utf8EncodeChar c).length from String.length_utf8EncodeChar c ▸ c.utf8Size_pos)
  have size := size_of_first encoded
  rw [encoded, List.cons_append, decodeFrom]
  by_cases low : b < 0x80
  · have small : c.toNat < 0x80 := by
      simp only [UInt8.lt_iff_toNat_lt, UInt8.reduceToNat] at low
      omega
    rw [utf8EncodeChar_one small] at encoded
    obtain ⟨rfl, rfl⟩ := List.cons.inj encoded
    rw [if_pos low, toNat_ofNat (by omega), Char.ofNat_toNat]
    rfl
  · rw [if_neg low]
    cases begins : begin? b with
    | none => exact absurd encoded (utf8EncodeChar_ne low begins c rest)
    | some begun =>
      have holds := holds_begin? begins
      have completes := (holds.completes c rest).1 encoded
      simp only [decodeFrom_completes index bs completes]
      rw [holds.length, Char.ofNat_toNat, List.length_singleton, List.length_cons, Nat.add_comm 1]

/-- Reading gives the characters that were written, and goes on behind them. -/
theorem decodeFrom_encode (cs : List Char) :
    decodeFrom index none (encode cs ++ bs) =
      (decodeFrom (index + (encode cs).length) none bs).map (cs ++ ·) := by
  induction cs generalizing index with
  | nil =>
    rw [encode_nil, List.nil_append, List.length_nil, Nat.add_zero]
    cases decodeFrom index none bs <;> rfl
  | cons c cs ih =>
    rw [encode_cons, List.append_assoc, decodeFrom_utf8EncodeChar, ih, List.length_append,
      Nat.add_assoc]
    cases decodeFrom _ none bs <;> rfl

end

/-! ### The first fault -/

/-- `FaultOf rest fault`: the bytes end within a character, or after the first ones of a character
no character goes on with the next byte. -/
inductive FaultOf (rest : List UInt8) : Fault → Prop where
  | incomplete (nonempty : rest ≠ []) (opens : Opens rest) : FaultOf rest .incomplete
  | invalid {front behind : List UInt8} {b : UInt8} (split : rest = front ++ b :: behind)
      (opens : Opens front) (blocked : ∀ c more, String.utf8EncodeChar c ≠ front ++ b :: more) :
      FaultOf rest (.invalid (max 1 front.length))

/-- What an answer says of the bytes from `index` on. -/
def Answers (index : Nat) (bytes : List UInt8) : Except Malformed (List Char) → Prop
  | .ok cs => bytes = encode cs
  | .error malformed => ∃ cs rest, bytes = encode cs ++ rest ∧
    malformed.index = index + (encode cs).length ∧ FaultOf rest malformed.fault

/-- What the reader holds after some bytes behind the last character. -/
inductive Pending : List UInt8 → Option Begun → Prop where
  | none : Pending [] none
  | some {seen : List UInt8} {begun : Begun} (holds : Holds seen begun) : Pending seen (some begun)

theorem Answers.cons {c : Char} {index : Nat} {bytes : List UInt8}
    {answer : Except Malformed (List Char)}
    (answers : Answers (index + (String.utf8EncodeChar c).length) bytes answer) :
    Answers index (String.utf8EncodeChar c ++ bytes) (answer.map (c :: ·)) := by
  cases answer with
  | ok cs => exact congrArg (String.utf8EncodeChar c ++ ·) answers
  | error malformed =>
    obtain ⟨cs, rest, rfl, place, fault⟩ := answers
    refine ⟨c :: cs, rest, by rw [encode_cons, List.append_assoc], ?_, fault⟩
    rw [place, encode_cons, List.length_append, Nat.add_assoc]

theorem opens_nil : Opens [] := ⟨'a', [0x61], by simp, rfl⟩

theorem utf8EncodeChar_ofNat {b : UInt8} (low : b < 0x80) :
    String.utf8EncodeChar (Char.ofNat b.toNat) = [b] := by
  simp only [UInt8.lt_iff_toNat_lt, UInt8.reduceToNat] at low
  have number := toNat_ofNat_byte b
  rw [utf8EncodeChar_one (by omega), number, UInt8.ofNat_toNat]

/-- Every answer is right about the bytes that were read, those of an open character included. -/
theorem decodeFrom_answers {seen : List UInt8} {begun : Option Begun}
    (pending : Pending seen begun) (index : Nat) (bytes : List UInt8) :
    Answers index (seen ++ bytes) (decodeFrom index begun bytes) := by
  fun_induction decodeFrom index begun bytes generalizing seen with
  | case1 index =>
    cases pending
    rfl
  | case2 index begun =>
    cases pending with
    | some holds =>
      rw [List.append_nil]
      exact ⟨[], seen, rfl, rfl, .incomplete holds.nonempty holds.opens⟩
  | case3 index b bytes low ih =>
    cases pending
    have width : (String.utf8EncodeChar (Char.ofNat b.toNat)).length = 1 := by
      rw [utf8EncodeChar_ofNat low, List.length_singleton]
    have more := ih .none
    rw [← width] at more
    have answers := more.cons
    rwa [utf8EncodeChar_ofNat low] at answers
  | case4 index b bytes high none =>
    cases pending
    exact ⟨[], b :: bytes, rfl, rfl, .invalid rfl opens_nil (utf8EncodeChar_ne high none)⟩
  | case5 index b bytes high begun begins ih =>
    cases pending
    exact ih (.some (holds_begin? begins))
  | case6 index begun b bytes inRange further done =>
    rename_i ih
    cases pending with
    | some holds =>
      have one : begun.missing = 1 := by
        have missing := holds.missing
        have done' : begun.missing - 1 = 0 := done
        omega
      have encoded := holds.encodes (.last inRange one rfl)
      have width : further.seen = (String.utf8EncodeChar (Char.ofNat further.bits)).length := by
        rw [encoded, List.length_append, ← holds.length, List.length_singleton,
          Begun.extend_seen]
      have more := ih .none
      rw [width] at more
      have answers := more.cons
      rw [encoded, List.append_assoc, ← encoded, ← width] at answers
      exact answers
  | case7 index begun b bytes inRange further going =>
    rename_i ih
    cases pending with
    | some holds =>
      have missing : 1 < begun.missing := by
        have going' : begun.missing - 1 ≠ 0 := going
        omega
      have answers := ih (.some (holds.extend inRange missing))
      rwa [List.append_assoc] at answers
  | case8 index begun b bytes outside =>
    cases pending with
    | some holds =>
      have width : begun.seen = max 1 seen.length := by
        have positive := List.length_pos_iff.2 holds.nonempty
        rw [holds.length]
        omega
      rw [width]
      exact ⟨[], _, rfl, rfl, .invalid rfl holds.opens (holds.blocked outside)⟩

theorem decode_eq_ok_iff {bytes : List UInt8} {cs : List Char} :
    decode bytes = .ok cs ↔ bytes = encode cs := by
  constructor
  · intro decoded
    have answers := decodeFrom_answers .none 0 bytes
    rw [← decode, decoded] at answers
    exact answers
  · rintro rfl
    have read := decodeFrom_encode 0 [] cs
    rw [List.append_nil] at read
    rw [decode, read, decodeFrom, Except.map, List.append_nil]

/-- What a fault says of an input: `cs` are the characters in front of it, and it lies at the
beginning of `rest`. -/
structure FirstFault (bytes : List UInt8) (malformed : Malformed) (cs : List Char)
    (rest : List UInt8) : Prop where
  split : bytes = encode cs ++ rest
  nonempty : rest ≠ []
  index : malformed.index = (encode cs).length
  longest : ∀ (cs' : List Char) (rest' : List UInt8), bytes = encode cs' ++ rest' →
    (encode cs').length ≤ malformed.index
  incomplete : malformed.fault = .incomplete ↔ Opens rest
  invalid : ∀ n, malformed.fault = .invalid n → 1 ≤ n ∧ n ≤ 3 ∧
    ∃ front behind, rest = front ++ behind ∧ Opens front ∧ n = max 1 front.length ∧
      ∀ front' behind', rest = front' ++ behind' → Opens front' → front'.length ≤ front.length

theorem Opens.length_le {bytes : List UInt8} (opens : Opens bytes) : bytes.length ≤ 3 := by
  obtain ⟨c, rest, nonempty, encoded⟩ := opens
  have width := c.utf8Size_le_four
  have positive := List.length_pos_iff.2 nonempty
  rw [← String.length_utf8EncodeChar, encoded, List.length_append] at width
  omega

section

variable {front behind : List UInt8} {b : UInt8}

/-- Where no character goes on, what begins a character ends before. -/
theorem length_le_of_blocked
    (blocked : ∀ c more, String.utf8EncodeChar c ≠ front ++ b :: more)
    {front' behind' : List UInt8} (same : front ++ b :: behind = front' ++ behind')
    (opens : Opens front') : front'.length ≤ front.length := by
  obtain ⟨c, rest, -, encoded⟩ := opens
  rcases List.append_eq_append_iff.1 same with ⟨more, rfl, split⟩ | ⟨more, rfl, -⟩
  · cases more with
    | nil => simp
    | cons d more =>
      obtain ⟨rfl, -⟩ := List.cons.inj split
      refine absurd encoded ?_
      rw [List.append_assoc, List.cons_append]
      exact blocked c (more ++ rest)
  · rw [List.length_append]
    omega

theorem not_opens_of_blocked (blocked : ∀ c more, String.utf8EncodeChar c ≠ front ++ b :: more) :
    ¬Opens (front ++ b :: behind) := by
  rintro ⟨c, rest, -, encoded⟩
  rw [List.append_assoc, List.cons_append] at encoded
  exact blocked c _ encoded

end

/-- Whatever is refused has a first fault, which the error describes. -/
theorem exists_firstFault {bytes : List UInt8} {malformed : Malformed}
    (failed : decode bytes = .error malformed) :
    ∃ cs rest, FirstFault bytes malformed cs rest := by
  have answers := decodeFrom_answers .none 0 bytes
  rw [← decode, failed] at answers
  obtain ⟨cs, rest, split, place, fault⟩ := answers
  refine ⟨cs, rest, split, ?nonempty, place.trans (Nat.zero_add _), ?longest, ?incomplete,
    ?invalid⟩
  case nonempty =>
    generalize malformed.fault = found at fault
    cases fault with
    | incomplete nonempty => exact nonempty
    | invalid split => simp [split]
  case longest =>
    rintro cs' rest' rfl
    have answers := decodeFrom_answers .none (0 + (encode cs').length) rest'
    have read := decodeFrom_encode 0 rest' cs'
    rw [← decode, failed] at read
    cases more : decodeFrom (0 + (encode cs').length) none rest' with
    | ok cs'' =>
      rw [more] at read
      cases read
    | error malformed' =>
      rw [more] at read
      obtain rfl := Except.error.inj read
      rw [more] at answers
      obtain ⟨cs'', rest'', -, place', -⟩ := answers
      omega
  case incomplete =>
    generalize malformed.fault = found at fault
    cases fault with
    | incomplete nonempty opens => exact ⟨fun _ => opens, fun _ => rfl⟩
    | invalid split opens blocked =>
      rw [split]
      exact ⟨fun same => (by cases same), fun opens' =>
        absurd opens' (not_opens_of_blocked blocked)⟩
  case invalid =>
    intro n found
    rw [found] at fault
    cases fault with
    | @invalid front behind b split opens blocked =>
      have width := opens.length_le
      refine ⟨by omega, by omega, front, b :: behind, split, opens, rfl, ?_⟩
      intro front' behind' same
      exact length_le_of_blocked blocked (split.symm.trans same)

end ScriptLex.Text.Utf8
