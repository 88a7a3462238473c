import ScriptLex.Text.Bytes
import ScriptLex.Text.Utf8

/-! What the reader of UTF-8 holds of a character that has begun.

A first byte settles how many bytes follow it, the second byte keeps overlong forms, surrogates and
numbers past the last character out. What the reader holds after some bytes says which bytes
complete the character, and which character they make. -/

set_option autoImplicit false

namespace ScriptLex.Text.Utf8

/-- The bytes of a text. -/
def encode (cs : List Char) : List UInt8 := cs.flatMap String.utf8EncodeChar

@[simp] theorem encode_nil : encode [] = [] := rfl

@[simp] theorem encode_cons (c : Char) (cs : List Char) :
    encode (c :: cs) = String.utf8EncodeChar c ++ encode cs := rfl

theorem length_encode (cs : List Char) : (encode cs).length = byteLength cs := by
  induction cs with
  | nil => rfl
  | cons c cs ih =>
    rw [encode_cons, List.length_append, ih, String.length_utf8EncodeChar, byteLength_cons]

/-! ### Characters by the number of their bytes -/

theorem ofNat_eq_iff {n : Nat} {b : UInt8} (small : n < 256) :
    UInt8.ofNat n = b ↔ n = b.toNat := by
  rw [← UInt8.toNat_inj, UInt8.toNat_ofNat_of_lt' small]

section

variable {c : Char} {b : UInt8} {rest : List UInt8}

theorem utf8EncodeChar_one (size : c.toNat < 0x80) :
    String.utf8EncodeChar c = [UInt8.ofNat c.toNat] := if_pos (Nat.le_of_lt_succ size)

theorem utf8EncodeChar_two (size : 0x80 ≤ c.toNat ∧ c.toNat < 0x800) :
    String.utf8EncodeChar c =
      [UInt8.ofNat (c.toNat / 64 + 0xC0), UInt8.ofNat (c.toNat % 64 + 0x80)] := by
  have number : c.val.toNat = c.toNat := rfl
  rw [String.utf8EncodeChar, number, if_neg (by omega), if_pos (by omega),
    Nat.mod_eq_of_lt (show c.toNat / 64 < 32 by omega)]

theorem utf8EncodeChar_three (size : 0x800 ≤ c.toNat ∧ c.toNat < 0x10000) :
    String.utf8EncodeChar c =
      [UInt8.ofNat (c.toNat / 4096 + 0xE0), UInt8.ofNat (c.toNat / 64 % 64 + 0x80),
        UInt8.ofNat (c.toNat % 64 + 0x80)] := by
  have number : c.val.toNat = c.toNat := rfl
  rw [String.utf8EncodeChar, number, if_neg (by omega), if_neg (by omega), if_pos (by omega),
    Nat.mod_eq_of_lt (show c.toNat / 4096 < 16 by omega)]

theorem toNat_valid (c : Char) :
    c.toNat < 0xD800 ∨ 0xDFFF < c.toNat ∧ c.toNat < 0x110000 := c.valid

theorem utf8EncodeChar_four (size : 0x10000 ≤ c.toNat) :
    String.utf8EncodeChar c =
      [UInt8.ofNat (c.toNat / 262144 + 0xF0), UInt8.ofNat (c.toNat / 4096 % 64 + 0x80),
        UInt8.ofNat (c.toNat / 64 % 64 + 0x80), UInt8.ofNat (c.toNat % 64 + 0x80)] := by
  have number : c.val.toNat = c.toNat := rfl
  have valid := toNat_valid c
  rw [String.utf8EncodeChar, number, if_neg (by omega), if_neg (by omega), if_neg (by omega),
    Nat.mod_eq_of_lt (show c.toNat / 262144 < 8 by omega)]

/-- The first byte tells how many there are. -/
theorem size_of_first (encoded : String.utf8EncodeChar c = b :: rest) :
    (b.toNat < 0x80 ↔ c.toNat < 0x80) ∧ (b.toNat < 0xE0 ↔ c.toNat < 0x800) ∧
      (b.toNat < 0xF0 ↔ c.toNat < 0x10000) ∧
      (0x80 ≤ b.toNat → 0xC2 ≤ b.toNat ∧ b.toNat ≤ 0xF4) := by
  have valid := toNat_valid c
  by_cases one : c.toNat < 0x80
  · rw [utf8EncodeChar_one one, List.cons.injEq, ofNat_eq_iff (by omega)] at encoded
    omega
  by_cases two : c.toNat < 0x800
  · rw [utf8EncodeChar_two (by omega), List.cons.injEq, ofNat_eq_iff (by omega)] at encoded
    omega
  by_cases three : c.toNat < 0x10000
  · rw [utf8EncodeChar_three (by omega), List.cons.injEq, ofNat_eq_iff (by omega)] at encoded
    omega
  · rw [utf8EncodeChar_four (by omega), List.cons.injEq, ofNat_eq_iff (by omega)] at encoded
    omega

end

/-! ### Characters that have begun -/

/-- `begun.Completes bytes n`: the bytes are those that the character still needs, and its number
is then `n`. -/
inductive Begun.Completes : Begun → List UInt8 → Nat → Prop where
  | last {begun : Begun} {b : UInt8} {n : Nat} (inRange : begun.low ≤ b ∧ b ≤ begun.high)
      (one : begun.missing = 1) (number : n = (begun.extend b).bits) : Completes begun [b] n
  | more {begun : Begun} {b : UInt8} {bytes : List UInt8} {n : Nat}
      (inRange : begun.low ≤ b ∧ b ≤ begun.high) (more : 1 < begun.missing)
      (rest : Completes (begun.extend b) bytes n) : Completes begun (b :: bytes) n

namespace Begun

variable {begun : Begun} {bytes : List UInt8} {n : Nat}

theorem extend_bits (begun : Begun) (b : UInt8) :
    (begun.extend b).bits = 64 * begun.bits + (b.toNat - 0x80) := rfl

theorem extend_seen (begun : Begun) (b : UInt8) : (begun.extend b).seen = begun.seen + 1 := rfl

theorem extend_missing (begun : Begun) (b : UInt8) :
    (begun.extend b).missing = begun.missing - 1 := rfl

theorem completes_last_iff (one : begun.missing = 1) : begun.Completes bytes n ↔
    ∃ b, bytes = [b] ∧ (begun.low ≤ b ∧ b ≤ begun.high) ∧ n = (begun.extend b).bits := by
  constructor
  · intro completes
    cases completes with
    | last inRange one number => exact ⟨_, rfl, inRange, number⟩
    | more inRange more => omega
  · rintro ⟨b, rfl, inRange, number⟩
    exact .last inRange one number

theorem completes_more_iff (more : 1 < begun.missing) : begun.Completes bytes n ↔
    ∃ b rest, bytes = b :: rest ∧ (begun.low ≤ b ∧ b ≤ begun.high) ∧
      (begun.extend b).Completes rest n := by
  constructor
  · intro completes
    cases completes with
    | last inRange one => omega
    | more inRange more rest => exact ⟨_, _, rfl, inRange, rest⟩
  · rintro ⟨b, rest, rfl, inRange, completes⟩
    exact .more inRange more completes

theorem completes_two_iff (two : begun.missing = 2) : begun.Completes bytes n ↔
    ∃ x y, bytes = [x, y] ∧ (begun.low ≤ x ∧ x ≤ begun.high) ∧ (0x80 ≤ y ∧ y ≤ 0xBF) ∧
      n = ((begun.extend x).extend y).bits := by
  rw [completes_more_iff (by omega)]
  have one (x : UInt8) : (begun.extend x).missing = 1 := by rw [extend_missing, two]
  constructor
  · rintro ⟨x, rest, rfl, inRange, completes⟩
    obtain ⟨y, rfl, inRange', number⟩ := (completes_last_iff (one x)).1 completes
    exact ⟨x, y, rfl, inRange, inRange', number⟩
  · rintro ⟨x, y, rfl, inRange, inRange', number⟩
    exact ⟨x, [y], rfl, inRange, .last inRange' (one x) number⟩

theorem completes_three_iff (three : begun.missing = 3) : begun.Completes bytes n ↔
    ∃ x y z, bytes = [x, y, z] ∧ (begun.low ≤ x ∧ x ≤ begun.high) ∧ (0x80 ≤ y ∧ y ≤ 0xBF) ∧
      (0x80 ≤ z ∧ z ≤ 0xBF) ∧ n = (((begun.extend x).extend y).extend z).bits := by
  rw [completes_more_iff (by omega)]
  have two (x : UInt8) : (begun.extend x).missing = 2 := by rw [extend_missing, three]
  constructor
  · rintro ⟨x, rest, rfl, inRange, completes⟩
    obtain ⟨y, z, rfl, inRange', inRange'', number⟩ := (completes_two_iff (two x)).1 completes
    exact ⟨x, y, z, rfl, inRange, inRange', inRange'', number⟩
  · rintro ⟨x, y, z, rfl, inRange, inRange', inRange'', number⟩
    exact ⟨x, [y, z], rfl, inRange,
      (completes_two_iff (two x)).2 ⟨y, z, rfl, inRange', inRange'', number⟩⟩

end Begun

/-- `Holds seen begun`: after the bytes `seen` the reader holds `begun`, and the characters that
begin with them are those that `begun` can be completed to. -/
structure Holds (seen : List UInt8) (begun : Begun) : Prop where
  nonempty : seen ≠ []
  length : begun.seen = seen.length
  missing : 0 < begun.missing
  range : begun.low ≤ begun.high
  completes : ∀ (c : Char) (rest : List UInt8),
    String.utf8EncodeChar c = seen ++ rest ↔ begun.Completes rest c.toNat
  valid : ∀ (rest : List UInt8) (n : Nat), begun.Completes rest n → n.isValidChar

theorem Holds.extend {seen : List UInt8} {begun : Begun} (holds : Holds seen begun) {b : UInt8}
    (inRange : begun.low ≤ b ∧ b ≤ begun.high) (more : 1 < begun.missing) :
    Holds (seen ++ [b]) (begun.extend b) where
  nonempty := by simp
  length := by rw [Begun.extend_seen, holds.length, List.length_append, List.length_singleton]
  missing := Nat.sub_pos_of_lt more
  range := show (0x80 : UInt8) ≤ 0xBF by decide
  completes c rest := by
    rw [List.append_assoc, List.singleton_append, holds.completes, Begun.completes_more_iff more]
    constructor
    · rintro ⟨d, rest', same, -, completes⟩
      obtain ⟨rfl, rfl⟩ := List.cons.inj same
      exact completes
    · exact fun completes => ⟨b, rest, rfl, inRange, completes⟩
  valid rest n completes := holds.valid (b :: rest) n (.more inRange more completes)

theorem toNat_ofNat {n : Nat} (small : n < 256) : (UInt8.ofNat n).toNat = n :=
  UInt8.toNat_ofNat_of_lt' small

theorem holds_two {b : UInt8} (first : 0xC2 ≤ b.toNat ∧ b.toNat < 0xE0) :
    Holds [b] ⟨b.toNat - 0xC0, 1, 1, 0x80, 0xBF⟩ where
  nonempty := List.cons_ne_nil b []
  length := rfl
  missing := Nat.one_pos
  range := by simp only; decide
  completes c rest := by
    rw [Begun.completes_last_iff rfl, List.singleton_append]
    simp only [Begun.extend_bits, UInt8.le_iff_toNat_le, UInt8.reduceToNat]
    constructor
    · intro encoded
      have size := size_of_first encoded
      rw [utf8EncodeChar_two (by omega), List.cons.injEq, ofNat_eq_iff (by omega)] at encoded
      refine ⟨_, encoded.2.symm, ?_⟩
      rw [toNat_ofNat (by omega)]
      omega
    · rintro ⟨x, rfl, inRange, number⟩
      rw [utf8EncodeChar_two (by omega), List.cons.injEq, List.cons.injEq, ofNat_eq_iff (by omega),
        ofNat_eq_iff (by omega)]
      simp only [and_true]
      omega
  valid rest n completes := by
    rw [Begun.completes_last_iff rfl] at completes
    simp only [Begun.extend_bits, UInt8.le_iff_toNat_le, UInt8.reduceToNat] at completes
    obtain ⟨x, -, inRange, number⟩ := completes
    rw [Nat.isValidChar]
    omega

-- The second byte decides on overlong forms and surrogates, whatever the third one is.
theorem holds_three {b low high : UInt8} {bits : Nat} (first : 0xE0 ≤ b.toNat ∧ b.toNat < 0xF0)
    (lead : bits = b.toNat - 0xE0) (ordered : low ≤ high)
    (range : ∀ x, low.toNat ≤ x ∧ x ≤ high.toNat ↔ (0x80 ≤ x ∧ x ≤ 0xBF) ∧
      0x800 ≤ 4096 * (b.toNat - 0xE0) + 64 * (x - 0x80) ∧
      ¬(0xD800 ≤ 4096 * (b.toNat - 0xE0) + 64 * (x - 0x80) ∧
        4096 * (b.toNat - 0xE0) + 64 * (x - 0x80) ≤ 0xDFFF)) :
    Holds [b] ⟨bits, 1, 2, low, high⟩ where
  nonempty := List.cons_ne_nil b []
  length := rfl
  missing := Nat.two_pos
  range := ordered
  completes c rest := by
    rw [Begun.completes_two_iff rfl, List.singleton_append]
    simp only [Begun.extend_bits, UInt8.le_iff_toNat_le, UInt8.reduceToNat, range]
    have valid := toNat_valid c
    constructor
    · intro encoded
      have size := size_of_first encoded
      rw [utf8EncodeChar_three (by omega), List.cons.injEq, ofNat_eq_iff (by omega)] at encoded
      refine ⟨_, _, encoded.2.symm, ?_⟩
      rw [toNat_ofNat (by omega), toNat_ofNat (by omega)]
      omega
    · rintro ⟨x, y, rfl, inRange, inRange', number⟩
      rw [utf8EncodeChar_three (by omega), List.cons.injEq, List.cons.injEq, List.cons.injEq,
        ofNat_eq_iff (by omega), ofNat_eq_iff (by omega), ofNat_eq_iff (by omega)]
      simp only [and_true]
      omega
  valid rest n completes := by
    rw [Begun.completes_two_iff rfl] at completes
    simp only [Begun.extend_bits, UInt8.le_iff_toNat_le, UInt8.reduceToNat, range] at completes
    obtain ⟨x, y, -, inRange, inRange', number⟩ := completes
    rw [Nat.isValidChar]
    omega

theorem holds_four {b low high : UInt8} {bits : Nat} (first : 0xF0 ≤ b.toNat)
    (lead : bits = b.toNat - 0xF0) (ordered : low ≤ high)
    (range : ∀ x, low.toNat ≤ x ∧ x ≤ high.toNat ↔ (0x80 ≤ x ∧ x ≤ 0xBF) ∧
      0x10000 ≤ 262144 * (b.toNat - 0xF0) + 4096 * (x - 0x80) ∧
      262144 * (b.toNat - 0xF0) + 4096 * (x - 0x80) < 0x110000) :
    Holds [b] ⟨bits, 1, 3, low, high⟩ where
  nonempty := List.cons_ne_nil b []
  length := rfl
  missing := Nat.succ_pos 2
  range := ordered
  completes c rest := by
    rw [Begun.completes_three_iff rfl, List.singleton_append]
    simp only [Begun.extend_bits, UInt8.le_iff_toNat_le, UInt8.reduceToNat, range]
    have valid := toNat_valid c
    constructor
    · intro encoded
      have size := size_of_first encoded
      rw [utf8EncodeChar_four (by omega), List.cons.injEq, ofNat_eq_iff (by omega)] at encoded
      refine ⟨_, _, _, encoded.2.symm, ?_⟩
      rw [toNat_ofNat (by omega), toNat_ofNat (by omega), toNat_ofNat (by omega)]
      omega
    · rintro ⟨x, y, z, rfl, inRange, inRange', inRange'', number⟩
      rw [utf8EncodeChar_four (by omega), List.cons.injEq, List.cons.injEq, List.cons.injEq,
        List.cons.injEq, ofNat_eq_iff (by omega), ofNat_eq_iff (by omega), ofNat_eq_iff (by omega),
        ofNat_eq_iff (by omega)]
      simp only [and_true]
      omega
  valid rest n completes := by
    rw [Begun.completes_three_iff rfl] at completes
    simp only [Begun.extend_bits, UInt8.le_iff_toNat_le, UInt8.reduceToNat, range] at completes
    obtain ⟨x, y, z, -, inRange, inRange', inRange'', number⟩ := completes
    rw [Nat.isValidChar]
    omega

theorem holds_begin? {b : UInt8} {begun : Begun} (begins : begin? b = some begun) :
    Holds [b] begun := by
  simp only [begin?, UInt8.lt_iff_toNat_lt, ← UInt8.toNat_inj, UInt8.reduceToNat] at begins
  split at begins
  · cases begins
  split at begins
  · obtain rfl := Option.some.inj begins
    exact holds_two (by omega)
  split at begins
  · obtain rfl := Option.some.inj begins
    exact holds_three (by omega) (by omega) (by decide)
      fun x => by simp only [UInt8.reduceToNat]; omega
  split at begins
  · obtain rfl := Option.some.inj begins
    exact holds_three (by omega) (by omega) (by decide)
      fun x => by simp only [UInt8.reduceToNat]; omega
  split at begins
  · obtain rfl := Option.some.inj begins
    exact holds_three (by omega) (by omega) (by decide)
      fun x => by simp only [UInt8.reduceToNat]; omega
  split at begins
  · obtain rfl := Option.some.inj begins
    exact holds_four (by omega) (by omega) (by decide)
      fun x => by simp only [UInt8.reduceToNat]; omega
  split at begins
  · obtain rfl := Option.some.inj begins
    exact holds_four (by omega) (by omega) (by decide)
      fun x => by simp only [UInt8.reduceToNat]; omega
  split at begins
  · obtain rfl := Option.some.inj begins
    exact holds_four (by omega) (by omega) (by decide)
      fun x => by simp only [UInt8.reduceToNat]; omega
  · cases begins

theorem begin?_none {b : UInt8} (none : begin? b = none) : b.toNat < 0xC2 ∨ 0xF4 < b.toNat := by
  simp only [begin?, UInt8.lt_iff_toNat_lt, ← UInt8.toNat_inj, UInt8.reduceToNat] at none
  repeat' split at none
  all_goals first | omega | cases none

/-- No character begins with a byte that begins none. -/
theorem utf8EncodeChar_ne {b : UInt8} (high : ¬b < 0x80) (none : begin? b = none) (c : Char)
    (rest : List UInt8) : String.utf8EncodeChar c ≠ b :: rest := by
  intro encoded
  have size := size_of_first encoded
  have outside := begin?_none none
  simp only [UInt8.lt_iff_toNat_lt, UInt8.reduceToNat] at high
  omega

/-! ### What begins a character -/

/-- The bytes are the beginning of a character, and not all of it. -/
def Opens (bytes : List UInt8) : Prop :=
  ∃ c rest, rest ≠ [] ∧ String.utf8EncodeChar c = bytes ++ rest

theorem toNat_ofNat_of_valid {n : Nat} (valid : n.isValidChar) : (Char.ofNat n).toNat = n := by
  rw [Char.ofNat, dif_pos valid]
  rfl

theorem toNat_ofNat_byte (b : UInt8) : (Char.ofNat b.toNat).toNat = b.toNat :=
  toNat_ofNat_of_valid (.inl (Nat.lt_trans b.toNat_lt (by decide)))

theorem Begun.exists_completes (begun : Begun) (missing : 0 < begun.missing)
    (range : begun.low ≤ begun.high) : ∃ bytes n, begun.Completes bytes n := by
  have inRange : begun.low ≤ begun.low ∧ begun.low ≤ begun.high := ⟨UInt8.le_refl _, range⟩
  by_cases more : 1 < begun.missing
  · obtain ⟨bytes, n, completes⟩ := (begun.extend begun.low).exists_completes
      (Nat.sub_pos_of_lt more) (show (0x80 : UInt8) ≤ 0xBF by decide)
    exact ⟨_, n, .more inRange more completes⟩
  · exact ⟨_, _, .last inRange (by omega) rfl⟩
termination_by begun.missing
decreasing_by
  rw [extend_missing]
  omega

theorem Begun.Completes.ne_nil {begun : Begun} {bytes : List UInt8} {n : Nat}
    (completes : begun.Completes bytes n) : bytes ≠ [] := by
  cases completes <;> simp

namespace Holds

variable {seen : List UInt8} {begun : Begun} (holds : Holds seen begun)

include holds

theorem encodes {bytes : List UInt8} {n : Nat} (completes : begun.Completes bytes n) :
    String.utf8EncodeChar (Char.ofNat n) = seen ++ bytes := by
  have number := toNat_ofNat_of_valid (holds.valid bytes n completes)
  rw [← number] at completes
  exact (holds.completes _ bytes).2 completes

theorem opens : Opens seen := by
  obtain ⟨bytes, n, completes⟩ := begun.exists_completes holds.missing holds.range
  exact ⟨Char.ofNat n, bytes, completes.ne_nil, holds.encodes completes⟩

theorem blocked {b : UInt8} (outside : ¬(begun.low ≤ b ∧ b ≤ begun.high)) (c : Char)
    (rest : List UInt8) : String.utf8EncodeChar c ≠ seen ++ b :: rest := by
  intro encoded
  cases (holds.completes c _).1 encoded with
  | last inRange => exact outside inRange
  | more inRange => exact outside inRange

end Holds

end ScriptLex.Text.Utf8
