import ScriptLex.Program
import ScriptLex.Proofs.Place
import ScriptLex.Proofs.Utf8

/-! What the bytes of a source decode to, in either encoding. -/

set_option autoImplicit false

namespace ScriptLex

open ScriptLex.Source ScriptLex.Text

namespace Text.Utf8

/-- Low bytes are characters of their own. -/
theorem encode_ofNat {bytes : List UInt8} (low : ∀ b ∈ bytes, b < 0x80) :
    encode (bytes.map fun b => Char.ofNat b.toNat) = bytes := by
  induction bytes with
  | nil => rfl
  | cons b bytes ih =>
    rw [List.map_cons, encode_cons, utf8EncodeChar_ofNat (low b List.mem_cons_self),
      ih fun d member => low d (List.mem_cons_of_mem b member), List.singleton_append]

/-- A text of as many bytes as characters has low bytes only. -/
theorem low_of_byteLength_le {cs : List Char} (short : byteLength cs ≤ cs.length) :
    ∀ b ∈ encode cs, b < 0x80 := by
  induction cs with
  | nil => simp
  | cons c cs ih =>
    have width : 0 < c.utf8Size := c.utf8Size_pos
    have rest := length_le_byteLength cs
    rw [byteLength_cons, List.length_cons] at short
    have one : c.utf8Size = 1 := by omega
    have small : c.toNat < 0x80 := Nat.lt_succ_of_le (Char.utf8Size_eq_one_iff.1 one)
    rw [encode_cons, utf8EncodeChar_one small, List.singleton_append]
    refine List.forall_mem_cons.2 ⟨?_, ih (by omega)⟩
    rwa [UInt8.lt_iff_toNat_lt, toNat_ofNat (by omega)]

end Text.Utf8

namespace Source.Encoding

theorem withoutMark_eq_iff {cs text : List Char} : withoutMark cs = text ↔
    cs = text ∧ text.head? ≠ some '\ufeff' ∨ cs = '\ufeff' :: text := by
  unfold withoutMark
  split
  case h_1 rest =>
    constructor
    · rintro rfl
      exact .inr rfl
    · rintro (⟨rfl, unmarked⟩ | marked)
      · exact absurd rfl unmarked
      · exact List.tail_eq_of_cons_eq marked
  case h_2 unmarked =>
    constructor
    · rintro rfl
      refine .inl ⟨rfl, fun marked => ?_⟩
      obtain ⟨rest, rfl⟩ := List.head?_eq_some_iff.1 marked
      exact unmarked rest rfl
    · rintro (⟨rfl, -⟩ | rfl)
      · rfl
      · exact absurd rfl (unmarked text)

theorem withoutMark_length (cs : List Char) : (withoutMark cs).length ≤ cs.length := by
  unfold withoutMark
  split
  · exact Nat.le_succ _
  · exact Nat.le_refl _

end Source.Encoding

namespace Program

open ScriptLex.Source.Encoding ScriptLex.Text.Utf8

/-- What is known of the text of a source, in either encoding. -/
structure DecodesExactly (path : String) (bytes : List UInt8) : Prop where
  utf8 : ∀ text : String, decodeSource .utf8 path bytes = .ok text ↔
    bytes = encode text.toList ∧ text.toList.head? ≠ some '\ufeff' ∨
      bytes = encode ('\ufeff' :: text.toList)
  refused : (∀ text, decodeSource .utf8 path bytes ≠ .ok text) →
    ∃ malformed cs rest, decodeSource .utf8 path bytes = .error (.undecodable path malformed) ∧
      FirstFault bytes malformed cs rest
  latin1 : ∃ text, decodeSource .latin1 path bytes = .ok text ∧
    text.toList.map Char.toNat = bytes.map UInt8.toNat
  agree : (∃ text, decodeSource .utf8 path bytes = .ok text ∧
      decodeSource .latin1 path bytes = .ok text) ↔ ∀ b ∈ bytes, b < 0x80

section

variable {path : String} {bytes : List UInt8} {text : String}

theorem decodeSource_utf8 : decodeSource .utf8 path bytes =
    ((Utf8.decode bytes).map fun cs => String.ofList (withoutMark cs)).mapError
      (.undecodable path) := rfl

theorem decodeSource_utf8_eq_ok_iff : decodeSource .utf8 path bytes = .ok text ↔
    ∃ cs, bytes = encode cs ∧ withoutMark cs = text.toList := by
  simp only [← decode_eq_ok_iff, decodeSource_utf8]
  cases Utf8.decode bytes with
  | ok cs =>
    constructor
    · intro decoded
      obtain rfl := Except.ok.inj decoded
      exact ⟨cs, rfl, String.toList_ofList.symm⟩
    · rintro ⟨_, ⟨⟩, unmarked⟩
      have same : String.ofList (withoutMark cs) = text := by rw [unmarked, String.ofList_toList]
      exact congrArg Except.ok same
  | error malformed =>
    constructor
    · rintro ⟨⟩
    · rintro ⟨_, ⟨⟩, _⟩

theorem decodeSource_utf8_eq_error {failure : Failure}
    (refused : decodeSource .utf8 path bytes = .error failure) :
    ∃ malformed, Utf8.decode bytes = .error malformed ∧ failure = .undecodable path malformed := by
  rw [decodeSource_utf8] at refused
  cases decoded : Utf8.decode bytes with
  | ok cs =>
    rw [decoded] at refused
    cases refused
  | error malformed =>
    rw [decoded] at refused
    exact ⟨malformed, rfl, (Except.error.inj refused).symm⟩

theorem decodeSource_latin1 : decodeSource .latin1 path bytes = .ok text ↔
    bytes.map (fun b => Char.ofNat b.toNat) = text.toList := by
  have same : decodeSource .latin1 path bytes =
      .ok (String.ofList (bytes.map fun b => Char.ofNat b.toNat)) := rfl
  rw [same, Except.ok.injEq, String.ext_iff, String.toList_ofList]

/-- No character below 256 is a byte order mark. -/
theorem head?_ofNat_ne (bytes : List UInt8) :
    (bytes.map fun b => Char.ofNat b.toNat).head? ≠ some '\ufeff' := by
  cases bytes with
  | nil => simp
  | cons b bytes =>
    intro marked
    have same : (Char.ofNat b.toNat).toNat = 0xFEFF :=
      congrArg Char.toNat (Option.some.inj marked)
    rw [toNat_ofNat_byte] at same
    have small := b.toNat_lt
    omega

/-- The encodings agree on low bytes, each a character of the same number in both, and on no
others. -/
theorem decodeSource_agree_iff : (∃ text, decodeSource .utf8 path bytes = .ok text ∧
    decodeSource .latin1 path bytes = .ok text) ↔ ∀ b ∈ bytes, b < 0x80 := by
  simp only [decodeSource_utf8_eq_ok_iff, decodeSource_latin1]
  constructor
  · rintro ⟨text, ⟨cs, rfl, unmarked⟩, single⟩
    apply low_of_byteLength_le
    calc byteLength cs
        = (encode cs).length := (length_encode cs).symm
      _ = text.toList.length := by rw [← single, List.length_map]
      _ = (withoutMark cs).length := by rw [unmarked]
      _ ≤ cs.length := withoutMark_length cs
  · intro low
    have unmarked := head?_ofNat_ne bytes
    have encoded := encode_ofNat low
    generalize bytes.map (fun b => Char.ofNat b.toNat) = cs at unmarked encoded ⊢
    refine ⟨String.ofList cs, ⟨cs, encoded.symm, ?_⟩, String.toList_ofList.symm⟩
    rw [String.toList_ofList]
    exact withoutMark_eq_iff.2 (.inl ⟨rfl, unmarked⟩)

end

/-- Source text is what its encoding says, and a source that is refused is so for its first
fault. -/
theorem decodes_exactly (path : String) (bytes : List UInt8) : DecodesExactly path bytes := by
  refine ⟨fun text => ?utf8, fun refused => ?refused, ?latin1, decodeSource_agree_iff⟩
  case utf8 =>
    rw [decodeSource_utf8_eq_ok_iff]
    simp only [withoutMark_eq_iff]
    constructor
    · rintro ⟨cs, encoded, ⟨rfl, unmarked⟩ | rfl⟩
      · exact .inl ⟨encoded, unmarked⟩
      · exact .inr encoded
    · rintro (⟨encoded, unmarked⟩ | encoded)
      · exact ⟨_, encoded, .inl ⟨rfl, unmarked⟩⟩
      · exact ⟨_, encoded, .inr rfl⟩
  case refused =>
    cases decoded : decodeSource .utf8 path bytes with
    | ok text => exact absurd decoded (refused text)
    | error failure =>
      obtain ⟨malformed, failed, rfl⟩ := decodeSource_utf8_eq_error decoded
      obtain ⟨cs, rest, fault⟩ := exists_firstFault failed
      exact ⟨malformed, cs, rest, rfl, fault⟩
  case latin1 =>
    refine ⟨_, decodeSource_latin1.2 String.toList_ofList.symm, ?_⟩
    rw [String.toList_ofList, List.map_map]
    exact List.map_congr_left fun b _ => toNat_ofNat_byte b

-- What would be a surrogate is invalid from its first byte on, which alone begins other characters.
example : decodeSource .utf8 "main.sp" [0x41, 0xED, 0xA0, 0x80] =
    .error (.undecodable "main.sp" ⟨1, .invalid 1⟩) := rfl

end Program

end ScriptLex
