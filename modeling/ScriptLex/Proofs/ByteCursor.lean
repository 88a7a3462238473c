import ScriptLex.Proofs.Cursor
import ScriptLex.Proofs.Place
import ScriptLex.Proofs.Utf8Character

/-! A cursor on the bytes of a source.

It keeps a byte position and nothing of what is still to be read. The character at a position is found
from the bytes there: one below 128 is a character of its own, any other one begins a character that
is cut out of the source. NUL stands for the end, though a source may hold it as well. Every step that
an offset within a character would stop gives no result.

Wherever such a cursor comes, it stands between two characters, and there it answers as the cursor
does that carries the rest of the source along. -/

set_option autoImplicit false

namespace ScriptLex

open ScriptLex.Text

structure ByteCursor where
  source : String
  position : Nat
  line : UInt32
  deriving DecidableEq, Repr

namespace ByteCursor

def ofSource (source : String) : ByteCursor := ⟨source, 0, 1⟩

def size (cursor : ByteCursor) : Nat := cursor.source.toByteArray.size

def atEnd (cursor : ByteCursor) : Bool := cursor.size ≤ cursor.position

def charAt? (cursor : ByteCursor) (offset : Nat) : Option Char :=
  match cursor.source.toByteArray[offset]? with
  | none => some '\x00'
  | some b =>
    if b < 128 then some (Char.ofNat b.toNat)
    else (splitAt? cursor.source.toList offset).map fun parts => parts.2.head?.getD '\x00'

def current? (cursor : ByteCursor) : Option Char := cursor.charAt? cursor.position

-- Whether another character begins behind the current one and is `c`.
def nextIs? (cursor : ByteCursor) (c : Char) : Option Bool :=
  if cursor.atEnd then some false
  else match cursor.current? with
    | none => none
    | some d =>
      let next := cursor.position + d.utf8Size
      if next < cursor.size then (cursor.charAt? next).map (· == c) else some false

/-- The cursor past a character. -/
def past (cursor : ByteCursor) (c : Char) : ByteCursor :=
  { cursor with
    position := cursor.position + c.utf8Size
    line := if c = '\n' then cursor.line + 1 else cursor.line }

def advance? (cursor : ByteCursor) : Option ByteCursor :=
  if cursor.atEnd then some cursor else cursor.current?.map cursor.past

theorem left_lt_of_advance? {cursor after : ByteCursor} (more : ¬cursor.atEnd = true)
    (moved : cursor.advance? = some after) :
    after.size - after.position < cursor.size - cursor.position := by
  have inside : cursor.position < cursor.size := by simpa [atEnd] using more
  rw [advance?, if_neg more] at moved
  obtain ⟨c, -, rfl⟩ := Option.map_eq_some_iff.1 moved
  exact Nat.sub_lt_sub_left inside (Nat.lt_add_of_pos_right c.utf8Size_pos)

/-- The number of characters that satisfy `p` up to the first that does not, and the cursor there. -/
def advanceWhile? (p : Char → Bool) (cursor : ByteCursor) : Option (Nat × ByteCursor) :=
  if _more : cursor.atEnd = true then some (0, cursor)
  else match cursor.current? with
    | none => none
    | some c =>
      if p c then
        match _moved : cursor.advance? with
        | none => none
        | some after => (after.advanceWhile? p).map fun (count, last) => (count + 1, last)
      else some (0, cursor)
termination_by cursor.size - cursor.position
decreasing_by exact left_lt_of_advance? _more _moved

def remaining? (cursor : ByteCursor) : Option String :=
  (splitAt? cursor.source.toList cursor.position).map fun parts => String.ofList parts.2

def sliceFrom? (cursor : ByteCursor) (start : Nat) : Option String :=
  (slice? cursor.source.toList start cursor.position).map String.ofList

end ByteCursor

namespace Cursor

/-- What is left of a cursor if only its place is kept. -/
def onBytes (cursor : Cursor) : ByteCursor := ⟨cursor.source, cursor.position, cursor.line⟩

end Cursor

/-! ### Bytes and characters at a place -/

namespace ByteCursor

open Cursor (between)

variable {before rest : List Char} {c : Char}

theorem getElem?_toByteArray (before rest : List Char) :
    (String.ofList (before ++ rest)).toByteArray[byteLength before]? =
      (Utf8.encode rest)[0]? := by
  have bytes : (String.ofList (before ++ rest)).toByteArray.data =
      (Utf8.encode (before ++ rest)).toArray := by
    rw [String.toByteArray_ofList, List.utf8Encode, List.data_toByteArray]
    rfl
  have parts : Utf8.encode (before ++ rest) = Utf8.encode before ++ Utf8.encode rest :=
    List.flatMap_append
  calc (String.ofList (before ++ rest)).toByteArray[byteLength before]?
    _ = (String.ofList (before ++ rest)).toByteArray.data[byteLength before]? := rfl
    _ = (Utf8.encode (before ++ rest))[byteLength before]? := by rw [bytes, List.getElem?_toArray]
    _ = (Utf8.encode rest)[0]? := by
      rw [parts, ← Utf8.length_encode, List.getElem?_append_right (Nat.le_refl _), Nat.sub_self]

theorem size_toByteArray (cs : List Char) :
    (String.ofList cs).toByteArray.size = byteLength cs := by
  rw [String.toByteArray_ofList, List.utf8Encode, List.size_toByteArray]
  exact Utf8.length_encode cs

/-- A low byte is the character that it begins, and no other byte is. -/
theorem exists_first_byte (c : Char) (rest : List Char) :
    ∃ b, (Utf8.encode (c :: rest))[0]? = some b ∧
      (b < 128 → Char.ofNat b.toNat = c) := by
  have width := String.length_utf8EncodeChar c
  cases encoded : String.utf8EncodeChar c with
  | nil =>
    have positive : 0 < c.utf8Size := c.utf8Size_pos
    rw [encoded, List.length_nil] at width
    omega
  | cons b bytes =>
    refine ⟨b, by rw [Utf8.encode_cons, encoded]; rfl, fun low => ?_⟩
    have small := (Utf8.size_of_first encoded).1.1 (UInt8.lt_iff_toNat_lt.1 low)
    rw [Utf8.utf8EncodeChar_one small, List.cons.injEq, Utf8.ofNat_eq_iff (by omega)] at encoded
    rw [← encoded.1, Char.ofNat_toNat]

/-- Between two parts of the source begins the second one. -/
theorem charAt?_of_split {cursor : ByteCursor} (split : cursor.source.toList = before ++ rest) :
    cursor.charAt? (byteLength before) = some (rest.head?.getD '\x00') := by
  have source : cursor.source = String.ofList (before ++ rest) := by
    rw [← split, String.ofList_toList]
  rw [charAt?, source, getElem?_toByteArray]
  cases rest with
  | nil => rfl
  | cons c rest =>
    obtain ⟨b, first, low⟩ := exists_first_byte c rest
    rw [first]
    dsimp only
    split
    case isTrue small => rw [low small]; rfl
    case isFalse => rw [String.toList_ofList, splitAt?_append]; rfl

@[simp] theorem onBytes_source (before rest : List Char) :
    (between before rest).onBytes.source = String.ofList (before ++ rest) := rfl

@[simp] theorem onBytes_position (before rest : List Char) :
    (between before rest).onBytes.position = byteLength before := rfl

theorem onBytes_size (before rest : List Char) :
    (between before rest).onBytes.size = byteLength before + byteLength rest := by
  rw [size, onBytes_source, size_toByteArray, byteLength_append]

theorem onBytes_split (before rest : List Char) :
    (between before rest).onBytes.source.toList = before ++ rest := String.toList_ofList

theorem onBytes_atEnd (before rest : List Char) :
    (between before rest).onBytes.atEnd = rest.isEmpty := by
  rw [atEnd, onBytes_size, onBytes_position]
  cases rest with
  | nil => simp
  | cons c rest =>
    have width : 0 < c.utf8Size := c.utf8Size_pos
    rw [byteLength_cons]
    exact decide_eq_false (by omega)

theorem onBytes_current? (before rest : List Char) :
    (between before rest).onBytes.current? = some (rest.head?.getD '\x00') :=
  charAt?_of_split (onBytes_split before rest)

theorem onBytes_nextIs? (before rest : List Char) (c : Char) :
    (between before rest).onBytes.nextIs? c = some ((between before rest).nextIs c) := by
  rw [nextIs?, onBytes_atEnd, onBytes_current?, Cursor.between_nextIs]
  cases rest with
  | nil => rfl
  | cons d rest =>
    have next := @charAt?_of_split (before ++ [d]) rest (between before (d :: rest)).onBytes
      (by simp)
    rw [byteLength_append] at next
    simp only [List.isEmpty_cons, List.head?_cons, Option.getD_some, onBytes_size,
      onBytes_position, byteLength_cons, List.tail_cons]
    cases rest with
    | nil => simp
    | cons e rest =>
      have width : 0 < e.utf8Size := e.utf8Size_pos
      rw [if_neg (by decide), if_pos (by rw [byteLength_cons]; omega)]
      simpa using congrArg (Option.map (· == c)) next

theorem onBytes_advance? (before rest : List Char) :
    (between before rest).onBytes.advance? = some (between before rest).advance.onBytes := by
  rw [advance?, onBytes_atEnd, onBytes_current?]
  cases rest with
  | nil => rfl
  | cons c rest => rfl

theorem onBytes_advanceWhile? (p : Char → Bool) (before rest : List Char) :
    (between before rest).onBytes.advanceWhile? p =
      some (((between before rest).takeWhile p).1.length,
        ((between before rest).takeWhile p).2.onBytes) := by
  rw [Cursor.between_takeWhile]
  induction rest generalizing before with
  | nil =>
    have ends : (between before []).onBytes.atEnd = true := onBytes_atEnd before []
    rw [advanceWhile?, dif_pos ends]
    simp
  | cons c rest ih =>
    have more : ¬(between before (c :: rest)).onBytes.atEnd = true := by
      rw [onBytes_atEnd]
      exact Bool.false_ne_true
    rw [advanceWhile?, dif_neg more, onBytes_current?]
    dsimp only [List.head?_cons, Option.getD_some]
    cases holds : p c with
    | false => simp [holds]
    | true =>
      have moved := onBytes_advance? before (c :: rest)
      rw [Cursor.between_advance] at moved
      rw [if_pos rfl]
      split
      case h_1 none => rw [moved] at none; cases none
      case h_2 after found =>
        obtain rfl := Option.some.inj (moved.symm.trans found)
        rw [ih (before ++ [c])]
        simp [holds]

theorem onBytes_remaining? (before rest : List Char) :
    (between before rest).onBytes.remaining? = some (between before rest).remaining := by
  rw [remaining?, onBytes_split, onBytes_position, splitAt?_append]
  rfl

/-- The place of a cursor tells the parts that it stands between. -/
theorem onBytes_injective {before' rest' : List Char}
    (same : (between before rest).onBytes = (between before' rest').onBytes) :
    before = before' ∧ rest = rest' := by
  have source := congrArg (fun cursor : ByteCursor => cursor.source.toList) same
  simp only [onBytes_split] at source
  have cut := splitAt?_append before rest
  rw [show byteLength before = byteLength before' from congrArg position same, source,
    splitAt?_append] at cut
  obtain ⟨rfl, rfl⟩ := Prod.mk.inj (Option.some.inj cut)
  exact ⟨rfl, rfl⟩

/-! ### What a cursor answers -/

/-- Each operation on the bytes gives a result, the one that the cursor with the rest has. -/
structure Agrees (bytes : ByteCursor) (cursor : Cursor) : Prop where
  place : bytes = cursor.onBytes
  atEnd : bytes.atEnd = cursor.atEnd
  current : bytes.current? = some (cursor.current?.getD '\x00')
  next : ∀ c, bytes.nextIs? c = some (cursor.nextIs c)
  advance : bytes.advance? = some cursor.advance.onBytes
  advanceWhile : ∀ p, bytes.advanceWhile? p =
    some ((cursor.takeWhile p).1.length, (cursor.takeWhile p).2.onBytes)
  slice : ∀ start, bytes.sliceFrom? start = cursor.sliceFrom? start
  remaining : bytes.remaining? = some cursor.remaining

theorem agrees_between (before rest : List Char) :
    (between before rest).onBytes.Agrees (between before rest) where
  place := rfl
  atEnd := onBytes_atEnd before rest
  current := onBytes_current? before rest
  next := onBytes_nextIs? before rest
  advance := onBytes_advance? before rest
  advanceWhile p := onBytes_advanceWhile? p before rest
  slice _ := rfl
  remaining := onBytes_remaining? before rest

/-- `bytes.StandsAt before rest`: the source is cut between `before` and `rest`, and what is read,
passed over and sliced off there are the characters of the two. -/
structure StandsAt (bytes : ByteCursor) (before rest : List Char) : Prop where
  source : bytes.source.toList = before ++ rest
  position : bytes.position = byteLength before
  line : bytes.line = lineAfter before
  atEnd : bytes.atEnd = true ↔ rest = []
  remaining : bytes.remaining? = some (String.ofList rest)
  current : bytes.current? = some (rest.head?.getD '\x00')
  next : ∀ c, ∃ answer, bytes.nextIs? c = some answer ∧
    (answer = true ↔ ∃ d more, rest = d :: c :: more)
  advance : ∃ after, bytes.advance? = some after ∧ after.source = bytes.source ∧
    after.remaining? = some (String.ofList rest.tail) ∧
    after.line = if rest.head? = some '\n' then bytes.line + 1 else bytes.line
  advanceWhile : ∀ p, ∃ run more after, rest = run ++ more ∧ (∀ c ∈ run, p c = true) ∧
    StopsAt p more ∧ bytes.advanceWhile? p = some (run.length, after) ∧
    after.source = bytes.source ∧ after.remaining? = some (String.ofList more) ∧
    after.line = lineAfter (before ++ run)
  slice : ∀ front back, before = front ++ back →
    bytes.sliceFrom? (byteLength front) = some (String.ofList back)

theorem nextIs_iff (before rest : List Char) (c : Char) :
    (between before rest).nextIs c = true ↔ ∃ d more, rest = d :: c :: more := by
  rw [Cursor.between_nextIs, beq_iff_eq]
  match rest with
  | [] => simp
  | [d] => simp
  | d :: e :: more => simp [eq_comm]

theorem between_sliceFrom? (front back rest : List Char) :
    (between (front ++ back) rest).sliceFrom? (byteLength front) = some (String.ofList back) := by
  have cut := slice?_append front back rest
  rw [← byteLength_append, ← List.append_assoc] at cut
  rw [Cursor.sliceFrom?, Cursor.between_position, Cursor.between, String.toList_ofList, cut]
  rfl

theorem standsAt_between (before rest : List Char) :
    (between before rest).onBytes.StandsAt before rest where
  source := onBytes_split before rest
  position := rfl
  line := rfl
  atEnd := by rw [onBytes_atEnd, List.isEmpty_iff]
  remaining := onBytes_remaining? before rest
  current := onBytes_current? before rest
  next c := ⟨_, onBytes_nextIs? before rest c, nextIs_iff before rest c⟩
  advance := by
    refine ⟨_, onBytes_advance? before rest, ?_⟩
    cases rest with
    | nil => exact ⟨rfl, onBytes_remaining? before [], rfl⟩
    | cons c rest =>
      have moved := Cursor.between_advance before rest c
      refine ⟨rfl, by rw [moved]; exact onBytes_remaining? (before ++ [c]) rest, ?_⟩
      simp [Cursor.onBytes, Cursor.advance, between]
  advanceWhile p := by
    obtain ⟨run, more, rfl, within, stops⟩ := exists_run p rest
    have moved := onBytes_advanceWhile? p before (run ++ more)
    rw [Cursor.between_takeWhile_run before within stops] at moved
    exact ⟨run, more, _, rfl, within, stops, moved, by simp, onBytes_remaining? _ _, rfl⟩
  slice front back split := by
    rw [split]
    exact between_sliceFrom? front back rest

end ByteCursor

/-! ### Cursors on their way -/

/-- A way of moving a cursor. -/
inductive Cursor.Move where
  | advance
  | advanceWhile (p : Char → Bool)

def Cursor.move (cursor : Cursor) : Move → Cursor
  | .advance => cursor.advance
  | .advanceWhile p => (cursor.takeWhile p).2

namespace ByteCursor

open Cursor (between Move)

def move? (cursor : ByteCursor) : Move → Option ByteCursor
  | .advance => cursor.advance?
  | .advanceWhile p => (cursor.advanceWhile? p).map Prod.snd

def follow? (cursor : ByteCursor) (moves : List Move) : Option ByteCursor := moves.foldlM move? cursor

theorem follow?_append (cursor : ByteCursor) (first second : List Move) :
    cursor.follow? (first ++ second) =
      (cursor.follow? first).bind fun reached => reached.follow? second := List.foldlM_append

/-- One move goes over some characters, and over the same ones on either cursor. -/
theorem exists_move (move : Move) (before rest : List Char) : ∃ passed more, rest = passed ++ more ∧
    (between before rest).move move = between (before ++ passed) more ∧
    (between before rest).onBytes.move? move = some (between (before ++ passed) more).onBytes := by
  cases move with
  | advance =>
    cases rest with
    | nil => exact ⟨[], [], rfl, by simp [Cursor.move], by simp [move?, onBytes_advance?]⟩
    | cons c rest => exact ⟨[c], rest, rfl, by simp [Cursor.move], by simp [move?, onBytes_advance?]⟩
  | advanceWhile p =>
    obtain ⟨run, more, rfl, within, stops⟩ := exists_run p rest
    have moved := Cursor.between_takeWhile_run before within stops
    exact ⟨run, more, rfl, by simp [Cursor.move, moved],
      by simp [move?, onBytes_advanceWhile?, moved]⟩

theorem exists_follow (moves : List Move) (before rest : List Char) :
    ∃ passed more, rest = passed ++ more ∧
      moves.foldl Cursor.move (between before rest) = between (before ++ passed) more ∧
      (between before rest).onBytes.follow? moves =
        some (between (before ++ passed) more).onBytes := by
  induction moves generalizing before rest with
  | nil => exact ⟨[], rest, rfl, by simp, by simp [follow?]⟩
  | cons move moves ih =>
    obtain ⟨passed, rest, rfl, moved, moved'⟩ := exists_move move before rest
    obtain ⟨passed', more, rfl, reached, reached'⟩ := ih (before ++ passed) rest
    refine ⟨passed ++ passed', more, by simp, ?_, ?_⟩
    · rw [List.foldl_cons, moved, reached, List.append_assoc]
    · rw [follow?, List.foldlM_cons, moved', ← List.append_assoc]
      exact reached'

/-- Any moves bring a cursor on the bytes where they bring the cursor with the rest. From each place
on the way the source can be sliced up to there, and slice and rest are what was left at that
place. -/
theorem byte_cursor_faithful (source : String) (moves : List Move) :
    ∃ bytes before rest, (ofSource source).follow? moves = some bytes ∧
      bytes.source = source ∧ bytes.StandsAt before rest ∧
      bytes.Agrees (moves.foldl Cursor.move (Cursor.ofSource source)) ∧
      ∀ front back earlier, moves = front ++ back →
        (ofSource source).follow? front = some earlier → earlier.position ≤ bytes.position ∧
          ∃ part, bytes.sliceFrom? earlier.position = some part ∧
            earlier.remaining? = some (part ++ String.ofList rest) := by
  have start : ofSource source = (between [] source.toList).onBytes := by
    rw [← Cursor.ofSource_eq_between]
    rfl
  obtain ⟨before, rest, whole, followed, reached⟩ := exists_follow moves [] source.toList
  rw [List.nil_append] at followed reached
  have stands := standsAt_between before rest
  refine ⟨_, before, rest, by rw [start, reached], ?_, stands, ?_, ?_⟩
  · rw [onBytes_source, ← whole, String.ofList_toList]
  · rw [Cursor.ofSource_eq_between, followed]
    exact agrees_between before rest
  · rintro front back earlier rfl followed'
    obtain ⟨passed, rest', whole', -, reached'⟩ := exists_follow front [] source.toList
    rw [start, reached', List.nil_append] at followed'
    obtain rfl := Option.some.inj followed'
    obtain ⟨passed', more, rfl, -, behind⟩ := exists_follow back passed rest'
    rw [follow?_append, reached', List.nil_append, Option.bind_some, behind] at reached
    obtain ⟨rfl, rfl⟩ := onBytes_injective (Option.some.inj reached)
    refine ⟨by simp, _, stands.slice passed passed' rfl, ?_⟩
    rw [onBytes_remaining?, Cursor.remaining, Cursor.between_rest, String.ofList_append]

-- At the end NUL is read, but it does not come next; in the source it does.
example : (ofSource "é").nextIs? '\x00' = some false ∧
    (ofSource "é").advance?.bind current? = some '\x00' ∧
    (ofSource "é\x00").nextIs? '\x00' = some true := ⟨rfl, rfl, rfl⟩

end ByteCursor

end ScriptLex
