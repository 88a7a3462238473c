import ScriptLex.Json.Basic
import ScriptLex.Text.Hex
import ScriptLex.Text.Reader

/-! Reading JSON. -/

set_option autoImplicit false

namespace ScriptLex.Json.Reading

open ScriptLex.Text

def isBlank (c : Char) : Bool := c == ' ' || c == '\n' || c == '\t' || c == '\r'

def skipBlank (cs : List Char) : List Char := cs.dropWhile isBlank

/-- A piece of a string: a character, or a unit of a code point's UTF-16 form. -/
inductive Piece where
  | char (c : Char)
  | unit (code : Nat)
  deriving DecidableEq, Repr

/-- The character that a one-letter escape stands for. -/
def escape? (c : Char) : Option Char :=
  match c with
  | '"' => some '"'
  | '\\' => some '\\'
  | '/' => some '/'
  | 'b' => some '\x08'
  | 'f' => some '\x0c'
  | 'n' => some '\n'
  | 'r' => some '\r'
  | 't' => some '\t'
  | _ => none

-- The pieces of a string up to its closing quote. Control characters have to be escaped.
def pieces : Reader (List Piece)
  | [] => none
  | c :: rest =>
    if c = '"' then some ([], rest)
    else if c = '\\' then
      match rest with
      | [] => none
      | 'u' :: h₁ :: h₂ :: h₃ :: h₄ :: rest => do
        let code ← hexValue? [h₁, h₂, h₃, h₄]
        let (others, last) ← pieces rest
        return (.unit code :: others, last)
      | e :: rest => do
        let plain ← escape? e
        let (others, last) ← pieces rest
        return (.char plain :: others, last)
    else if c.toNat < 0x20 then none
    else do
      let (others, last) ← pieces rest
      return (.char c :: others, last)

def isHighSurrogate (code : Nat) : Bool := 0xD800 ≤ code && code < 0xDC00

def isLowSurrogate (code : Nat) : Bool := 0xDC00 ≤ code && code < 0xE000

-- The characters that pieces form. Surrogates have to come in pairs, the high one first.
def joined? : List Piece → Option (List Char)
  | [] => some []
  | .char c :: rest => (joined? rest).map (c :: ·)
  | .unit high :: .unit low :: rest =>
    if isHighSurrogate high then
      if isLowSurrogate low then
        (joined? rest).map (Char.ofNat (0x10000 + 0x400 * (high - 0xD800) + (low - 0xDC00)) :: ·)
      else none
    else do
      let c ← charOfNumber? high
      let others ← joined? (.unit low :: rest)
      return c :: others
  | .unit code :: rest => do
    let c ← charOfNumber? code
    let others ← joined? rest
    return c :: others

/-- A string behind its opening quote, together with its text. -/
def stringBody : Reader (Option String) := fun cs => do
  let (found, rest) ← pieces cs
  return ((joined? found).map String.ofList, rest)

def isDigit (c : Char) : Bool := '0' ≤ c && c ≤ '9'

def digits : Reader (List Char) := fun cs =>
  let run := cs.takeWhile isDigit
  if run.isEmpty then none else some (run, cs.dropWhile isDigit)

-- The whole part of a number: zero, or digits that do not begin with zero.
def wholePart : Reader (List Char) := fun cs => do
  let (run, rest) ← digits cs
  if run.length > 1 ∧ run.head? = some '0' then none else return (run, rest)

def fractionPart : Reader (List Char)
  | '.' :: cs => do
    let (run, rest) ← digits cs
    return ('.' :: run, rest)
  | cs => some ([], cs)

def exponentPart : Reader (List Char)
  | c :: cs =>
    if c = 'e' ∨ c = 'E' then
      match cs with
      | '+' :: cs => do
        let (run, rest) ← digits cs
        return (c :: '+' :: run, rest)
      | '-' :: cs => do
        let (run, rest) ← digits cs
        return (c :: '-' :: run, rest)
      | cs => do
        let (run, rest) ← digits cs
        return (c :: run, rest)
    else some ([], c :: cs)
  | [] => some ([], [])

def unsigned : Reader (List Char) := fun cs => do
  let (whole, cs) ← wholePart cs
  let (fraction, cs) ← fractionPart cs
  let (exponent, cs) ← exponentPart cs
  return (whole ++ fraction ++ exponent, cs)

def number : Reader (List Char)
  | '-' :: cs => do
    let (literal, rest) ← unsigned cs
    return ('-' :: literal, rest)
  | cs => unsigned cs

def spaced {α : Type} (reader : Reader α) : Reader α := fun cs => do
  let (value, rest) ← reader (skipBlank cs)
  return (value, skipBlank rest)

def member (value : Reader Json) : Reader (Option String × Json)
  | '"' :: cs => do
    let (name, rest) ← stringBody cs
    match skipBlank rest with
    | ':' :: rest => do
      let (value, rest) ← value (skipBlank rest)
      return ((name, value), rest)
    | _ => none
  | _ => none

def bracketed {α : Type} (item : Reader α) (close : Char) : Reader (List α) := fun cs =>
  let (items, rest) := Reader.separated (spaced item) ',' cs
  match skipBlank rest with
  | c :: rest => if c = close then some (items, rest) else none
  | [] => none

/-- A value with at most `depth` levels of brackets. -/
def value : Nat → Reader Json
  | _, [] => none
  | depth, c :: cs =>
    match c with
    | '"' => (stringBody cs).map fun (text, rest) => (.string text, rest)
    | '[' =>
      match depth with
      | 0 => none
      | depth + 1 => (bracketed (value depth) ']' cs).map fun (items, rest) => (.array items, rest)
    | '{' =>
      match depth with
      | 0 => none
      | depth + 1 =>
        (bracketed (member (value depth)) '}' cs).map fun (members, rest) => (.object members, rest)
    | 't' => Reader.word "rue" (.bool true) cs
    | 'f' => Reader.word "alse" (.bool false) cs
    | 'n' => Reader.word "ull" .null cs
    | _ => (number (c :: cs)).map fun (literal, rest) => (.number literal, rest)

end Reading

-- The value that a text denotes. There are never more brackets than characters, so nesting is not
-- limited.
def read? (text : String) : Option Json := do
  let cs := text.toList
  let (value, rest) ← Reading.spaced (Reading.value cs.length) cs
  if rest.isEmpty then return value else none

end ScriptLex.Json
