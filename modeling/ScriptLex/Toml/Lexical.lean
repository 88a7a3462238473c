import ScriptLex.Text.Hex
import ScriptLex.Text.Reader
import ScriptLex.Toml.Basic

/-! The lexical grammar of TOML: blanks, comments, strings, keys, numbers and points in time. -/

set_option autoImplicit false

namespace ScriptLex.Toml

open ScriptLex.Text

def isBlank (c : Char) : Bool := c == ' ' || c == '\t'

def skipBlank (cs : List Char) : List Char := cs.dropWhile isBlank

-- What a comment or a string may hold: no control characters but the tab.
def isPrinting (c : Char) : Bool := c == '\t' || (0x20 ≤ c.toNat && c.toNat != 0x7F)

def newline? : List Char → Option (List Char)
  | '\n' :: cs => some cs
  | '\r' :: '\n' :: cs => some cs
  | _ => none

-- The text behind blanks, line breaks and comments. The flag says whether a comment is open.
def skipTrivia : Bool → List Char → List Char
  | _, [] => []
  | inComment, c :: cs =>
    if c = '\n' then skipTrivia false cs
    else if c = '\r' then
      match cs with
      | '\n' :: cs => skipTrivia false cs
      | _ => c :: cs
    else if inComment then
      if isPrinting c then skipTrivia true cs else c :: cs
    else if isBlank c then skipTrivia false cs
    else if c = '#' then skipTrivia true cs
    else c :: cs

-- The text behind the end of a line: blanks, perhaps a comment, and a line break unless the
-- document ends.
def lineEnd? (cs : List Char) : Option (List Char) :=
  let cs := match skipBlank cs with
    | '#' :: cs => cs.dropWhile isPrinting
    | cs => cs
  if cs.isEmpty then some [] else newline? cs

/-! ## Strings -/

def escape : Reader Char
  | 'u' :: cs => do
    let c ← if (cs.take 4).length = 4 then hexValue? (cs.take 4) >>= charOfNumber? else none
    return (c, cs.drop 4)
  | 'U' :: cs => do
    let c ← if (cs.take 8).length = 8 then hexValue? (cs.take 8) >>= charOfNumber? else none
    return (c, cs.drop 8)
  | 'b' :: cs => some ('\x08', cs)
  | 't' :: cs => some ('\t', cs)
  | 'n' :: cs => some ('\n', cs)
  | 'f' :: cs => some ('\x0c', cs)
  | 'r' :: cs => some ('\r', cs)
  | '"' :: cs => some ('"', cs)
  | '\\' :: cs => some ('\\', cs)
  | _ => none

-- Characters of a string on one line that stand for themselves.
def plainPiece (quote : Char) : Reader (List Char)
  | c :: cs => if c ≠ quote ∧ isPrinting c then some ([c], cs) else none
  | [] => none

def basicPiece : Reader (List Char)
  | '\\' :: cs => (escape cs).map fun (c, rest) => ([c], rest)
  | cs => plainPiece '"' cs

-- A backslash at the end of a line leaves out everything up to the next visible character.
def continuation : Reader (List Char)
  | '\\' :: cs => do
    let rest ← newline? (skipBlank cs)
    let (_, rest) := Reader.many (fun cs =>
      match cs with
      | c :: rest => if isBlank c then some ((), rest) else (newline? cs).map ((), ·)
      | [] => none) rest
    return ([], rest)
  | _ => none

-- One or two quotes that do not close a string of several lines.
def innerQuote (quote : Char) : Reader (List Char)
  | c₁ :: c₂ :: c₃ :: cs =>
    if c₁ = quote ∧ ¬(c₂ = quote ∧ c₃ = quote) then some ([c₁], c₂ :: c₃ :: cs) else none
  | _ => none

-- A line break inside a string counts as a newline however it is written.
def breakPiece : Reader (List Char) := fun cs => (newline? cs).map fun rest => (['\n'], rest)

def multilineBasicPiece : Reader (List Char) :=
  .orElse continuation (.orElse basicPiece (.orElse (innerQuote '"') breakPiece))

def multilineLiteralPiece : Reader (List Char) :=
  .orElse (plainPiece '\x27') (.orElse (innerQuote '\x27') breakPiece)

def singleLine (quote : Char) (piece : Reader (List Char)) : Reader String := fun cs =>
  match Reader.many piece cs with
  | (pieces, c :: rest) => if c = quote then some (String.ofList pieces.flatten, rest) else none
  | (_, []) => none

-- A string behind its three opening quotes. A line break right behind them does not count, and up
-- to two quotes may stand before the closing three.
def multiline (quote : Char) (piece : Reader (List Char)) : Reader String := fun cs =>
  let (pieces, rest) := Reader.many piece ((newline? cs).getD cs)
  let quotes := (rest.take 5).takeWhile (· = quote)
  if 3 ≤ quotes.length then
    some (String.ofList (pieces.flatten ++ quotes.drop 3), rest.drop quotes.length)
  else none

def simpleString : Reader String
  | '"' :: cs => singleLine '"' basicPiece cs
  | '\x27' :: cs => singleLine '\x27' (plainPiece '\x27') cs
  | _ => none

def string : Reader String
  | '"' :: '"' :: '"' :: cs => multiline '"' multilineBasicPiece cs
  | '\x27' :: '\x27' :: '\x27' :: cs => multiline '\x27' multilineLiteralPiece cs
  | cs => simpleString cs

/-! ## Keys -/

def isBareKey (c : Char) : Bool :=
  ('a' ≤ c && c ≤ 'z') || ('A' ≤ c && c ≤ 'Z') || ('0' ≤ c && c ≤ '9') || c == '_' || c == '-'

def bareKey : Reader String := fun cs =>
  let run := cs.takeWhile isBareKey
  if run.isEmpty then none else some (String.ofList run, cs.dropWhile isBareKey)

-- The deepest nesting that a document may have.
def depthLimit : Nat := 79

def key : Reader (List String) := fun cs =>
  let part : Reader String := fun cs => do
    let (name, rest) ← Reader.orElse simpleString bareKey (skipBlank cs)
    return (name, skipBlank rest)
  let (parts, rest) := Reader.separated part '.' cs
  if parts.isEmpty ∨ depthLimit < parts.length then none else some (parts, rest)

/-! ## Numbers -/

def isDigit (c : Char) : Bool := '0' ≤ c && c ≤ '9'

-- Digits that go on, with single underscores between them left out.
def moreDigits (accepts : Char → Bool) : List Char → List Char × List Char
  | [] => ([], [])
  | c :: cs =>
    if accepts c then
      let (digits, rest) := moreDigits accepts cs
      (c :: digits, rest)
    else if c = '_' then
      match cs with
      | d :: cs =>
        if accepts d then
          let (digits, rest) := moreDigits accepts cs
          (d :: digits, rest)
        else ([], c :: d :: cs)
      | [] => ([], [c])
    else ([], c :: cs)

def digits (accepts : Char → Bool) : Reader (List Char)
  | c :: cs =>
    if accepts c then
      let (others, rest) := moreDigits accepts cs
      some (c :: others, rest)
    else none
  | [] => none

def sign : List Char → List Char × List Char
  | '+' :: cs => (['+'], cs)
  | '-' :: cs => (['-'], cs)
  | cs => ([], cs)

-- A whole number with its sign apart. A zero in front is the whole number.
def decimal : Reader (List Char × List Char) := fun cs =>
  let (sign, cs) := sign cs
  match cs with
  | '0' :: cs => some ((sign, ['0']), cs)
  | cs => (digits isDigit cs).map fun (run, rest) => ((sign, run), rest)

-- Integers have 64 bits.
def integerOf? (n : Int) : Option Value :=
  if -9223372036854775808 ≤ n ∧ n ≤ 9223372036854775807 then some (.integer n) else none

def basedInteger (base : Nat) : Reader Value := fun cs => do
  let accepts (c : Char) : Bool := (hexDigit? c).any (· < base)
  let (run, rest) ← digits accepts cs
  let n := run.foldl (fun n c => base * n + (hexDigit? c).getD 0) 0
  return (← integerOf? n, rest)

def exponent : Reader (List Char)
  | c :: cs =>
    if c = 'e' ∨ c = 'E' then do
      let (sign, cs) := sign cs
      let (run, rest) ← digits isDigit cs
      return ('e' :: sign ++ run, rest)
    else none
  | [] => none

def number : Reader Value
  | '0' :: 'x' :: cs => basedInteger 16 cs
  | '0' :: 'o' :: cs => basedInteger 8 cs
  | '0' :: 'b' :: cs => basedInteger 2 cs
  | cs => do
    let ((sign, whole), rest) ← decimal cs
    match rest with
    | '.' :: rest => do
      let (fraction, rest) ← digits isDigit rest
      let (power, rest) := (exponent rest).getD ([], rest)
      return (.float (String.ofList (sign ++ whole ++ '.' :: fraction ++ power)), rest)
    | rest =>
      match exponent rest with
      | some (power, rest) => return (.float (String.ofList (sign ++ whole ++ power)), rest)
      | none =>
        let n : Int := Nat.ofDigitChars 10 whole 0
        return (← integerOf? (if sign = ['-'] then -n else n), rest)

def specialFloat : Reader Value := fun cs =>
  let (sign, cs) := sign cs
  let named (name : String) : Reader Value :=
    Reader.word name (.float (String.ofList sign ++ name))
  Reader.orElse (named "inf") (named "nan") cs

/-! ## Points in time -/

def field (width low high : Nat) : Reader Nat := fun cs =>
  let run := cs.take width
  let n := Nat.ofDigitChars 10 run 0
  if run.length = width ∧ run.all isDigit ∧ low ≤ n ∧ n ≤ high then some (n, cs.drop width)
  else none

def mark (c : Char) (cs : List Char) : Option (List Char) := Reader.after? [c] cs

def daysInMonth (year month : Nat) : Nat :=
  if month = 2 then
    if year % 4 = 0 ∧ (year % 100 ≠ 0 ∨ year % 400 = 0) then 29 else 28
  else if month ∈ [4, 6, 9, 11] then 30
  else 31

def date? (cs : List Char) : Option (List Char) := do
  let (year, cs) ← field 4 0 9999 cs
  let (month, cs) ← field 2 1 12 (← mark '-' cs)
  let (_, cs) ← field 2 1 (daysInMonth year month) (← mark '-' cs)
  return cs

def time? (cs : List Char) : Option (List Char) := do
  let (_, cs) ← field 2 0 23 cs
  let (_, cs) ← field 2 0 59 (← mark ':' cs)
  let (_, cs) ← field 2 0 60 (← mark ':' cs)
  match cs with
  | '.' :: rest =>
    if (rest.takeWhile isDigit).isEmpty then none else return rest.dropWhile isDigit
  | _ => return cs

def offset? (cs : List Char) : Option (List Char) :=
  match cs with
  | 'Z' :: cs | 'z' :: cs => some cs
  | '+' :: cs | '-' :: cs => do
    let (_, cs) ← field 2 0 23 cs
    let (_, cs) ← field 2 0 59 (← mark ':' cs)
    return cs
  | _ => none

def moment? (cs : List Char) : Option (List Char) :=
  match date? cs with
  | none => time? cs
  | some afterDate =>
    match afterDate with
    | c :: rest =>
      if c = 'T' ∨ c = 't' ∨ c = ' ' then
        match time? rest with
        | some afterTime => some ((offset? afterTime).getD afterTime)
        | none => some afterDate
      else some afterDate
    | [] => some []

def moment : Reader Value := fun cs =>
  (moment? cs).map fun rest =>
    (.moment (String.ofList (cs.take (cs.length - rest.length))), rest)

end ScriptLex.Toml
