import ScriptLex.Toml.Lexical

/-! TOML documents: values, statements and the table that they make up. -/

set_option autoImplicit false

namespace ScriptLex.Toml

open ScriptLex.Text

/-! ## Entries -/

/-- A change to the table found under a path of keys. A table that is missing is made in the form
`missing`; `descends` says through which tables the path may lead. A path leads into the last
element of an array of tables. -/
def modify (missing : Form) (descends : Form → Bool) (change : Form → Table → Option Table) :
    List String → Form → Table → Option Table
  | [], form, table => change form table
  | key :: path, _, table =>
    match table.get? key with
    | none => do
      let inner ← modify missing descends change path missing []
      return table.set key (.table missing inner)
    | some (.table form inner) =>
      if descends form then do
        let inner ← modify missing descends change path form inner
        return table.set key (.table form inner)
      else none
    | some (.tables elements) =>
      match elements.getLast? with
      | none => none
      | some last => do
        let last ← modify missing descends change path .header last
        return table.set key (.tables (elements.dropLast ++ [last]))
    | some _ => none

structure Entry where
  path : List String
  key : String
  value : Value

-- Add an entry. Its key must be new. A dotted key may pass through tables that have no header, and
-- the table it ends in must be one that dotted keys made.
def Table.insert (table : Table) (entry : Entry) : Option Table :=
  let add (form : Form) (table : Table) : Option Table :=
    -- A plain key goes into the table itself, a dotted one only where dotted keys have led.
    if (form == .dotted) == entry.path.isEmpty || (table.get? entry.key).isSome then none
    else some (table.set entry.key entry.value)
  modify .dotted (fun form => form = .dotted ∨ form = .implied) add entry.path .header table

def Table.insertAll (table : Table) (entries : List Entry) : Option Table :=
  entries.foldlM Table.insert table

/-! ## Values -/

def entry (value : Reader Value) : Reader Entry := fun cs => do
  let (keys, rest) ← key cs
  let key ← keys.getLast?
  let rest ← mark '=' rest
  let (value, rest) ← value (skipBlank rest)
  return (⟨keys.dropLast, key, value⟩, rest)

-- The items of an array behind its opening bracket. Line breaks and comments may stand anywhere
-- between them, and a comma behind the last.
def arrayBody (value : Reader Value) : Reader Value := fun cs => do
  let item : Reader Value := fun cs => do
    let (value, rest) ← value (skipTrivia false cs)
    return (value, skipTrivia false rest)
  let (items, rest) := Reader.separated item ',' cs
  let rest := if items.isEmpty then rest else (mark ',' rest).getD rest
  let rest ← mark ']' (skipTrivia false rest)
  return (.array items, rest)

def inlineBody (value : Reader Value) : Reader Value := fun cs => do
  let item : Reader Entry := fun cs => do
    let (entry, rest) ← entry value cs
    return (entry, skipBlank rest)
  let (entries, rest) := Reader.separated item ',' cs
  let rest ← mark '}' (skipBlank rest)
  let table ← Table.insertAll [] entries
  return (.table .inline table, rest)

/-- A value with at most `depth` levels of brackets. -/
def value : Nat → Reader Value
  | _, [] => none
  | depth, c :: cs =>
    match c with
    | '"' | '\x27' => (string (c :: cs)).map fun (text, rest) => (.string text, rest)
    | 't' => Reader.word "rue" (.boolean true) cs
    | 'f' => Reader.word "alse" (.boolean false) cs
    | '[' =>
      match depth with
      | 0 => none
      | depth + 1 => arrayBody (value depth) cs
    | '{' =>
      match depth with
      | 0 => none
      | depth + 1 => inlineBody (value depth) cs
    | _ => Reader.orElse moment (Reader.orElse specialFloat number) (c :: cs)

/-! ## Statements -/

inductive Statement where
  | entry (entry : Entry)
  | header (path : List String) (key : String)
  | element (path : List String) (key : String)

-- A header between brackets, already opened.
def headerBody (close : String) (make : List String → String → Statement) : Reader Statement :=
  fun cs => do
    let (keys, rest) ← key cs
    let last ← keys.getLast?
    let rest ← Reader.after? close.toList rest
    return (make keys.dropLast last, rest)

def statement : Reader Statement := fun cs => do
  let (statement, rest) ← match skipTrivia false cs with
    | '[' :: '[' :: cs => headerBody "]]" .element cs
    | '[' :: cs => headerBody "]" .header cs
    | cs => (entry (value depthLimit) cs).map fun (entry, rest) => (.entry entry, rest)
  return (statement, ← lineEnd? rest)

/-! ## Documents -/

structure Section where
  isElement : Bool
  path : List String
  key : String
  entries : List Entry

/-- The entries before the first header, and the headers with theirs. -/
def sections : List Statement → List Entry × List Section
  | [] => ([], [])
  | .entry entry :: rest =>
    let (entries, others) := sections rest
    (entry :: entries, others)
  | .header path key :: rest =>
    let (entries, others) := sections rest
    ([], ⟨false, path, key, entries⟩ :: others)
  | .element path key :: rest =>
    let (entries, others) := sections rest
    ([], ⟨true, path, key, entries⟩ :: others)

-- Add a section. A header in single brackets makes a new table, or takes over one that was only
-- implied; one in double brackets adds an element to an array of tables.
def Table.addSection (table : Table) (part : Section) : Option Table :=
  let add (_ : Form) (parent : Table) : Option Table :=
    match part.isElement, parent.get? part.key with
    | false, none => do
      let inner ← Table.insertAll [] part.entries
      return parent.set part.key (.table .header inner)
    | false, some (.table .implied inner) => do
      let inner ← Table.insertAll inner part.entries
      return parent.set part.key (.table .header inner)
    | true, none => do
      let inner ← Table.insertAll [] part.entries
      return parent.set part.key (.tables [inner])
    | true, some (.tables elements) => do
      let inner ← Table.insertAll [] part.entries
      return parent.set part.key (.tables (elements ++ [inner]))
    | _, _ => none
  modify .implied (· != .inline) add part.path .header table

-- The table that a text denotes, if it is a TOML document. A byte order mark may stand before it.
def read? (text : String) : Option Table := do
  let cs := match text.toList with
    | '\ufeff' :: cs => cs
    | cs => cs
  let (statements, rest) := Reader.many statement cs
  if (skipTrivia false rest).isEmpty then
    let (entries, parts) := sections statements
    parts.foldlM Table.addSection (← Table.insertAll [] entries)
  else none

end ScriptLex.Toml
