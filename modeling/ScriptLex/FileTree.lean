import ScriptLex.Files

/-! File systems held in memory.

A run takes any `Files`. These stand for the files on a disk where a run is repeated without one, as
in tests; the program itself does not build them. -/

set_option autoImplicit false

namespace ScriptLex

/-- Files and directories below one directory, each by the names that lead to it. -/
structure FileTree where
  root : String
  nodes : List (List String × Node)
  deriving Repr

namespace FileTree

def empty (root : String) : FileTree := ⟨root, []⟩

def names (path : String) : List String := (path.splitOn "/").filter (· ≠ "")

-- Put a node in place of what was under a path.
def add (tree : FileTree) (path : String) (node : Node) : FileTree :=
  { tree with nodes := ((names path).filter (· ≠ "."), node) :: tree.nodes }

-- What stands under some names. The directories above a node exist with it.
def node? (tree : FileTree) (names : List String) : Option Node :=
  match tree.nodes.lookup names with
  | some node => some node
  | none =>
    if names.isEmpty ∨ tree.nodes.any (names.isPrefixOf ·.1) then some .directory else none

/-- A place on the way along a path: below the root, or so many levels above it. -/
inductive Place where
  | inside (names : List String)
  | above (levels : Nat)
  deriving DecidableEq, Repr

-- One step along a path. A step leads on from a directory only. Nothing is known of what else
-- stands above the root.
def step (tree : FileTree) (place : Place) (name : String) : Option Place :=
  match place with
  | .inside names =>
    if tree.node? names = some .directory then
      if name = "." then some place
      else if name = ".." then
        if names.isEmpty then some (.above 1) else some (.inside names.dropLast)
      else
        let inner := names ++ [name]
        if (tree.node? inner).isSome then some (.inside inner) else none
    else none
  | .above levels =>
    if name = "." then some place else if name = ".." then some (.above (levels + 1)) else none

-- Where a path begins, and the names it goes on with. A path that begins with the root's own or
-- with no slash begins at the root.
def start (tree : FileTree) (path : String) : Place × List String :=
  let below := names tree.root
  if path.startsWith (tree.root ++ "/") then (.inside [], (names path).drop below.length)
  else if path.startsWith "/" then (.above 1, names path)
  else (.inside [], names path)

-- What a path leads to. A slash at the end asks for a directory.
def find? (tree : FileTree) (path : String) : Option Node := do
  let (first, rest) := tree.start path
  let node := match ← rest.foldlM tree.step first with
    | .inside names => tree.node? names
    | .above _ => some .directory
  if path.endsWith "/" ∧ node ≠ some .directory then none else node

end FileTree

end ScriptLex
