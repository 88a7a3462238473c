/-! What a program sees of a file system. -/

set_option autoImplicit false

namespace ScriptLex

inductive Node where
  | file (bytes : List UInt8)
  | directory
  | unreadable (reason : String)
  deriving DecidableEq, Repr

/-- The bytes of a file, or why there are none to be had. -/
def Node.contents : Node → Except String (List UInt8)
  | .file bytes => .ok bytes
  | .directory => .error "Is a directory (os error 21)"
  | .unreadable reason => .error reason

/-- A file system: what each path leads to, if anything. -/
abbrev Files := String → Option Node

/-- The path to what has a name in a directory. A name that begins at the root is a path already,
and a directory that ends with a slash gets no second one. -/
def joinPath (directory name : String) : String :=
  if name.toList.head? = some '/' then name
  else if directory.toList.getLast?.all (· == '/') then directory ++ name
  else directory ++ "/" ++ name

section

variable {directory name : String}

theorem joinPath_closed (relative : name.toList.head? ≠ some '/') (front : String) :
    joinPath (front ++ "/") name = front ++ "/" ++ name := by
  have closed : (front ++ "/").toList.getLast?.all (· == '/') = true := by
    rw [String.toList_append]
    simp
  rw [joinPath, if_neg relative, if_pos closed]

theorem joinPath_bare (relative : name.toList.head? ≠ some '/')
    (bare : directory.toList.getLast?.all (· == '/') = false) :
    joinPath directory name = directory ++ "/" ++ name := by
  rw [joinPath, if_neg relative, if_neg (by simp [bare])]

theorem joinPath_here (relative : name.toList.head? ≠ some '/') : joinPath "" name = name := by
  rw [joinPath, if_neg relative, if_pos (by simp), String.empty_append]

/-- A slash at the end of a directory changes nothing. -/
theorem joinPath_slash (bare : directory.toList.getLast?.all (· == '/') = false) (name : String) :
    joinPath (directory ++ "/") name = joinPath directory name := by
  by_cases rooted : name.toList.head? = some '/'
  · rw [joinPath, joinPath, if_pos rooted, if_pos rooted]
  · rw [joinPath_closed rooted, joinPath_bare rooted bare]

end

example : joinPath "/" "a" = "/a" ∧ joinPath "/a/" "b" = "/a/b" ∧ joinPath "/a" "/b" = "/b" := by
  decide

end ScriptLex
