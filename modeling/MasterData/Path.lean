-- SUMMARY: File paths as texts.

/-! # Paths

A path is a text whose segments stand between slashes. Joining never tidies it: the text shows the
path as its parts were given. Segments that are empty or a single dot name no step of their own.
-/

namespace MasterData.Path

/-- The texts between the slashes; there is always at least one. -/
def splitSlashes : List Char → List (List Char)
  | [] => [[]]
  | c :: cs =>
    if c = '/' then [] :: splitSlashes cs
    else
      match splitSlashes cs with
      | [] => [[c]]
      | piece :: rest => (c :: piece) :: rest

/-- All segments of a path, with the empty ones and the dots. -/
def segments (path : String) : List String :=
  (splitSlashes path.toList).map String.ofList

def isAbsolute (path : String) : Bool :=
  path.toList.head? = some '/'

/-- A path below another one; an absolute path stays as it is. -/
def join (base path : String) : String :=
  if isAbsolute path ∨ base = "" then path
  else if base.toList.getLast? = some '/' then base ++ path
  else base ++ "/" ++ path

/-- A segment that names no step. -/
def isIdle (segment : String) : Bool :=
  segment = "" || segment = "."

/-- The last segment of a path that is not empty is a dot. -/
def endsInDot (path : String) : Bool :=
  (segments path).reverse.find? (· ≠ "") = some "."

/-- The last step of a path, unless it goes up or stays. A dot at the very start of a relative path
is a step that stays. -/
def fileName? (path : String) : Option String :=
  match segments path with
  | [] => none
  | first :: rest =>
    let last := ((rest.reverse.dropWhile isIdle).head?).getD first
    if last = "" ∨ last = "." ∨ last = ".." then none else some last

/-- The path without its last step; none if it has no step. -/
def parent? (path : String) : Option String :=
  match segments path with
  | [] => none
  | first :: rest =>
    match rest.reverse.dropWhile isIdle with
    | [] => if first = "" then none else some ""
    | _ :: more =>
      match (more.dropWhile isIdle).reverse with
      | [] => some (if first = "" then "/" else first)
      | kept => some ("/".intercalate (first :: kept))

/-- The part of a name behind its last dot; a dot at the start opens no extension. -/
def extensionOf? (name : String) : Option String :=
  let cs := name.toList
  let tail := cs.reverse.takeWhile (· ≠ '.')
  if tail.length + 1 < cs.length then some (String.ofList tail.reverse) else none

/-- The extension of the last step of a path. -/
def extension? (path : String) : Option String :=
  (fileName? path).bind extensionOf?

end MasterData.Path
