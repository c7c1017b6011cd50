/-!
The paths of files.

The short form of a path has no empty parts, and none that stands for the directory itself. The
normal form has no way back either, where there is something to go back from. A file system limits
the length of a name and of a whole path.
-/

namespace AccessNotices.Text

/-- What a path starts with: a slash when it is absolute, and two when it starts with just two. -/
def pathRoot : List Char → List Char
  | '/' :: '/' :: '/' :: _ => ['/']
  | '/' :: '/' :: _ => ['/', '/']
  | '/' :: _ => ['/']
  | _ => []

def pathParts (path : List Char) : List (List Char) :=
  (path.splitOn '/').filter fun part => part ≠ [] ∧ part ≠ ['.']

/-- The short form of a path; a point for the directory itself. -/
def shortPath (path : List Char) : List Char :=
  let short := pathRoot path ++ ['/'].intercalate (pathParts path)
  if short.isEmpty then ['.'] else short

/-- The parts of a path, the last one first, with one more part: a way back takes away the part
before it. There is no way back from the root. -/
def goTo (absolute : Bool) (parts : List (List Char)) (part : List Char) : List (List Char) :=
  if part ≠ "..".toList then part :: parts
  else
    match parts with
    | [] => if absolute then [] else [part]
    | last :: before => if last = "..".toList then part :: parts else before

/-- The normal form of a path; a point for the directory itself. -/
def normalPath (path : List Char) : List Char :=
  let root := if path.head? = some '/' then ['/'] else []
  let parts := ((pathParts path).foldl (goTo (!root.isEmpty)) []).reverse
  let normal := root ++ ['/'].intercalate parts
  if normal.isEmpty then ['.'] else normal

def nameLimit : Nat := 255

def pathLimit : Nat := 4095

/-- How many bytes a text has. -/
def byteLength (s : List Char) : Nat :=
  s.foldl (fun n c => n + c.utf8Size) 0

/-- The directory in which a path first asks for a name that is too long, if it does. -/
def overlongIn? (path : List Char) : Option (List Char) :=
  let parts := pathParts path
  let before := parts.takeWhile fun part => byteLength part ≤ nameLimit
  if before.length = parts.length then none
  else some (shortPath (pathRoot path ++ ['/'].intercalate before))

/-- The directory that a path in its short form leads into; nothing for a name alone. -/
def directoryOf? (path : List Char) : Option (List Char) :=
  match (pathParts path).dropLast with
  | [] => none
  | parts => some (pathRoot path ++ ['/'].intercalate parts)

end AccessNotices.Text
