import AccessNotices.Yaml.Text
/-!
Block scalars: the lines below a header, as far as they are indented.

In a literal scalar the lines are kept; in a folded one, line ends between lines that start with no
blank are folded. The header may give the indentation and says what becomes of the line ends at the
end of the scalar.
-/

namespace AccessNotices.Yaml.Block

/-- What becomes of the line ends at the end of a scalar: all are dropped, one is kept, or all are
kept. -/
inductive Chomping where
  | strip
  | clip
  | keep
  deriving DecidableEq, Repr

/-- What the header of a block scalar says. -/
structure Header where
  chomping : Chomping
  increment : Option Nat
  deriving DecidableEq, Repr

def takeChomping : List Char → Chomping × List Char
  | '+' :: rest => (.keep, rest)
  | '-' :: rest => (.strip, rest)
  | s => (.clip, s)

/-- A digit for the indentation, if there is one; it must not be zero. -/
def takeIncrement : List Char → Except Problem (Option Nat × List Char)
  | [] => .ok (none, [])
  | c :: rest =>
    if c = '0' then .error .badBlockHeader
    else if c.isDigit then .ok (some (c.toNat - '0'.toNat), rest)
    else .ok (none, c :: rest)

/-- The two indicators in either order. -/
def takeIndicators (s : List Char) : Except Problem (Header × List Char) := do
  match takeChomping s with
  | (.clip, s) =>
    let (increment, s) ← takeIncrement s
    let (chomping, s) := if increment.isSome then takeChomping s else (.clip, s)
    .ok (⟨chomping, increment⟩, s)
  | (chomping, s) =>
    let (increment, s) ← takeIncrement s
    .ok (⟨chomping, increment⟩, s)

/-- The rest of a header: blanks and a comment up to the end of the line. -/
def skipHeaderLine (s : List Char) : Except Problem (List Char) := do
  match s with
  | [] => .ok []
  | c :: _ =>
    if c ≠ ' ' ∧ !isBreak c then .error .badBlockHeader
    match s.dropWhile (· == ' ') with
    | [] => .ok []
    | c :: rest =>
      let left := if c = '#' then rest.dropWhile (!isBreak ·) else c :: rest
      match left with
      | [] => .ok []
      | b :: rest => if isBreak b then .ok rest else .error .badBlockHeader

/-- The line ends before the first line, the most blanks that were seen on a line, the blanks on
the line that stopped the search, and what follows them. -/
def leading (most column : Nat) : List Char → List Char × Nat × Nat × List Char
  | [] => ([], most, column, [])
  | c :: rest =>
    if c = ' ' then leading (max most (column + 1)) (column + 1) rest
    else if isBreak c then
      let (breaks, found) := leading most 0 rest
      (keptBreak c :: breaks, found)
    else ([], most, column, c :: rest)

/-- The ends of lines that hold up to `indent` blanks and nothing else, the blanks on the line that
stopped the search, up to that number, and what follows them. -/
def emptyLines (indent column : Nat) : List Char → List Char × Nat × List Char
  | [] => ([], column, [])
  | c :: rest =>
    if c = ' ' ∧ column < indent then emptyLines indent (column + 1) rest
    else if isBreak c then
      let (breaks, found) := emptyLines indent 0 rest
      (keptBreak c :: breaks, found)
    else ([], column, c :: rest)

/-- What stands between two lines of a scalar. -/
def joint (folded : Bool) (line next lineEnd breaks : List Char) : List Char :=
  let flush (s : List Char) := !(s.head?.any isGap)
  if folded ∧ lineEnd = ['\n'] ∧ flush line ∧ flush next then
    (if breaks.isEmpty then [' '] else []) ++ breaks
  else lineEnd ++ breaks

/-- The lines of a scalar, from behind the indentation of a line: their text, the end of the last
line, the line ends behind it, and what follows. -/
def lines (folded : Bool) (indent : Nat) :
    Nat → List Char → List Char × List Char × List Char × List Char
  | 0, s => ([], [], [], s)
  | fuel + 1, s =>
    let line := s.takeWhile (!isBreak ·)
    let (lineEnd, rest) := match s.dropWhile (!isBreak ·) with
      | [] => ([], [])
      | b :: rest => ([keptBreak b], rest)
    let (breaks, column, rest) := emptyLines indent 0 rest
    if column = indent ∧ !rest.isEmpty then
      let (more, last) := lines folded indent fuel rest
      (line ++ joint folded line rest lineEnd breaks ++ more, last)
    else (line, lineEnd, breaks, rest)

/-- The line ends that are kept at the end of a scalar. -/
def tail (chomping : Chomping) (lineEnd breaks : List Char) : List Char :=
  match chomping with
  | .strip => []
  | .clip => lineEnd
  | .keep => lineEnd ++ breaks

/-- The block scalar behind its mark, and what follows it. A line has to be indented by `least` or
more. -/
def read (folded : Bool) (least : Nat) (s : List Char) :
    Except Problem (List Char × List Char) := do
  let (header, s) ← takeIndicators s
  let s ← skipHeaderLine s
  let least := max least 1
  let (breaks, indent, column, rest) := match header.increment with
    | none =>
      let (breaks, most, column, rest) := leading 0 0 s
      (breaks, max least most, column, rest)
    | some n =>
      let indent := least + n - 1
      let (breaks, column, rest) := emptyLines indent 0 s
      (breaks, indent, column, rest)
  if column = indent ∧ !rest.isEmpty then
    let (text, lineEnd, after, rest) := lines folded indent rest.length rest
    .ok (breaks ++ text ++ tail header.chomping lineEnd after, rest)
  else .ok (tail header.chomping [] breaks, rest)

end AccessNotices.Yaml.Block
