import AccessNotices.Text.Utf8
import AccessNotices.Yaml.Text
/-!
Anchors, aliases, tags and directives: what is written around the content of a document.

A tag has a handle and a suffix; the handle stands for the beginning of the whole tag. Each reader
takes the text behind the mark that says what is to come, and gives what it read and what follows.
-/

namespace AccessNotices.Yaml

open Number Text

inductive Directive where
  /-- The version of YAML that a text is written in. -/
  | version (major minor : Int)
  /-- What a handle stands for. -/
  | handle (name beginning : List Char)
  /-- A directive that has no meaning. -/
  | reserved
  deriving DecidableEq, Repr

namespace Property

/-- Does a word end here, and not at a tab? -/
def endsField : List Char → Bool
  | [] => true
  | c :: _ => c == ' ' || isBreak c

/-- Blanks that are skipped between the fields of a line. -/
def skipSpaces (s : List Char) : List Char :=
  s.dropWhile (· == ' ')

/-! ### Names -/

def name (p : Problem) (s : List Char) : Except Problem (List Char × List Char) :=
  match s.takeWhile isNameChar with
  | [] => .error p
  | found => .ok (found, s.dropWhile isNameChar)

/-- Characters that may stand right behind the name of an anchor. -/
def nameEnds : List Char :=
  ['?', ':', ',', ']', '\x7d', '%', '@', '\x60']

def anchor (s : List Char) : Except Problem (List Char × List Char) := do
  let (found, rest) ← name .badName s
  if endsWord rest || rest.head?.any nameEnds.contains then .ok (found, rest)
  else .error .badName

/-! ### Tags -/

/-- Characters of tags, the percent sign apart. -/
def isTagChar (c : Char) : Bool :=
  isNameChar c ||
    [';', '/', '?', ':', '@', '&', '=', '+', '$', ',', '.', '!', '~', '*', '\x27', '(', ')', '[',
      ']'].contains c

/-- Bytes that are written as a percent sign and two hexadecimal digits each, as many as there
are. -/
def escapedBytes : List Char → Except Problem (List UInt8 × List Char)
  | '%' :: a :: b :: rest =>
    match hexValue? a, hexValue? b with
    | some high, some low => do
      let (more, rest) ← escapedBytes rest
      .ok ((high * 16 + low).toUInt8 :: more, rest)
    | _, _ => .error .badTag
  | '%' :: _ => .error .badTag
  | s => .ok ([], s)

/-- The characters of a tag. Each step consumes some, so the length of the text is fuel enough. -/
def tagChars : Nat → List Char → Except Problem (List Char × List Char)
  | 0, s => .ok ([], s)
  | fuel + 1, s =>
    match s with
    | '%' :: _ => do
      let (bytes, rest) ← escapedBytes s
      match Utf8.decode? bytes with
      | some chars =>
        let (more, rest) ← tagChars fuel rest
        .ok (chars ++ more, rest)
      | none => .error .badTag
    | c :: rest =>
      if isTagChar c then do
        let (more, rest) ← tagChars fuel rest
        .ok (c :: more, rest)
      else .ok ([], s)
    | [] => .ok ([], [])

def tagPart (s : List Char) : Except Problem (List Char × List Char) := do
  let (found, rest) ← tagChars s.length s
  if found.isEmpty then .error .badTag else .ok (found, rest)

def shortHandle : List Char := ['!']

/-- A handle, from behind its first mark: a name and a second mark, or nothing before a space. -/
def handle (s : List Char) : Except Problem (List Char × List Char) :=
  match s with
  | ' ' :: _ => .ok (shortHandle, s)
  | s =>
    match s.dropWhile isNameChar with
    | '!' :: rest => .ok ('!' :: s.takeWhile isNameChar ++ ['!'], rest)
    | _ => .error .badTag

/-- A tag that is written in full, up to the closing bracket. -/
def fullTag (s : List Char) : Except Problem (List Char × List Char) := do
  match ← tagPart s with
  | (found, '>' :: rest) => .ok (found, rest)
  | _ => .error .badTag

/-- Is there a second mark in the word that starts here? -/
def hasHandle (s : List Char) : Bool :=
  (s.takeWhile fun c => !endsField [c]).contains '!'

/-- A tag, from behind its mark: its handle, if it is not written in full, and the rest of it. -/
def tag (s : List Char) :
    Except Problem ((Option (List Char) × List Char) × List Char) := do
  let (found, rest) ←
    match s with
    | '<' :: rest => (fullTag rest).map fun (suffix, rest) => ((none, suffix), rest)
    | s => do
      if endsWord s then .ok ((none, shortHandle), s)
      else
        let (handle, rest) ← if hasHandle s then handle s else .ok (shortHandle, s)
        let (suffix, rest) ← tagPart rest
        .ok ((some handle, suffix), rest)
  if endsField rest then .ok (found, rest) else .error .badTag

/-! ### Directives -/

def versionNumber (s : List Char) : Except Problem (Int × List Char) :=
  let rest := s.dropWhile Char.isDigit
  match readDecimal (s.takeWhile Char.isDigit) with
  | .ok n => .ok (n, rest)
  | .error .notNumeral => .error .badDirective
  | .error (.tooLong digits) => .error (.tooManyDigits digits)

def version (s : List Char) : Except Problem (Directive × List Char) := do
  let (major, rest) ← versionNumber s
  match rest with
  | '.' :: rest =>
    let (minor, rest) ← versionNumber rest
    if endsField rest then .ok (.version major minor, rest) else .error .badDirective
  | _ => .error .badDirective

def handleMeaning (s : List Char) : Except Problem (Directive × List Char) := do
  match s with
  | '!' :: rest =>
    match ← handle rest with
    | (handle, ' ' :: rest) =>
      let (beginning, rest) ← tagPart (skipSpaces rest)
      if endsField rest then .ok (.handle handle beginning, rest) else .error .badDirective
    | _ => .error .badDirective
  | _ => .error .badDirective

/-- What is left of the line of a directive: spaces and a comment, and the line end. -/
def lineRest (s : List Char) : Except Problem (List Char) :=
  let s := skipSpaces s
  let s := if s.head? = some '#' then s.dropWhile (!isBreak ·) else s
  if endsLine s then .ok s.tail else .error .badDirective

/-- A directive, from behind its mark to the end of its line. -/
def directive (s : List Char) : Except Problem (Directive × List Char) := do
  let (word, rest) ← name .badDirective s
  if endsField rest then
    let (found, rest) ←
      match String.ofList word with
      | "YAML" => version (skipSpaces rest)
      | "TAG" => handleMeaning (skipSpaces rest)
      | _ => .ok (.reserved, rest.dropWhile (!isBreak ·))
    let rest ← lineRest rest
    .ok (found, rest)
  else .error .badDirective

end Property

end AccessNotices.Yaml
