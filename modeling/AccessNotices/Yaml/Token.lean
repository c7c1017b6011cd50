import AccessNotices.Yaml.Property
import AccessNotices.Yaml.Scalar.Block
import AccessNotices.Yaml.Scalar.Plain
import AccessNotices.Yaml.Scalar.Quoted
/-!
The tokens of a YAML text.

Indentation is made explicit: a block collection has a token at its start and one at its end. So is
a key: a scalar or a collection on one line that is followed by a colon gets a key token in front of
it. Whether that is so shows only at the colon, so the lexer keeps, for each level of brackets, the
place where a key would have started.

A text may be wrong somewhere. Its tokens end there, with one that says what is wrong: whoever reads
them meets what is wrong in the text before, first. The tokens behind a place where a key may have
started are not given then, because it is not settled whether a key token comes before them.
-/

namespace AccessNotices.Yaml

inductive Token where
  | documentStart
  | documentEnd
  | blockSequenceStart
  | blockMappingStart
  | blockEnd
  | flowSequenceStart
  | flowSequenceEnd
  | flowMappingStart
  | flowMappingEnd
  /-- The hyphen of an entry in a block sequence. -/
  | entry
  /-- The comma between entries in brackets. -/
  | comma
  | key
  | value
  | anchor (name : List Char)
  /-- An alias: the name of an anchor, in the place of its node. -/
  | reference (name : List Char)
  /-- A tag: its handle, if it is not written in full, and the rest of it. -/
  | tag (handle : Option (List Char)) (suffix : List Char)
  | directive (d : Directive)
  | scalar (content : Content) (plain : Bool)
  /-- The text is wrong here. -/
  | broken (p : Problem)
  deriving DecidableEq, Repr

/-- A place in a text, with what follows it. -/
structure Cursor where
  rest : List Char
  index : Nat
  line : Nat
  column : Nat

namespace Cursor

/-- The cursor behind the next character. A byte order mark has no width. -/
def step (c : Cursor) : Cursor :=
  match c.rest with
  | [] => c
  | a :: rest =>
    if isBreak a then ⟨rest, c.index + 1, c.line + 1, 0⟩
    else if a = byteOrderMark then ⟨rest, c.index + 1, c.line, c.column⟩
    else ⟨rest, c.index + 1, c.line, c.column + 1⟩

def advance : Nat → Cursor → Cursor
  | 0, c => c
  | n + 1, c => advance n c.step

def moveTo (c : Cursor) (left : List Char) : Cursor :=
  c.advance (c.rest.length - left.length)

end Cursor

/-- The place where a key may have started: how many tokens come before it, and whether what starts
there has to be a key. -/
structure PossibleKey where
  tokens : Nat
  required : Bool
  index : Nat
  line : Nat
  column : Nat

/-- The state of the lexer: the tokens so far, the last one first; the columns of the open block
collections, the innermost first; and the possible keys of the innermost brackets and of those
around them. -/
structure Lexer where
  cursor : Cursor
  tokens : List Token
  columns : List Nat
  possible : Option PossibleKey
  outer : List (Option PossibleKey)
  keyAllowed : Bool

namespace Lexer

def start (text : List Char) : Lexer :=
  ⟨⟨text, 0, 0, 0⟩, [], [], none, [], true⟩

def inFlow (l : Lexer) : Bool :=
  !l.outer.isEmpty

/-- The least indentation of something inside the innermost block collection. -/
def leastIndent (l : Lexer) : Nat :=
  match l.columns with
  | [] => 0
  | column :: _ => column + 1

def take (l : Lexer) (width : Nat) (t : Token) : Lexer :=
  { l with cursor := l.cursor.advance width, tokens := t :: l.tokens }

/-! ### Possible keys -/

/-- A possible key is given up; one that is required must not be. -/
def giveUp (k : Option PossibleKey) : Except Problem Unit :=
  match k with
  | some k => if k.required then .error .keyWithoutColon else .ok ()
  | none => .ok ()

/-- How far behind its start the colon of a key may stand. -/
def keyReach : Nat := 1024

def isStale (c : Cursor) (k : PossibleKey) : Bool :=
  k.line != c.line || keyReach < c.index - k.index

def refresh (c : Cursor) (k : Option PossibleKey) : Except Problem (Option PossibleKey) :=
  match k with
  | some key => if isStale c key then (giveUp k).map fun _ => none else .ok k
  | none => .ok none

/-- The lexer without the possible keys that are out of reach. -/
def dropStale (l : Lexer) : Except Problem Lexer := do
  let possible ← refresh l.cursor l.possible
  let outer ← l.outer.mapM (refresh l.cursor)
  .ok { l with possible, outer }

def clearKey (l : Lexer) : Except Problem Lexer := do
  giveUp l.possible
  .ok { l with possible := none }

/-- The lexer with a possible key at the cursor, if a key may start there. A key is required where
the innermost block mapping has its keys. -/
def noteKey (l : Lexer) : Except Problem Lexer := do
  if l.keyAllowed then
    let l ← l.clearKey
    let c := l.cursor
    let required := !l.inFlow && l.columns.head? == some c.column
    .ok { l with possible := some ⟨l.tokens.length, required, c.index, c.line, c.column⟩ }
  else .ok l

/-! ### Indentation -/

/-- The tokens with the open block collections closed that are indented by more than `column`. -/
def closeBlocks (column : Nat) : List Nat → List Token → List Nat × List Token
  | [], tokens => ([], tokens)
  | k :: columns, tokens =>
    if column < k then closeBlocks column columns (.blockEnd :: tokens) else (k :: columns, tokens)

/-- The lexer with the block collections closed that end before the cursor. -/
def unindent (l : Lexer) : Lexer :=
  if l.inFlow then l
  else
    let (columns, tokens) := closeBlocks l.cursor.column l.columns l.tokens
    { l with columns, tokens }

def unindentAll (l : Lexer) : Lexer :=
  if l.inFlow then l
  else { l with columns := [], tokens := l.columns.map (fun _ => .blockEnd) ++ l.tokens }

/-- Does a block collection start at a column, because it is indented by more than all around it? -/
def opensBlock (l : Lexer) (column : Nat) : Bool :=
  match l.columns with
  | [] => true
  | k :: _ => k < column

/-- The lexer with a block collection opened at the cursor if one starts there. -/
def openBlock (l : Lexer) (t : Token) : Lexer :=
  if l.opensBlock l.cursor.column then
    { l with columns := l.cursor.column :: l.columns, tokens := t :: l.tokens }
  else l

/-! ### Tokens -/

def marker (l : Lexer) (t : Token) : Except Problem Lexer := do
  let l ← l.unindentAll.clearKey
  .ok { (l.take 3 t) with keyAllowed := false }

def openFlow (l : Lexer) (t : Token) : Except Problem Lexer := do
  let l ← l.noteKey
  .ok { (l.take 1 t) with possible := none, outer := l.possible :: l.outer, keyAllowed := true }

/-- A closing bracket. -/
def closeFlow (l : Lexer) (t : Token) : Except Problem Lexer := do
  let l ← l.clearKey
  match l.outer with
  | [] => .error .ungrammatical
  | possible :: outer => .ok { (l.take 1 t) with possible, outer, keyAllowed := false }

def comma (l : Lexer) : Except Problem Lexer := do
  let l ← l.clearKey
  .ok { (l.take 1 .comma) with keyAllowed := true }

/-- The lexer with a block collection opened for a mark at the cursor, which has to stand where a
key may. -/
def openFor (l : Lexer) (t : Token) : Except Problem Lexer :=
  if l.inFlow then .ok l
  else if l.keyAllowed then .ok (l.openBlock t)
  else .error .misplaced

def entry (l : Lexer) : Except Problem Lexer := do
  let l ← l.openFor .blockSequenceStart
  let l ← l.clearKey
  .ok { (l.take 1 .entry) with keyAllowed := true }

def explicitKey (l : Lexer) : Except Problem Lexer := do
  let l ← l.openFor .blockMappingStart
  let l ← l.clearKey
  .ok { (l.take 1 .key) with keyAllowed := !l.inFlow }

/-- The lexer with a key token put in at the place of a possible key, and with a block mapping
opened there if one starts there. -/
def insertKey (l : Lexer) (k : PossibleKey) : Lexer :=
  let behind := l.tokens.length - k.tokens
  let opens := !l.inFlow && l.opensBlock k.column
  let put := if opens then [.key, .blockMappingStart] else [.key]
  { l with
    tokens := l.tokens.take behind ++ put ++ l.tokens.drop behind
    columns := if opens then k.column :: l.columns else l.columns
    possible := none }

def value (l : Lexer) : Except Problem Lexer := do
  match l.possible with
  | some k => .ok { ((l.insertKey k).take 1 .value) with keyAllowed := false }
  | none =>
    let l ← l.openFor .blockMappingStart
    .ok { (l.take 1 .value) with keyAllowed := !l.inFlow }

/-- The lexer behind a token that was read together with what follows it. -/
def takeRead (l : Lexer) (t : Token) (left : List Char) : Lexer :=
  { l with cursor := l.cursor.moveTo left, tokens := t :: l.tokens }

def directive (l : Lexer) : Except Problem Lexer := do
  let l ← l.unindentAll.clearKey
  let (d, left) ← Property.directive l.cursor.rest.tail
  .ok { (l.takeRead (.directive d) left) with keyAllowed := false }

def anchor (l : Lexer) : Except Problem Lexer := do
  let l ← l.noteKey
  let (name, left) ← Property.anchor l.cursor.rest.tail
  .ok { (l.takeRead (.anchor name) left) with keyAllowed := false }

/-- An alias. -/
def reference (l : Lexer) : Except Problem Lexer := do
  let l ← l.noteKey
  let (name, left) ← Property.anchor l.cursor.rest.tail
  .ok { (l.takeRead (.reference name) left) with keyAllowed := false }

def tag (l : Lexer) : Except Problem Lexer := do
  let l ← l.noteKey
  let ((handle, suffix), left) ← Property.tag l.cursor.rest.tail
  .ok { (l.takeRead (.tag handle suffix) left) with keyAllowed := false }

def blockScalar (l : Lexer) (folded : Bool) : Except Problem Lexer := do
  let l ← l.clearKey
  let (text, left) ← Block.read folded l.leastIndent l.cursor.rest.tail
  .ok { (l.takeRead (.scalar (.chars text) false) left) with keyAllowed := true }

def quotedScalar (l : Lexer) (quote : Char) : Except Problem Lexer := do
  let l ← l.noteKey
  let (content, left) ← Quoted.read quote l.cursor.rest.tail
  .ok { (l.takeRead (.scalar content false) left) with keyAllowed := false }

/-- A plain scalar, with the spaces and line ends behind it. After a line end a key may start. -/
def plainScalar (l : Lexer) : Except Problem Lexer := do
  let l ← l.noteKey
  let (text, behind) := Plain.read l.inFlow l.leastIndent l.cursor.rest
  let isSpace (c : Char) := c == ' ' || isBreak c
  .ok { (l.takeRead (.scalar (.chars text) true) (behind.dropWhile isSpace)) with
    keyAllowed := (behind.takeWhile isSpace).any isBreak }

/-! ### Between tokens -/

/-- The lexer behind blanks, comments and line ends. After a line end a key may start, except
between brackets. -/
def skipSpace : Nat → Lexer → Lexer
  | 0, l => l
  | fuel + 1, l =>
    match l.cursor.rest with
    | [] => l
    | c :: rest =>
      if c = ' ' then skipSpace fuel { l with cursor := l.cursor.step }
      else if c = '#' then
        skipSpace fuel { l with cursor := l.cursor.moveTo (rest.dropWhile (!isBreak ·)) }
      else if isBreak c then
        skipSpace fuel { l with cursor := l.cursor.step, keyAllowed := l.keyAllowed || !l.inFlow }
      else l

/-- The lexer behind the byte order mark, if it is at the start of a text that has one. -/
def skipOrderMark (l : Lexer) : Lexer :=
  if l.cursor.index = 0 ∧ l.cursor.rest.head? = some byteOrderMark then
    { l with cursor := l.cursor.step }
  else l

/-- The token at the cursor, whose text starts with this character. -/
def token (l : Lexer) (c : Char) (rest : List Char) : Except Problem Lexer :=
  let atMargin := l.cursor.column == 0
  let word := l.inFlow || endsWord rest
  if c = '%' ∧ atMargin then l.directive
  else if atMargin ∧ startsMark '-' (c :: rest) then l.marker .documentStart
  else if atMargin ∧ startsMark '.' (c :: rest) then l.marker .documentEnd
  else if c = '[' then l.openFlow .flowSequenceStart
  else if c = '{' then l.openFlow .flowMappingStart
  else if c = ']' then l.closeFlow .flowSequenceEnd
  else if c = '}' then l.closeFlow .flowMappingEnd
  else if c = ',' then l.comma
  else if c = '-' ∧ endsWord rest then l.entry
  else if c = '?' ∧ word then l.explicitKey
  else if c = ':' ∧ word then l.value
  else if c = '*' then l.reference
  else if c = '&' then l.anchor
  else if c = '!' then l.tag
  else if c = '|' ∧ !l.inFlow then l.blockScalar false
  else if c = '>' ∧ !l.inFlow then l.blockScalar true
  else if c = Quoted.apostrophe ∨ c = Quoted.doubleQuote then l.quotedScalar c
  else if Plain.starts l.inFlow (c :: rest) then l.plainScalar
  else .error (.strayCharacter c)

/-- The lexer behind the next token; nothing at the end of the text. -/
def next (l : Lexer) : Except Problem (Option Lexer) := do
  let l ← (skipSpace l.cursor.rest.length l.skipOrderMark).dropStale
  let l := l.unindent
  match l.cursor.rest with
  | [] => .ok none
  | c :: rest => do
    let l ← l.token c rest
    .ok (some (← l.dropStale))

def finish (l : Lexer) : Except Problem Lexer :=
  l.unindentAll.clearKey

/-- How many tokens are settled: no key token will be put in before them. -/
def settled (l : Lexer) : Nat :=
  (l.possible :: l.outer).foldl
    (fun n k => match k with | some k => min n k.tokens | none => n) l.tokens.length

def stop (l : Lexer) (p : Problem) : List Token :=
  l.tokens.reverse.take l.settled ++ [.broken p]

/-- All tokens from the cursor on. Each token takes at least one character, so the length of the
text is fuel enough. -/
def run : Nat → Lexer → List Token
  | 0, l => l.stop .ungrammatical
  | fuel + 1, l =>
    match l.next with
    | .ok (some l) => run fuel l
    | .ok none =>
      match l.finish with
      | .ok l => l.tokens.reverse
      | .error p => l.stop p
    | .error p => l.stop p

end Lexer

def Token.ofText (text : List Char) : List Token :=
  let text := normalize text
  match text.find? (!isAllowed ·) with
  | some c => [.broken (.unprintable c)]
  | none => (Lexer.start text).run (text.length + 1)

end AccessNotices.Yaml
