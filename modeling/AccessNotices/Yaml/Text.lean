import AccessNotices.Calendar.Date
import AccessNotices.Number.Integer
import AccessNotices.Text.Halved
/-!
The characters of a YAML text, and what can be wrong with one.

A text is read as lines; `normalize` gives every line end its one form. Between two parts of a
scalar there may be a `Gap`: blanks, which are kept as they are, or line ends, which are folded: one
line end is a space, and of more all but the first are kept.
-/

namespace AccessNotices.Yaml

inductive Problem where
  /-- The character may not occur at all. -/
  | unprintable (c : Char)
  /-- Nothing starts with the character. -/
  | strayCharacter (c : Char)
  | badDirective
  /-- The name of an anchor or an alias is empty, or something stands right behind it. -/
  | badName
  | badTag
  | unfinishedQuotes
  /-- A line between quotes is a document marker. -/
  | markerInQuotes
  | badEscape
  /-- An escape gives a code that no character has. -/
  | noCharacter (code : Nat)
  /-- An escape gives a number that is too large for a code. -/
  | noCode (code : Nat)
  /-- The line that opens a block scalar has something else on it. -/
  | badBlockHeader
  /-- Something that has to be a key is not followed by a colon on its line. -/
  | keyWithoutColon
  /-- An entry, a key or a value stands where none may start. -/
  | misplaced
  /-- The tokens do not follow the grammar. -/
  | ungrammatical
  | severalDocuments
  | repeatedDirective
  /-- The text is written in another version of YAML. -/
  | unknownVersion
  | unknownHandle
  | repeatedAnchor
  | unknownAlias
  /-- What a merge key gives is neither a mapping nor a sequence of mappings. -/
  | notMergeable
  /-- A sequence or a mapping is used as a key. -/
  | keyWithParts
  /-- The tag of a node has no values. -/
  | noValue
  /-- The tag of a node asks for something of another shape. -/
  | wrongShape
  /-- A number has no characters. -/
  | emptyNumber
  /-- A text is no numeral in a base. -/
  | notNumeral (base : Nat) (text : List Char)
  /-- A decimal numeral has too many digits. -/
  | tooManyDigits (count : Nat)
  /-- A text is no number with a point. -/
  | notPointed (text : List Char)
  /-- A number in base sixty has a place that is worth too much. -/
  | tooLarge
  /-- A text is no truth value. -/
  | notTruth (text : List Char)
  /-- A text is no byte string in base 64. -/
  | notBinary
  /-- A text is not written like a date or a moment. -/
  | notTime
  /-- There is no such date or time. -/
  | noTime (p : Calendar.Problem)
  deriving DecidableEq, Repr

open Number Text

/-- The wording of a problem with the value of a scalar; the other problems are about the text, and
have no wording. -/
def Problem.valueMessage? : Problem → Option String
  | .noCharacter _ => some "chr() arg not in range(0x110000)"
  | .noCode _ => some "Python int too large to convert to C int"
  | .emptyNumber => some "string index out of range"
  | .notNumeral base text => some (invalidLiteral base (String.ofList text))
  | .tooManyDigits count => some (tooManyDigitsText count)
  | .notPointed text =>
    some ("could not convert string to float: " ++ String.ofList (quoted text))
  | .tooLarge => some "int too large to convert to float"
  | .notTruth text => some (String.ofList (quoted text))
  | .noTime p => some p.message
  | _ => none

/-! ### Characters -/

/-- The mark that a text may start with, which has no width. -/
def byteOrderMark : Char := '\uFEFF'

/-- May the character occur in a text? -/
def isAllowed (c : Char) : Bool :=
  let n := c.toNat
  n == 0x09 || n == 0x0A || n == 0x0D || (0x20 ≤ n && n ≤ 0x7E) || n == 0x85 ||
    (0xA0 ≤ n && n ≤ 0xD7FF) || (0xE000 ≤ n && n ≤ 0xFFFD) || (0x10000 ≤ n && n ≤ 0x10FFFF)

/-- Does the character end a line? -/
def isBreak (c : Char) : Bool :=
  c == '\n' || c == '\r' || c == '\u0085' || c == '\u2028' || c == '\u2029'

/-- A line end as it is kept in a scalar: the next-line character becomes a line feed. -/
def keptBreak (c : Char) : Char :=
  if c = '\u0085' ∨ c = '\r' then '\n' else c

/-- A blank inside a line. -/
def isGap (c : Char) : Bool :=
  c == ' ' || c == '\t'

/-- The characters of names: ASCII letters and digits, the hyphen and the underscore. -/
def isNameChar (c : Char) : Bool :=
  c.isAlphanum || c == '-' || c == '_'

def hexValue? (c : Char) : Option Nat :=
  if c.toNat < 0x80 then digitValue? c else none

def endsLine : List Char → Bool
  | [] => true
  | c :: _ => isBreak c

/-- Does a word end here: at the end of the text, a blank or a line end? -/
def endsWord : List Char → Bool
  | [] => true
  | c :: _ => isGap c || isBreak c

/-- A text in which a carriage return, alone or before a line feed, is a line feed. -/
def normalize : List Char → List Char
  | [] => []
  | '\r' :: '\n' :: rest => '\n' :: normalize rest
  | c :: rest => (if c = '\r' then '\n' else c) :: normalize rest

/-- Is there a mark of three characters here, as a word of its own? -/
def startsMark (mark : Char) : List Char → Bool
  | a :: b :: c :: rest => a == mark && b == mark && c == mark && endsWord rest
  | _ => false

/-- Is there a document marker here? It counts only at the start of a line. -/
def startsMarker (s : List Char) : Bool :=
  startsMark '-' s || startsMark '.' s

/-! ### Scalars -/

/-- The text of a scalar. -/
inductive Content where
  | chars (s : List Char)
  /-- A text that holds halves of characters. -/
  | codes (t : HalvedText)
  deriving DecidableEq, Repr

namespace Content

def ofCodes (cs : List Nat) : Content :=
  if halved : cs.any isHalf then codes ⟨cs, halved⟩ else chars (cs.map Char.ofNat)

def text : Content → List Char
  | chars s => s
  | codes t => joinReplacing t.codes

end Content

/-! ### Gaps -/

/-- Line ends between two lines of a scalar: a single line feed becomes a space, of several line
ends the first disappears unless it is no line feed. -/
def foldedText : List Char → List Char
  | [] => []
  | first :: more =>
    if first ≠ '\n' then first :: more else if more.isEmpty then [' '] else more

/-- What lies between two parts of a scalar. -/
inductive Gap where
  | none
  /-- Blanks on one line. -/
  | blanks (cs : List Char)
  /-- Line ends, and the number of blanks on the last line. -/
  | lines (breaks : List Char) (column : Nat)
  /-- Line ends behind one that is escaped. -/
  | joined (breaks : List Char)

namespace Gap

def text : Gap → List Char
  | none => []
  | blanks cs => cs
  | lines breaks _ => foldedText breaks
  | joined breaks => breaks

def addBlank (c : Char) : Gap → Gap
  | none => blanks [c]
  | blanks cs => blanks (cs ++ [c])
  | lines breaks column => lines breaks (column + 1)
  | joined breaks => joined breaks

/-- The gap with one more line end. -/
def addBreak (c : Char) : Gap → Gap
  | none => lines [keptBreak c] 0
  | blanks _ => lines [keptBreak c] 0
  | lines breaks _ => lines (breaks ++ [keptBreak c]) 0
  | joined breaks => joined (breaks ++ [keptBreak c])

end Gap

end AccessNotices.Yaml
