import AccessNotices.Yaml.Text
/-!
Plain scalars: text without quotes.

A plain scalar goes on until a colon that ends a word, a comment, or, between brackets, a character
that separates or closes. It may have several lines; between brackets the indentation of a line
does not matter, elsewhere a line that is indented too little is no part of it.
-/

namespace AccessNotices.Yaml.Plain

/-- Characters with which no plain scalar starts, unless they are one of the three that may start a
word. -/
def indicators : List Char :=
  ['-', '?', ':', ',', '[', ']', '{', '}', '#', '&', '*', '!', '|', '>', '\x27', '\x22', '%', '@',
   '\x60']

/-- Can a plain scalar start here? -/
def starts (inFlow : Bool) : List Char → Bool
  | [] => false
  | c :: rest =>
    (!endsWord (c :: rest) && !indicators.contains c) ||
      (!endsWord rest && (c == '-' || (!inFlow && (c == '?' || c == ':'))))

/-- Characters that separate or close between brackets. -/
def flowIndicators : List Char :=
  [',', '[', ']', '{', '}']

/-- Does a plain scalar end before this text? -/
def stops (inFlow : Bool) : List Char → Bool
  | [] => true
  | c :: rest =>
    endsWord (c :: rest) ||
      (c == ':' && (endsWord rest || (inFlow && rest.head?.any flowIndicators.contains))) ||
      (inFlow && (c == '?' || flowIndicators.contains c))

/-- Is the line behind a gap indented too little to go on? -/
def isOutdented (inFlow : Bool) (indent : Nat) : Gap → Bool
  | .lines _ column => !inFlow && column < indent
  | _ => false

def isApart : Gap → Bool
  | .none => false
  | _ => true

/-- The text of a plain scalar, and what follows its last character. `behind` is the text from the
start of the gap on, which is left over when the scalar does not go on behind the gap. -/
def chars (inFlow : Bool) (indent : Nat) :
    Gap → (behind : List Char) → List Char → List Char × List Char
  | _, behind, [] => ([], behind)
  | gap, behind, c :: rest =>
    if c = ' ' then chars inFlow indent (gap.addBlank c) behind rest
    else if isBreak c then
      if startsMarker rest then ([], behind)
      else chars inFlow indent (gap.addBreak c) behind rest
    else if (isApart gap && c == '#') || isOutdented inFlow indent gap || stops inFlow (c :: rest)
    then ([], behind)
    else
      let (more, left) := chars inFlow indent .none rest rest
      (gap.text ++ c :: more, left)

/-- The plain scalar at the start of a text, and what follows it. -/
def read (inFlow : Bool) (indent : Nat) (s : List Char) : List Char × List Char :=
  chars inFlow indent .none s s

end AccessNotices.Yaml.Plain
