import AccessNotices.Text.Digit
import AccessNotices.Yaml.Text
/-!
Quoted scalars.

Between apostrophes an apostrophe is written twice and nothing else is special; between double
quotes a backslash starts an escape. In both, blanks around a line end do not count and line ends
are folded. What is read are codes, because an escape may give half of a character.
-/

namespace AccessNotices.Yaml.Quoted

open Text Number

def apostrophe : Char := '\x27'

def doubleQuote : Char := '\x22'

def shortEscapes : List (Char × Nat) :=
  [('0', 0x00), ('a', 0x07), ('b', 0x08), ('t', 0x09), ('\t', 0x09), ('n', 0x0A), ('v', 0x0B),
   ('f', 0x0C), ('r', 0x0D), ('e', 0x1B), (' ', 0x20), (doubleQuote, 0x22), ('\\', 0x5C),
   ('/', 0x2F), ('N', 0x85), ('_', 0xA0), ('L', 0x2028), ('P', 0x2029)]

/-- Escapes that are followed by hexadecimal digits, and how many. -/
def codeEscapes : List (Char × Nat) :=
  [('x', 2), ('u', 4), ('U', 8)]

/-- All characters' codes are less than this. -/
def characterLimit : Nat := 0x110000

/-- A code is a number below this one. -/
def codeLimit : Nat := 0x80000000

/-- The code of an escape, from behind the backslash, and what follows it. -/
def escape (s : List Char) : Except Problem (Nat × List Char) :=
  match s with
  | [] => .error .badEscape
  | e :: rest =>
    match shortEscapes.lookup e, codeEscapes.lookup e with
    | some code, _ => .ok (code, rest)
    | none, some width =>
      match (rest.take width).mapM hexValue? with
      | none => .error .badEscape
      | some digits =>
        let code := ofDigits 16 digits
        if digits.length ≠ width then .error .badEscape
        else if codeLimit ≤ code then .error (.noCode code)
        else if characterLimit ≤ code then .error (.noCharacter code)
        else .ok (code, rest.drop width)
    | none, none => .error .badEscape

/-- The codes from inside the quotes up to the closing one, with the gap that was passed last. Each
step consumes a character, so the length of the text is fuel enough. -/
def codes (quote : Char) : Nat → Gap → List Char → Except Problem (List Nat × List Char)
  | 0, _, _ => .error .unfinishedQuotes
  | _, _, [] => .error .unfinishedQuotes
  | fuel + 1, gap, c :: rest => do
    let passed := gap.text.map Char.toNat
    if isGap c then codes quote fuel (gap.addBlank c) rest
    else if isBreak c then
      if startsMarker rest then .error .markerInQuotes
      else codes quote fuel (gap.addBreak c) rest
    else if c = quote then
      if quote = apostrophe ∧ rest.head? = some apostrophe then
        let (more, rest) ← codes quote fuel .none rest.tail
        .ok (passed ++ c.toNat :: more, rest)
      else .ok (passed, rest)
    else if c = '\\' ∧ quote = doubleQuote then
      match rest with
      | b :: rest =>
        if isBreak b then
          if startsMarker rest then .error .markerInQuotes
          else
            let (more, rest) ← codes quote fuel (.joined []) rest
            .ok (passed ++ more, rest)
        else
          let (code, rest) ← escape (b :: rest)
          let (more, rest) ← codes quote fuel .none rest
          .ok (passed ++ code :: more, rest)
      | [] => .error .unfinishedQuotes
    else
      let (more, rest) ← codes quote fuel .none rest
      .ok (passed ++ c.toNat :: more, rest)

/-- The scalar behind an opening quote, and what follows the closing one. -/
def read (quote : Char) (s : List Char) : Except Problem (Content × List Char) := do
  let (units, rest) ← codes quote s.length .none s
  .ok (.ofCodes units, rest)

end AccessNotices.Yaml.Quoted
