import AccessNotices.Json.Basic
import AccessNotices.Number.Shortest
import AccessNotices.Text.Digit
import AccessNotices.Text.Units
/-!
JSON texts of JSON values, in ASCII.

A character outside printable ASCII is written as its UTF-16 code units in hexadecimal, so a text
holds nothing but the characters from the space to the tilde. There are two layouts: on one line,
and indented with one item a line.
-/

namespace AccessNotices.Json

open Number Text

def unitEscape (unit : Nat) : List Char :=
  '\\' :: 'u' :: hexDigits 4 unit

/-- The letter that stands for a character behind a backslash, if it has one. -/
def escapeLetter? (c : Char) : Option Char :=
  if c = '\x22' ∨ c = '\\' then some c
  else if c = '\n' then some 'n'
  else if c = '\r' then some 'r'
  else if c = '\t' then some 't'
  else if c = '\x08' then some 'b'
  else if c = '\x0c' then some 'f'
  else none

/-- One character between the quotes of a string. -/
def encodeChar (c : Char) : List Char :=
  match escapeLetter? c with
  | some letter => ['\\', letter]
  | none => if ' ' ≤ c ∧ c ≤ '~' then [c] else (codeUnits c).flatMap unitEscape

def encodeString (s : String) : List Char :=
  '\x22' :: s.toList.flatMap encodeChar ++ ['\x22']

/-- The text of a value without parts. -/
def encodeScalar : Json → List Char
  | null => "null".toList
  | bool b => if b then "true".toList else "false".toList
  | int n => intText n
  | float x => Shortest.finiteText x
  | string s => encodeString s
  | array _ => []
  | object _ => []

mutual

/-- The text of a value on one line. -/
def encode : Json → List Char
  | array items => '[' :: encodeItems items ++ [']']
  | object members => '{' :: encodeMembers members ++ ['}']
  | scalar => encodeScalar scalar

/-- Items with a comma and a space between. -/
def encodeItems : List Json → List Char
  | [] => []
  | [v] => encode v
  | v :: w :: rest => encode v ++ ',' :: ' ' :: encodeItems (w :: rest)

/-- Members with a comma and a space between. -/
def encodeMembers : List (String × Json) → List Char
  | [] => []
  | [(k, v)] => encodeString k ++ ':' :: ' ' :: encode v
  | (k, v) :: m :: rest =>
    encodeString k ++ ':' :: ' ' :: encode v ++ ',' :: ' ' :: encodeMembers (m :: rest)

end

def lineBreak (depth : Nat) : List Char :=
  '\n' :: List.replicate (2 * depth) ' '

mutual

/-- The text of a value with its parts on lines of their own, indented by two spaces a level.
Nothing is put between the brackets of an empty array or object. -/
def indented (depth : Nat) : Json → List Char
  | array [] => ['[', ']']
  | array (v :: rest) =>
    '[' :: lineBreak (depth + 1) ++ indentedItems (depth + 1) (v :: rest) ++ lineBreak depth ++
      [']']
  | object [] => ['{', '}']
  | object (m :: rest) =>
    '{' :: lineBreak (depth + 1) ++ indentedMembers (depth + 1) (m :: rest) ++ lineBreak depth ++
      ['}']
  | scalar => encodeScalar scalar

/-- Items with a comma and a line end between. -/
def indentedItems (depth : Nat) : List Json → List Char
  | [] => []
  | [v] => indented depth v
  | v :: w :: rest => indented depth v ++ ',' :: lineBreak depth ++ indentedItems depth (w :: rest)

/-- Members with a comma and a line end between. -/
def indentedMembers (depth : Nat) : List (String × Json) → List Char
  | [] => []
  | [(k, v)] => encodeString k ++ ':' :: ' ' :: indented depth v
  | (k, v) :: m :: rest =>
    encodeString k ++ ':' :: ' ' :: indented depth v ++ ',' :: lineBreak depth ++
      indentedMembers depth (m :: rest)

end

/-- The text of a value on one line. -/
def compact (j : Json) : String :=
  String.ofList (encode j)

def pretty (j : Json) : String :=
  String.ofList (indented 0 j)

end AccessNotices.Json
