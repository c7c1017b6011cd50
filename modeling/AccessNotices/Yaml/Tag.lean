import AccessNotices.Value.Basic
import AccessNotices.Yaml.Scalar.Binary
import AccessNotices.Yaml.Scalar.Number
import AccessNotices.Yaml.Scalar.Time
/-!
Tags: what a node is to be read as, and the values of scalars under them.

A tag is written in front of a node, or follows from what the node is: a scalar in quotes or in a
block is a text, and a plain scalar is what its spelling says (`ofSpelling`).
-/

namespace AccessNotices.Yaml

inductive Tag where
  | null
  | bool
  | int
  | float
  | timestamp
  | binary
  | string
  | sequence
  | mapping
  /-- A mapping of which the keys count. -/
  | set
  /-- A sequence of mappings with one entry each. -/
  | pairs
  /-- As a key it merges the entries of its value into the mapping. -/
  | merge
  /-- As a key it gives the value that stands for the whole mapping. -/
  | default
  /-- Any other tag; its nodes have no values. -/
  | other
  deriving DecidableEq, Repr

namespace Tag

def home : String := "tag:yaml.org,2002:"

/-- What a handle stands for where nothing is said about it. -/
def builtInHandles : List (List Char × List Char) :=
  [(['!'], ['!']), (['!', '!'], home.toList)]

/-- The tags that have a meaning, by what follows `home`. -/
def named : List (String × Tag) :=
  [("null", null), ("bool", bool), ("int", int), ("float", float), ("timestamp", timestamp),
   ("binary", binary), ("str", string), ("seq", sequence), ("map", mapping), ("set", set),
   ("omap", pairs), ("pairs", pairs), ("merge", merge), ("value", default)]

def ofText (s : List Char) : Tag :=
  ((named.map fun (name, t) => ((home ++ name).toList, t)).lookup s).getD other

def nulls : List String := ["", "~", "null", "Null", "NULL"]

def truths : List String :=
  ["yes", "Yes", "YES", "true", "True", "TRUE", "on", "On", "ON"]

def falsehoods : List String :=
  ["no", "No", "NO", "false", "False", "FALSE", "off", "Off", "OFF"]

def mergeKey : String := "<<"

def defaultKey : String := "="

/-- Marks that are no texts when they stand alone. -/
def marks : List String := ["!", "&", "*"]

def ofSpelling (s : List Char) : Tag :=
  let word := String.ofList s
  if nulls.contains word then null
  else if truths.contains word || falsehoods.contains word then bool
  else if word = mergeKey then merge
  else if word = defaultKey then default
  else if marks.contains word then other
  else if Scalar.isFloat s then float
  else if Scalar.isInteger s then int
  else if Scalar.isTime s then timestamp
  else string

end Tag

namespace Scalar

def text : Content → Value
  | .chars s => .text (String.ofList s)
  | .codes t => .codes t

def truthWords : List (String × Bool) :=
  [("yes", true), ("no", false), ("true", true), ("false", false), ("on", true), ("off", false)]

def truth (s : List Char) : Except Problem Bool :=
  let word := Text.lowerWritten s
  match truthWords.lookup (String.ofList word) with
  | some b => .ok b
  | none => .error (.notTruth word)

/-- The date or the moment of a scalar. -/
def time (s : List Char) : Except Problem Value :=
  match written? s with
  | none => .error .notTime
  | some w =>
    match w.value with
    | .ok (.inl date) => .ok (.date date)
    | .ok (.inr moment) => .ok (.moment moment)
    | .error p => .error (.noTime p)

def value (tag : Tag) (content : Content) : Except Problem Value :=
  match tag with
  | .null => .ok .null
  | .bool => (truth content.text).map .bool
  | .int => (integer content.text).map .int
  | .float => (float content.text).map .float
  | .timestamp => time content.text
  | .binary => (binary content.text).map .bytes
  | .string => .ok (text content)
  | _ => .error .noValue

end Scalar

end AccessNotices.Yaml
