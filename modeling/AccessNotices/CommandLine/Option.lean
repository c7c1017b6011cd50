import AccessNotices.Text.Case
import AccessNotices.Text.Digit
import AccessNotices.Text.Quoted
import AccessNotices.Text.Split
/-!
Options on a command line.

An option is a word with two hyphens and takes one argument, in the same word behind an equals sign
or in the next word. Its name may be cut short as long as no other name starts the same way. Behind
a word of two hyphens nothing is an option. Help is asked for by a long name or by a letter, which
may be repeated in one word. Words are first classified, all of them, and then taken in order; where
an option is given twice the last one counts.
-/

namespace AccessNotices.CommandLine

open Text

/-- An option with one argument. -/
structure OptionSpec where
  name : String
  help : String
  required : Bool
  deriving DecidableEq, Repr

/-- What stands for the argument in a help text: the name in capitals. -/
def OptionSpec.placeholder (o : OptionSpec) : String :=
  uppered (String.ofList ((o.name.toList.drop 2).map fun c => if c = '-' then '_' else c))

/-- An option, or the request for help under one of its two names. -/
inductive Flag where
  | shortHelp
  | longHelp
  | option (o : OptionSpec)
  deriving DecidableEq, Repr

def helpLetter : Char := 'h'

/-- The short and the long name of the request for help. -/
def shortHelpName : String := String.ofList ['-', helpLetter]

def longHelpName : String := "--help"

/-- A word of a command line. A flag may have a text attached to it in the same word. -/
inductive Word where
  | bare (text : String)
  /-- The word behind which nothing is an option. -/
  | divider
  | flag (f : Flag) (attached : Option (List Char))
  /-- A word that looks like an option and is none. -/
  | unknown (text : String)
  deriving DecidableEq, Repr

def flagNamed? (options : List OptionSpec) (name : String) : Option Flag :=
  if name = shortHelpName then some .shortHelp
  else if name = longHelpName then some .longHelp
  else (options.find? fun o => o.name == name).map .option

def longNames (options : List OptionSpec) : List (String × Flag) :=
  (longHelpName, .longHelp) :: options.map fun o => (o.name, .option o)

/-- A word up to its first equals sign, and what stands behind that, if there is one. -/
def cutEquals (word : List Char) : List Char × Option (List Char) :=
  match cutFirst? ['='] word with
  | some (name, text) => (name, some text)
  | none => (word, none)

/-- The flags that a word may stand for when no name is spelled out: with two hyphens, those whose
names start like it; with one, the request for help if the word starts with its letter. -/
def candidates (options : List OptionSpec) (word : List Char) :
    List (String × Flag × Option (List Char)) :=
  if "--".toList.isPrefixOf word then
    let (name, attached) := cutEquals word
    ((longNames options).filter fun n => name.isPrefixOf n.1.toList).map fun (name, flag) =>
      (name, flag, attached)
  else if word.take 2 = shortHelpName.toList then
    [(shortHelpName, .shortHelp, some (word.drop 2))]
  else []

/-- Digits of any script, at least one. -/
def areDecimals (s : List Char) : Bool :=
  !s.isEmpty && s.all fun c => (decimalValue? c).isSome

/-- Is the word a negative number, with or without a fraction? A line end may follow. -/
def isNegativeNumber (word : List Char) : Bool :=
  match if word.getLast? = some '\n' then word.dropLast else word with
  | '-' :: body =>
    areDecimals body ||
      (match cutFirst? ['.'] body with
        | some (whole, fraction) => (whole.isEmpty || areDecimals whole) && areDecimals fraction
        | none => false)
  | _ => false

/-- What is said about a word that may stand for several options. -/
def ambiguity (word : String) (names : List String) : String :=
  "ambiguous option: " ++ word ++ " could match " ++ ", ".intercalate names

def classify (options : List OptionSpec) (word : String) : Except String Word :=
  let chars := word.toList
  let (name, attached) := cutEquals chars
  if chars.head? ≠ some '-' then .ok (.bare word)
  else
    match flagNamed? options word with
    | some f => .ok (.flag f none)
    | none =>
      if chars.length = 1 then .ok (.bare word)
      else
        match attached, flagNamed? options (String.ofList name) with
        | some text, some f => .ok (.flag f (some text))
        | _, _ =>
          match candidates options chars with
          | [(_, f, text)] => .ok (.flag f text)
          | [] =>
            if isNegativeNumber chars || chars.contains ' ' then .ok (.bare word)
            else .ok (.unknown word)
          | several => .error (ambiguity word (several.map Prod.fst))

/-- The kinds of all words. -/
def classifyAll (options : List OptionSpec) : List String → Except String (List Word)
  | [] => .ok []
  | word :: rest =>
    if word = "--" then .ok (.divider :: rest.map .bare)
    else do
      let w ← classify options word
      let ws ← classifyAll options rest
      .ok (w :: ws)

/-- What the letter for help does not take of the text behind it. The text may repeat the letter;
from the first other character on it is refused, and so is an empty text. -/
def refusedByLetter? : List Char → Option (List Char)
  | [] => some []
  | c :: rest =>
    if c = helpLetter then if rest.isEmpty then none else refusedByLetter? rest
    else some (c :: rest)

/-- What a flag does not take of the text attached to it. The long request for help takes none, an
option takes all. -/
def Flag.refused? (attached : Option (List Char)) : Flag → Option (List Char)
  | shortHelp => attached.bind refusedByLetter?
  | longHelp => attached
  | option _ => none

/-- What taking the words comes to. -/
inductive Reading where
  /-- Help is asked for. -/
  | help
  | refused (message : String)
  /-- The options with their arguments, and the words that belong to none. -/
  | done (given : List (String × String)) (others : List String)
  deriving DecidableEq, Repr

namespace Reading

/-- The reading with a word more that belongs to no option. -/
def addOther (word : String) : Reading → Reading
  | done given others => done given (word :: others)
  | r => r

/-- The reading with one more option in front. -/
def addGiven (name argument : String) : Reading → Reading
  | done given others => done ((name, argument) :: given) others
  | r => r

/-- What a request for help comes to: a text that it does not take is refused. -/
def ofHelp : (text : Option (List Char)) → Reading
  | none => help
  | some text =>
    refused ("argument " ++ shortHelpName ++ "/" ++ longHelpName ++
      ": ignored explicit argument " ++ String.ofList (quoted text))

def ofWords : List Word → Reading
  | [] => done [] []
  | .bare s :: rest => (ofWords rest).addOther s
  | .divider :: rest => (ofWords rest).addOther "--"
  | .unknown s :: rest => (ofWords rest).addOther s
  | .flag (.option o) (some text) :: rest => (ofWords rest).addGiven o.name (String.ofList text)
  | .flag (.option o) none :: .bare s :: rest => (ofWords rest).addGiven o.name s
  | .flag (.option o) none :: _ => refused ("argument " ++ o.name ++ ": expected one argument")
  | .flag f attached :: _ => ofHelp (f.refused? attached)

def check (options : List OptionSpec) : Reading → Reading
  | done given others =>
    let missing := options.filter fun o => o.required && (given.lookup o.name).isNone
    if missing.isEmpty then done given others
    else
      refused ("the following arguments are required: " ++
        ", ".intercalate (missing.map OptionSpec.name))
  | r => r

def ofCommandLine (options : List OptionSpec) (words : List String) : Reading :=
  match classifyAll options words with
  | .ok ws => (ofWords ws).check options
  | .error message => refused message

/-- The argument of an option: the one that was given last. -/
def argument? (given : List (String × String)) (name : String) : Option String :=
  given.reverse.lookup name

end Reading

end AccessNotices.CommandLine
