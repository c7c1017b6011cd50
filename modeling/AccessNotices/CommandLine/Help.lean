import AccessNotices.CommandLine.Option
/-!
Help texts: how a command is called, and its options with what they mean.

The texts are laid out for a terminal of eighty columns, two of which stay free. What an option
means starts in the same column for all of them; a name that reaches into that column has a line of
its own.
-/

namespace AccessNotices.CommandLine

/-- Words on as few lines as hold them in order, at most `width` characters to a line. The words of
the line that is being filled are `line`. -/
def fill (width : Nat) (line : String) : List String → List String
  | [] => [line]
  | word :: rest =>
    let longer := line ++ " " ++ word
    if longer.length ≤ width then fill width longer rest else line :: fill width word rest

def fillWords (width : Nat) : List String → List String
  | [] => []
  | word :: rest => fill width word rest

/-- The columns that are used. -/
def textWidth : Nat := 78

/-- The column where the meanings start. -/
def meaningColumn : Nat := 24

def spaces (n : Nat) : String :=
  String.ofList (List.replicate n ' ')

def wordsOf (text : String) : List String :=
  (text.toList.splitOn ' ').map String.ofList

def entryLines (indent : Nat) (name meaning : String) : List String :=
  let lines := fillWords (textWidth - meaningColumn) (wordsOf meaning)
  let hanging := lines.map (spaces meaningColumn ++ ·)
  let header := spaces indent ++ name
  if header.length + 2 ≤ meaningColumn then
    match lines with
    | [] => [header]
    | first :: _ =>
      (header ++ spaces (meaningColumn - header.length) ++ first) :: hanging.tail
  else header :: hanging

/-- How something is called: its name and the parts that may follow. -/
def usage (name : String) (parts : List String) : String :=
  let start := "usage: " ++ name ++ " "
  start ++ ("\n" ++ spaces start.length).intercalate (fillWords (textWidth - start.length) parts) ++
    "\n"

/-- The request for help among the options. -/
def helpLines : List String :=
  entryLines 2 (shortHelpName ++ ", " ++ longHelpName) "show this help message and exit"

def OptionSpec.header (o : OptionSpec) : String :=
  o.name ++ " " ++ o.placeholder

/-- An option as a part of the usage: in brackets if it may be left out. -/
def OptionSpec.part (o : OptionSpec) : String :=
  if o.required then o.header else "[" ++ o.header ++ "]"

def joinLines (lines : List String) : String :=
  String.join (lines.map (· ++ "\n"))

def optionsSection (options : List OptionSpec) : String :=
  joinLines ("options:" :: helpLines ++ options.flatMap fun o => entryLines 2 o.header o.help)

end AccessNotices.CommandLine
