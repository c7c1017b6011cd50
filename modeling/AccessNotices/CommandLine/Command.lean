import AccessNotices.CommandLine.Help
import AccessNotices.Config
import AccessNotices.Role
/-!
The commands of the program, and how a command line asks for one.

The first word that is no option names the command, and the words behind it are its own. An
`Invocation` is what a command line comes to: a command to be run, a request for help, or a mistake.
-/

namespace AccessNotices.CommandLine

open Text

def programName : String := "apdacl"

inductive CommandName where
  | notifications
  | createTables
  deriving DecidableEq, Repr

namespace CommandName

def all : List CommandName := [notifications, createTables]

def text : CommandName → String
  | notifications => "notifications"
  | createTables => "init-db"

def summary : CommandName → String
  | notifications => "Fetch notifications for a user"
  | createTables => "Create the notification tables"

def ofText? (s : String) : Option CommandName :=
  all.find? fun c => c.text == s

def commonOptions : List OptionSpec :=
  [⟨"--config", "Config file (default: " ++ Config.defaultPath ++ ")", false⟩,
   ⟨"--log-level", "Override logging.level from the config file", false⟩]

def options : CommandName → List OptionSpec
  | notifications =>
    [⟨"--user-id", "UUID of the requesting user", true⟩,
     ⟨"--role", "Role of the user (" ++ ", ".intercalate (Role.all.map Role.text) ++ ")", true⟩,
     ⟨"--resource-server-url", "Resource server the notifications belong to", true⟩,
     ⟨"--first-name", "First name of the user", false⟩,
     ⟨"--last-name", "Last name of the user", false⟩,
     ⟨"--email", "Email of the user", false⟩] ++ commonOptions
  | createTables => commonOptions

end CommandName

/-- What a usage or a help text is about. -/
inductive Subject where
  | program
  | command (c : CommandName)
  deriving DecidableEq, Repr

namespace Subject

def name : Subject → String
  | program => programName
  | command c => programName ++ " " ++ c.text

/-- The commands to choose from. -/
def choices : String :=
  "\x7b" ++ ",".intercalate (CommandName.all.map CommandName.text) ++ "\x7d"

def parts : Subject → List String
  | program => ["[" ++ shortHelpName ++ "]", choices, "..."]
  | command c => ("[" ++ shortHelpName ++ "]") :: c.options.map OptionSpec.part

def usage (s : Subject) : String :=
  CommandLine.usage s.name s.parts

def commandLines : List String :=
  entryLines 2 choices "Available commands" ++
    CommandName.all.flatMap fun c => entryLines 4 c.text c.summary

def help : Subject → String
  | program =>
    usage program ++ "\nAccess-request notifications for consumers and providers\n\n" ++
      joinLines ("positional arguments:" :: commandLines) ++ "\n" ++ optionsSection []
  | command c => usage (command c) ++ "\n" ++ optionsSection c.options

def mistake (s : Subject) (message : String) : String :=
  s.usage ++ s.name ++ ": error: " ++ message ++ "\n"

end Subject

/-- Who asks, and for what, as the options say it. -/
structure Request where
  userId : String
  role : String
  resourceServerUrl : String
  firstName : Option String
  lastName : Option String
  email : Option String
  deriving DecidableEq, Repr

/-- What a command does. -/
inductive Task where
  | notifications (r : Request)
  | createTables
  deriving DecidableEq, Repr

def Task.name : Task → CommandName
  | notifications _ => .notifications
  | createTables => .createTables

structure Command where
  task : Task
  configPath : String
  logLevel : Option String
  deriving DecidableEq, Repr

namespace Command

/-- The task of a command's options. A required option is there, because the reading was checked. -/
def taskOf (name : CommandName) (given : List (String × String)) : Task :=
  let argument := Reading.argument? given
  match name with
  | .createTables => .createTables
  | .notifications =>
    .notifications
      ⟨(argument "--user-id").getD "", (argument "--role").getD "",
        (argument "--resource-server-url").getD "", argument "--first-name", argument "--last-name",
        argument "--email"⟩

def ofOptions (name : CommandName) (given : List (String × String)) : Command :=
  let path := (Reading.argument? given "--config").getD Config.defaultPath
  ⟨taskOf name given, Config.shortPath path, Reading.argument? given "--log-level"⟩

end Command

/-- What a command line comes to. -/
inductive Invocation where
  | help (s : Subject)
  | mistake (s : Subject) (message : String)
  | run (c : Command)
  deriving DecidableEq, Repr

namespace Invocation

def unrecognized (words : List String) : Invocation :=
  mistake .program ("unrecognized arguments: " ++ " ".intercalate words)

def noCommand (word : String) : Invocation :=
  mistake .program ("argument command: invalid choice: " ++ quotedString word ++ " (choose from " ++
    ", ".intercalate (CommandName.all.map fun c => quotedString c.text) ++ ")")

/-- The words of a command, behind words that belong to nothing. -/
def ofCommand (others : List String) (name : CommandName) (words : List String) : Invocation :=
  match Reading.ofCommandLine name.options words with
  | .help => help (.command name)
  | .refused message => mistake (.command name) message
  | .done given more =>
    if (others ++ more).isEmpty then run (.ofOptions name given) else unrecognized (others ++ more)

/-- The words of a command line, behind words that belong to nothing. -/
def ofWords (others : List String) : List String → Invocation
  | [] => if others.isEmpty then help .program else unrecognized others
  | word :: rest =>
    if word = "--" then
      if rest.isEmpty then unrecognized (others ++ [word]) else noCommand word
    else
      match classify [] word with
      | .error message => mistake .program message
      | .ok (.flag f attached) =>
        match Reading.ofHelp (f.refused? attached) with
        | .refused message => mistake .program message
        | _ => help .program
      | .ok (.unknown word) => ofWords (others ++ [word]) rest
      | .ok _ =>
        match CommandName.ofText? word with
        | some name => ofCommand others name rest
        | none => noCommand word

def ofCommandLine (words : List String) : Invocation :=
  ofWords [] words

end Invocation

end AccessNotices.CommandLine
