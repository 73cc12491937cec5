import Bindery.Command

/-! # Command lines

A command line is `[-v] [-d] COMMAND OPTION…`.  Options may be given as `--name value`,
`--name=value`, `-n value`, `-nvalue` or `-n=value`, each once unless it is a backend.  It is read
from left to right: the first thing that is wrong ends it, and so does a request for help. -/

namespace Bindery.Arguments

/-- Why there is no command. -/
inductive Refusal where
  /-- Help was asked for. -/
  | help
  /-- The command line is not well formed. -/
  | invalid
  deriving DecidableEq

/-- The names of commands. -/
inductive Verb where
  | generate
  | filter
  | mixins
  deriving DecidableEq

/-- The command that a word names. -/
def verb? (word : String) : Option Verb :=
  if word = "generate" then some .generate
  else if word = "filter" then some .filter
  else if word = "mixins" then some .mixins
  else none

/-- The options of commands. -/
inductive Field where
  | database
  | config
  | output
  | system
  | report
  | target
  deriving DecidableEq

namespace Field

def long : Field → String
  | .database => "database"
  | .config => "config"
  | .output => "output"
  | .system => "system"
  | .report => "report"
  | .target => "target"

def short? : Field → Option Char
  | .config => some 'c'
  | .output => some 'o'
  | .system => some 's'
  | .target => some 't'
  | _ => none

/-- Whether the value of an option is a path, which is never empty. -/
def isPath : Field → Bool
  | .system => false
  | .target => false
  | _ => true

end Field

def Verb.fields : Verb → List Field
  | .generate => [.database, .config, .output, .system, .report]
  | .filter => [.database, .config, .target, .output]
  | .mixins => [.database, .config, .target]

/-- The values of options, in the order in which they were given. -/
abbrev Given := List (Field × String)

def take (given : Given) (field : Field) (value : String) : Except Refusal Given :=
  if field ≠ .system ∧ given.any (·.1 = field) then .error .invalid
  else if field.isPath ∧ value = "" then .error .invalid
  else .ok (given ++ [(field, value)])

/-- Whether a word can be a value of its own: it does not look like an option. -/
def isValue (word : String) : Bool :=
  word = "-" || word.toList.head? != some '-'

/-- Cuts a word at its first equals sign. -/
def cutEquals (cs : List Char) : List Char × Option (List Char) :=
  match cs.dropWhile (· ≠ '=') with
  | [] => (cs, none)
  | _ :: value => (cs.takeWhile (· ≠ '='), some value)

/-- The option that a word names, with the value that it holds; `none` asks for help. -/
def option? (verb : Verb) (word : String) : Option (Option Field × Option String) :=
  match word.toList with
  | '-' :: '-' :: rest =>
    let (name, value) := cutEquals rest
    if rest = "help".toList then some (none, none)
    else
      (verb.fields.find? fun f => f.long.toList = name).map fun f =>
        (some f, value.map String.ofList)
  | '-' :: c :: rest =>
    if c = 'h' then some (none, none)
    else
      (verb.fields.find? fun f => f.short? = some c).map fun f =>
        (some f, match rest with
          | [] => none
          | '=' :: value => some (String.ofList value)
          | value => some (String.ofList value))
  | _ => none

def readOptions (verb : Verb) : Given → List String → Except Refusal Given
  | given, [] => .ok given
  | given, ["--"] => .ok given
  | given, word :: rest =>
    match option? verb word with
    | none => .error .invalid
    | some (none, _) => .error .help
    | some (some field, some value) =>
      match take given field value with
      | .ok given => readOptions verb given rest
      | .error r => .error r
    | some (some field, none) =>
      match rest with
      | [] => .error .invalid
      | value :: rest =>
        if isValue value then
          match take given field value with
          | .ok given => readOptions verb given rest
          | .error r => .error r
        else .error .invalid

/-- The value of an option that is given at most once. -/
def Given.text? (given : Given) (field : Field) : Option String :=
  given.lookup field

/-- The path of an option that is given at most once. -/
def Given.path? (given : Given) (field : Field) : Option Path :=
  (given.lookup field).map Path.mk

/-- The command that options give, if those are there that it needs.  `config` is the configuration
that is used if none is given. -/
def command (verb : Verb) (config : Option String) (given : Given) : Except Refusal Command :=
  let chosen := match Given.text? given .config with
    | some text => some text
    | none => config
  if chosen = some "" then .error .invalid
  else
    let config := chosen.map Path.mk
    match verb, Given.path? given .database, Given.path? given .output with
    | _, none, _ => .error .invalid
    | .generate, some database, output =>
      .ok (.generate database config output
        ((given.filter fun g => g.1 = .system).map (·.2)) (Given.path? given .report))
    | .filter, some _, none => .error .invalid
    | .filter, some database, some output =>
      .ok (.filter database config (Given.text? given .target) output)
    | .mixins, some database, _ => .ok (.mixins database config (Given.text? given .target))

/-! ### Flags -/

/-- The flags before the command. -/
structure Flags where
  verbose : Bool := false
  debug : Bool := false
  deriving DecidableEq

/-- A flag that is set once at most. -/
def Flags.set (flags : Flags) (c : Char) : Except Refusal Flags :=
  if c = 'h' then .error .help
  else if c = 'v' ∧ !flags.verbose then .ok { flags with verbose := true }
  else if c = 'd' ∧ !flags.debug then .ok { flags with debug := true }
  else .error .invalid

/-- The letters of the flags that a word sets. -/
def flagLetters? (word : String) : Option (List Char) :=
  match word.toList with
  | '-' :: '-' :: rest =>
    if rest = "help".toList then some ['h']
    else if rest = "verbose".toList then some ['v']
    else if rest = "debug".toList then some ['d']
    else none
  | '-' :: c :: rest => some (c :: rest)
  | _ => none

/-- A command line that was understood. -/
structure Invocation where
  flags : Flags
  command : Command
  deriving DecidableEq

/-- What comes of `help` with the words behind it, which may name one command or `help` itself. -/
def helpTopic : List String → Refusal
  | [] => .help
  | [word] => if word = "help" ∨ (verb? word).isSome then .help else .invalid
  | _ => .invalid

/-- Reads a command line behind some flags. -/
def parseWith (config : Option String) : Flags → List String → Except Refusal Invocation
  | _, [] => .error .invalid
  | flags, word :: rest =>
    match verb? word with
    | some verb =>
      match readOptions verb [] rest with
      | .error r => .error r
      | .ok given => (command verb config given).map fun c => ⟨flags, c⟩
    | none =>
      if word = "help" then .error (helpTopic rest)
      else
        match flagLetters? word with
        | none => .error .invalid
        | some letters =>
          match letters.foldlM Flags.set flags with
          | .ok flags => parseWith config flags rest
          | .error r => .error r

/-- Reads a command line.  `config` is the configuration that is used if none is given. -/
def parse (config : Option String) (words : List String) : Except Refusal Invocation :=
  parseWith config {} words

/-! ### Programs -/

/-- What a program leaves behind. -/
structure Ending where
  exit : Nat
  notes : List Note := []
  /-- The lines that were printed; help is none of them. -/
  printed : Option (List String) := none
  error : Option String := none
  tree : FileTree

namespace Ending

/-- The notes as far as they are shown on one line each. -/
def logged (e : Ending) : List Note :=
  e.notes.map fun n => { n with text := n.lines.headD "" }

/-- What is printed besides the notes: the further lines of notes, and the lines of the answer. -/
def shown (e : Ending) : Option (List String) :=
  e.printed.map fun lines => e.notes.flatMap (·.lines.tail) ++ lines.flatMap Text.lines

end Ending

/-- Runs the program on a command line. -/
def runProgram (tree : FileTree) (config : Option String) (words : List String) : Ending :=
  match parse config words with
  | .error .help => { exit := 0, tree }
  | .error .invalid => { exit := 2, tree }
  | .ok invocation =>
    let done := invocation.command.run tree
    match done.outcome with
    | .ok printed => { exit := 0, notes := done.notes, printed := some printed, tree := done.tree }
    | .error f =>
      { exit := 1
        notes := done.notes
        printed := some []
        error := some ("Error: " ++ f.message)
        tree := done.tree }

end Bindery.Arguments
