import LexicalPass.CommandLine.Arguments
import LexicalPass.CommandLine.TokenTable
import LexicalPass.SourceFile
import LexicalPass.Text.Displayed
import LexicalPass.Text.LineEnding

/-!
A run of the command line.  The files are lexed in order; warnings are printed
and counted, and the first file that cannot be lexed ends the run.  Nothing is
lexed unless all names given are those of source files.
-/

set_option autoImplicit false

namespace LexicalPass.CommandLine

inductive UsageError where
  | argument (error : ArgumentError)
  | logLevel (value : String)
  | isDirectory (name : String)
  | wrongExtension (path : Path) (extension : String)
deriving DecidableEq, Repr

namespace UsageError

def question : List String → String
  | [] => ""
  | [option] => " Did you mean " ++ Text.quote option ++ "?"
  | options =>
      let quoted := options.map fun option : String => Text.quote option
      " (Did you mean one of: " ++ String.intercalate ", " quoted ++ "?)"

def message : UsageError → String
  | argument (.unknownOption option similar) =>
      "No such option " ++ Text.quote option ++ "." ++ question similar
  | argument (.missingValue option) => "Option " ++ Text.quote option ++ " requires an argument."
  | argument (.unexpectedValue option) =>
      "Option " ++ Text.quote option ++ " does not take a value."
  | logLevel value =>
      "Invalid value for '--log-level': " ++ Text.quote value ++
        " is not one of 'debug', 'info', 'warning', 'error'."
  | isDirectory name =>
      "Invalid value for '[FILES]...': File " ++ Text.quote name ++ " is a directory."
  | wrongExtension path extension =>
      "'" ++ path.render.written ++ "' is not a Solace source file (expected a '" ++ extension ++
        "' extension)"

/-- The parameter that a wrong value was given for, where the message itself
does not name it. -/
def hint : UsageError → Option String
  | wrongExtension .. => some "FILES"
  | _ => none

/-- Misused values of options are explained without a reminder of the usage. -/
def remindsOfUsage : UsageError → Bool
  | argument (.unknownOption ..) => true
  | argument _ => false
  | _ => true

def reminder : String :=
  "Usage: solace [OPTIONS] [FILES]...\nTry 'solace --help' for help.\n\n"

def render (e : UsageError) : String :=
  let subject :=
    match e.hint with
    | some hint => "Invalid value for " ++ hint ++ ": "
    | none => ""
  (if e.remindsOfUsage then reminder else "") ++ "Error: " ++ subject ++ e.message ++ "\n"

end UsageError

/-- What ends a run before a file is lexed: a fault that is explained, or a name
that cannot even be looked up, which ends it without a word. -/
inductive Stop where
  | usage (error : UsageError)
  | nullInName
deriving DecidableEq, Repr

def compilerVersion : String := "0.0.1"

def compilerLicense : String := "MIT"

def Request.answer : Request → String
  | .version => "Solace compiler\n   - version " ++ compilerVersion ++ "\n"
  | .help =>
      "Usage: solace [OPTIONS] [FILES]...\n\n" ++
      "  Lex Solace source FILES.\n\n" ++
      "Options:\n" ++
      "  -v, --version                   Show the version and exit.\n" ++
      "  --tokens                        Print the token table for each file.\n" ++
      "  --end-of-line / --no-end-of-line\n" ++
      "                                  Emit an END_OF_LINE token for every newline.\n" ++
      "  --log-level [debug|info|warning|error]\n" ++
      "                                  Logging verbosity.\n" ++
      "  -h, --help                      Show this message and exit.\n"

def noFiles : String :=
  "No file was given:: file specification required\nExample::  solace file.solace\n"

inductive Event where
  | logged (record : LogRecord)
  | diagnosed (text : CodePoints)
  | problemCount (count : Nat)
  | listed (sequence : TokenSequence)
  | answered (text : String)
  | refused (error : UsageError)
deriving DecidableEq, Repr

namespace Event

inductive Channel where
  | output
  | error
deriving DecidableEq, Repr

def channel : Event → Channel
  | listed _ => .output
  | answered _ => .output
  | _ => .error

def title (s : TokenSequence) : String :=
  s.source.written ++ " (" ++ toString s.size ++ " tokens)"

/-- Refusals are shown without colours, also where an argument would set them. -/
def render (threshold : LogLevel) : Event → String
  | logged record => if record.Shown threshold then record.render.written ++ "\n" else ""
  | diagnosed text => String.ofList (Text.displayMessage text.written.toList) ++ "\n"
  | problemCount count => toString count ++ " problem(s) found\n"
  | listed s =>
      String.ofList (Text.displayTitle (title s).toList) ++ "\n" ++
        TokenTable.render s.tokens.toList
  | answered text => text
  | refused error => String.ofList (Text.dropControlSequences error.render.toList)

end Event

structure Outcome where
  status : Nat
  events : List Event
  threshold : LogLevel := .warning
deriving DecidableEq, Repr

namespace Outcome

def printedOn (channel : Event.Channel) (o : Outcome) : String :=
  String.join ((o.events.filter (·.channel = channel)).map (·.render o.threshold))

/-- What is printed on a channel, read as text with one kind of line ending. -/
def textOn (channel : Event.Channel) (o : Outcome) : String :=
  String.ofList (Text.foldPairs (o.printedOn channel).toList)

def output (o : Outcome) : String := o.textOn .output

def error (o : Outcome) : String := o.textOn .error

def stopped : Stop → Outcome
  | .usage e => { status := 2, events := [.refused e] }
  | .nullInName => { status := 1, events := [] }

end Outcome

def checkExtension (extension : String) (path : Path) : Except UsageError Unit :=
  if path.suffix = extension then .ok () else .error (.wrongExtension path extension)

/-- The levels that can be asked for here are fewer than those there are. -/
def offeredLevels : List LogLevel := [.debug, .info, .warning, .error]

def checkLogLevel : Option String → Except UsageError LogLevel
  | none => .ok .warning
  | some request =>
      match offeredLevels.find? fun level =>
          level.name.toList = request.toList.map Char.toUpper with
      | some level => .ok level
      | none => .error (.logLevel request)

/-- The first error that a check finds along a list. -/
def firstError {α ε : Type} (check : α → Except ε Unit) : List α → Except ε Unit
  | [] => .ok ()
  | a :: as =>
      match check a with
      | .ok () => firstError check as
      | .error e => .error e

structure FilesOutcome where
  events : List Event := []
  failed : Bool := false
  problems : Nat := 0
deriving DecidableEq, Repr

section

variable (lookup : Path → Lookup)

/-- No name at all is not the name of a directory, and nor is one that is too
long as it was given. -/
def checkName (name : String) : Except Stop Unit :=
  if name.toList.contains '\x00' then .error .nullInName
  else if name ≠ "" ∧ name.utf8ByteSize < Path.sizeLimit ∧ lookup (.ofString name) = .directory then
    .error (.usage (.isDirectory name))
  else .ok ()

def fileRecord (path : Path) : LogRecord := ⟨.info, "solace.cli", "Lexing " ++ path.render⟩

/-- What a file that was lexed adds to the run. -/
def fileEvents (showTokens : Bool) (completed : Completed) : List Event :=
  completed.records.toList.map .logged ++
    completed.sequence.warnings.toList.map (.diagnosed ·.render) ++
    if showTokens then [.listed completed.sequence] else []

def lexFiles (showTokens : Bool) (config : Config) : List Path → FilesOutcome
  | [] => {}
  | path :: paths =>
      match (SourceFile.ofPath path).lex lookup config with
      | .error fault =>
          { events := .logged (fileRecord path) ::
              fault.records.map .logged ++ [.diagnosed fault.message]
            failed := true }
      | .ok completed =>
          let later := lexFiles showTokens config paths
          { events := .logged (fileRecord path) ::
              fileEvents showTokens completed ++ later.events
            failed := later.failed
            problems := completed.sequence.warnings.size + later.problems }

/-- Lex files one by one: each is looked up when it is its turn, and what is said of it is
told before the next.  What is said last is left to be told. -/
def lexEach {m : Type → Type} [Monad m] (look : Path → m Lookup) (tell : List Event → m Unit)
    (showTokens : Bool) (config : Config) : Nat → List Path → m FilesOutcome
  | problems, [] => return { problems }
  | problems, path :: paths => do
      let found ← look path
      let here := lexFiles (fun _ => found) showTokens config [path]
      if here.failed then return here
      else
        tell here.events
        lexEach look tell showTokens config (problems + here.problems) paths

def FilesOutcome.finish (threshold : LogLevel) (files : FilesOutcome) : Outcome :=
  if files.failed then { status := 1, events := files.events, threshold }
  else if files.problems = 0 then { status := 0, events := files.events, threshold }
  else { status := 1, events := files.events ++ [.problemCount files.problems], threshold }

/-- Check all that was asked for, in the order in which faults are reported. -/
def check (a : Arguments) (config : Config) : Except Stop (LogLevel × List Path) :=
  match checkLogLevel a.logLevel with
  | .error e => .error (.usage e)
  | .ok level =>
      match firstError (checkName lookup) a.files with
      | .error stop => .error stop
      | .ok () =>
          let paths := a.files.map Path.ofString
          match firstError (checkExtension config.sourceExtension) paths with
          | .error e => .error (.usage e)
          | .ok () => .ok (level, paths)

/-- Run with arguments that were understood, under the active configuration. -/
def perform (a : Arguments) : Configured Outcome :=
  match a.request with
  | some request => fun active => ({ status := 0, events := [.answered request.answer] }, active)
  | none =>
      let config : Config := { emitEndOfLine := a.emitEndOfLine }
      match check lookup a config with
      | .error stop => fun active => (.stopped stop, active)
      | .ok (_, []) => fun active => ({ status := 0, events := [.answered noFiles] }, active)
      | .ok (level, paths) =>
          Configured.within config fun active =>
            ((lexFiles lookup a.showTokens active paths).finish level, active)

def run (args : List String) : Configured Outcome :=
  match Arguments.read args with
  | .error e => fun active => (.stopped (.usage (.argument e)), active)
  | .ok a => perform lookup a

end

end LexicalPass.CommandLine
