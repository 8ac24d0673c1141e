import LexicalPass.CommandLine.Run

/-!
The command line itself.  The names given are looked at before any file is read; then
the files are read one by one, each when it is its turn to be lexed, and what is said
of it is printed before the next is read.
-/

set_option autoImplicit false

namespace LexicalPass.CommandLine

/-- The number of an error of the system, and its text. -/
def systemError? : IO.Error → Option (Nat × String)
  | .alreadyExists _ number text => some (number.toNat, text)
  | .otherError number text => some (number.toNat, text)
  | .resourceBusy number text => some (number.toNat, text)
  | .resourceVanished number text => some (number.toNat, text)
  | .unsupportedOperation number text => some (number.toNat, text)
  | .hardwareFault number text => some (number.toNat, text)
  | .unsatisfiedConstraints number text => some (number.toNat, text)
  | .illegalOperation number text => some (number.toNat, text)
  | .protocolError number text => some (number.toNat, text)
  | .timeExpired number text => some (number.toNat, text)
  | .interrupted _ number text => some (number.toNat, text)
  | .noFileOrDirectory _ number text => some (number.toNat, text)
  | .invalidArgument _ number text => some (number.toNat, text)
  | .permissionDenied _ number text => some (number.toNat, text)
  | .resourceExhausted _ number text => some (number.toNat, text)
  | .inappropriateType _ number text => some (number.toNat, text)
  | .noSuchThing _ number text => some (number.toNat, text)
  | .unexpectedEof => none
  | .userError _ => none

/-- What an error says of a path.  An error in reading does not name the file, and one in
opening does. -/
def lookupOfError (explain : Nat → String → String) (error : IO.Error) : IO Lookup :=
  match systemError? error with
  | some (2, _) => return .missing
  | some (20, _) => return .notDirectory
  | some (21, _) => return .directory
  | some (36, _) => return .tooLong
  | some (number, text) => return .failed (explain number text)
  | none => throw error

/-- What stands at a path on this machine. -/
def readLookup (path : Path) : IO Lookup := do
  match ← (IO.FS.Handle.mk path.render.written .read).toBaseIO with
  | .error error => lookupOfError (SourceFile.refusal · · path) error
  | .ok handle =>
      match ← handle.readBinToEnd.toBaseIO with
      | .ok bytes => return .file bytes.toList
      | .error error => lookupOfError SourceFile.errorText error

def isDirectory (name : String) : IO Bool := do
  match ← (IO.FS.realPath name).toBaseIO with
  | .ok place => place.isDir
  | .error _ => return false

/-- Where directories stand is all that has to be known before the files are read. -/
def lookupDirectories (names : List String) : IO (Path → Lookup) := do
  let directories ← names.filterM isDirectory
  return fun path => if path ∈ directories.map Path.ofString then .directory else .missing

def print (threshold : LogLevel) (events : List Event) : IO Unit := do
  for event in events do
    let text := event.render threshold
    match event.channel with
    | .output => IO.print text
    | .error => IO.eprint text

/-- Where the run comes to lex files it does so one by one; else it reads none. -/
def runHere (args : List String) : IO Outcome := do
  match Arguments.read args with
  | .error e => return .stopped (.usage (.argument e))
  | .ok a =>
      let lookup ← lookupDirectories a.files
      let config : Config := { emitEndOfLine := a.emitEndOfLine }
      match a.request, check lookup a config with
      | none, .ok (level, path :: paths) =>
          let last ← lexEach readLookup (print level) a.showTokens config 0 (path :: paths)
          return last.finish level
      | _, _ => return (perform lookup a {}).1

end LexicalPass.CommandLine

open LexicalPass in
def main (args : List String) : IO UInt32 := do
  let outcome ← CommandLine.runHere args
  CommandLine.print outcome.threshold outcome.events
  return outcome.status.toUInt32
