import LexicalPass.FileTree
import LexicalPass.Pass
import LexicalPass.Text.LineEnding
import LexicalPass.Text.Utf8

/-!
Source files: their bytes are read as UTF-8 text, with a byte order mark dropped
and all line endings made line feeds, and the text is lexed under the name of
the file.
-/

set_option autoImplicit false

namespace LexicalPass

/-- A file and the name that reports give it. -/
structure SourceFile where
  path : Path
  name : CodePoints
deriving DecidableEq, Repr

/-- What keeps a file from being lexed. -/
inductive FileFault where
  /-- The path holds surrogates that stand for no bytes. -/
  | unencodable (error : EncodeError)
  /-- No file can have a null character in its name. -/
  | nullInPath
  | unavailable (error : FatalError)
  | aborted (pass : Aborted)
deriving DecidableEq, Repr

namespace FileFault

def message : FileFault → CodePoints
  | unencodable error => error.message
  | nullInPath => "embedded null byte"
  | unavailable error => error.render
  | aborted pass => pass.fault.message

def records : FileFault → List LogRecord
  | unencodable _ => []
  | nullInPath => []
  | unavailable _ => []
  | aborted pass => pass.records.toList

end FileFault

namespace SourceFile

/-- A file reported under the name it was asked for by. -/
def ofName (s : CodePoints) : SourceFile := ⟨.ofCodePoints s, s⟩

/-- A file reported under its path in normal form. -/
def ofPath (path : Path) : SourceFile := ⟨path, path.render⟩

/-- The text in a file of these bytes. -/
def decode (bytes : List UInt8) : Except Text.Utf8Error String :=
  match Text.decodeUtf8 (Text.dropByteOrderMark bytes) with
  | .ok chars => .ok (String.ofList (Text.foldLineEndings chars))
  | .error e => .error e

/-- An error of the system, known by its number. -/
def errorText (number : Nat) (text : String) : String :=
  "[Errno " ++ toString number ++ "] " ++ text

/-- How the system says that it cannot open a file. -/
def refusal (number : Nat) (text : String) (path : Path) : String :=
  errorText number text ++ ": " ++ Text.quote path.render

/-- The text of what stands at a path, or why there is none. -/
def read (path : Path) : Lookup → Except String String
  | .file bytes =>
      match decode bytes with
      | .ok text => .ok text
      | .error e => .error e.message
  | .directory => .error (refusal 21 "Is a directory" path)
  | .missing => .error (refusal 2 "No such file or directory" path)
  | .notDirectory => .error (refusal 20 "Not a directory" path)
  | .tooLong => .error (refusal 36 "File name too long" path)
  | .failed reason => .error reason

variable (lookup : Path → Lookup)

/-- The path is written in bytes and looked through for a null before the system is asked
for the file.  A path that fails there is not reported under the name of the file. -/
def text (file : SourceFile) : Except FileFault String :=
  match encodeError? file.path.render with
  | some error => .error (.unencodable error)
  | none =>
      if .char '\x00' ∈ file.path.render then .error .nullInPath
      else
        match read file.path (lookup file.path) with
        | .ok text => .ok text
        | .error reason => .error (.unavailable (.sourceUnavailable file.name reason))

variable {lookup}

/-- Behind a path that is nameable only reading can fail. -/
theorem text_of_isNameable {file : SourceFile} (nameable : file.path.IsNameable) :
    file.text lookup = match read file.path (lookup file.path) with
      | .ok text => .ok text
      | .error reason => .error (.unavailable (.sourceUnavailable file.name reason)) := by
  obtain ⟨encodable, noNull⟩ := Path.isNameable_iff.mp nameable
  rw [text, (encodeError?_eq_none_iff _).mpr encodable]
  exact if_neg noNull

variable (lookup)

def lex (config : Config) (file : SourceFile) : Except FileFault Completed :=
  match file.text lookup with
  | .error fault => .error fault
  | .ok text =>
      match LexicalPass.lex config file.name text with
      | .ok completed => .ok completed
      | .error aborted => .error (.aborted aborted)

end SourceFile

end LexicalPass
