import LexicalPass.CommandLine.Similarity

/-!
Arguments of the command line.  Options and files may stand in any order, and a
double dash makes files of all that follows it.
-/

set_option autoImplicit false

namespace LexicalPass.CommandLine

/-- Things to show instead of lexing any file. -/
inductive Request where
  | version
  | help
deriving DecidableEq, Repr

inductive Switch where
  | ask (request : Request)
  | tokens
  | endOfLine (emit : Bool)
deriving DecidableEq, Repr

inductive LongOption where
  | switch (switch : Switch)
  | logLevel
deriving DecidableEq, Repr

def longOptions : List (String × LongOption) :=
  [("--version", .switch (.ask .version)), ("--help", .switch (.ask .help)),
   ("--tokens", .switch .tokens), ("--end-of-line", .switch (.endOfLine true)),
   ("--no-end-of-line", .switch (.endOfLine false)), ("--log-level", .logLevel)]

def shortOptions : List (Char × Switch) := [('v', .ask .version), ('h', .ask .help)]

inductive ArgumentError where
  /-- The options given are those that may have been meant. -/
  | unknownOption (option : String) (similar : List String)
  | missingValue (option : String)
  | unexpectedValue (option : String)
deriving DecidableEq, Repr

structure Arguments where
  /-- The first request made. -/
  request : Option Request := none
  showTokens : Bool := false
  emitEndOfLine : Bool := false
  logLevel : Option String := none
  files : List String := []
deriving DecidableEq, Repr

namespace Arguments

def apply (a : Arguments) : Switch → Arguments
  | .ask request => { a with request := a.request.or (some request) }
  | .tokens => { a with showTokens := true }
  | .endOfLine emit => { a with emitEndOfLine := emit }

/-- Letters after a single dash are options of their own. -/
def readShort (a : Arguments) : List Char → Except ArgumentError Arguments
  | [] => .ok a
  | c :: letters =>
      match shortOptions.lookup c with
      | some switch => readShort (a.apply switch) letters
      | none => .error (.unknownOption (String.ofList ['-', c]) [])

/-- A single dash by itself is the name of a file. -/
def IsOption (arg : List Char) : Prop := ['-'] <+: arg ∧ 1 < arg.length

instance (arg : List Char) : Decidable (IsOption arg) := inferInstanceAs (Decidable (_ ∧ _))

/-- The name of a long option and the value written after it, if there is one. -/
def splitValue (arg : List Char) : String × Option String :=
  let name := String.ofList (arg.takeWhile (· ≠ '='))
  match arg.dropWhile (· ≠ '=') with
  | [] => (name, none)
  | _ :: value => (name, some (String.ofList value))

def readFrom (a : Arguments) : List String → Except ArgumentError Arguments
  | [] => .ok a
  | arg :: rest =>
      if arg = "--" then .ok { a with files := a.files ++ rest }
      else if ¬ IsOption arg.toList then readFrom { a with files := a.files ++ [arg] } rest
      else
        let (name, value) := splitValue arg.toList
        match longOptions.lookup name, value with
        | some (.switch switch), none => readFrom (a.apply switch) rest
        | some (.switch _), some _ => .error (.unexpectedValue name)
        | some .logLevel, some value => readFrom { a with logLevel := some value } rest
        | some .logLevel, none =>
            match rest with
            | [] => .error (.missingValue name)
            | value :: rest => readFrom { a with logLevel := some value } rest
        | none, _ =>
            if "--".toList <+: arg.toList then
              .error (.unknownOption name (closest (longOptions.map (·.1)) name))
            else
              match a.readShort arg.toList.tail with
              | .ok a => readFrom a rest
              | .error e => .error e

def read (args : List String) : Except ArgumentError Arguments := readFrom {} args

end Arguments

end LexicalPass.CommandLine
