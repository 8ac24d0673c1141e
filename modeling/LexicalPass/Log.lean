import LexicalPass.Text.CodePoints
import LexicalPass.Text.UpperCase

/-!
Log records.  A pass and the command line keep records of what they do; which
of them are shown depends on the level asked for.
-/

set_option autoImplicit false

namespace LexicalPass

inductive LogLevel where
  | notSet
  | debug
  | info
  | warning
  | error
  | critical
deriving DecidableEq, Repr

namespace LogLevel

def name : LogLevel → String
  | notSet => "NOTSET"
  | debug => "DEBUG"
  | info => "INFO"
  | warning => "WARNING"
  | error => "ERROR"
  | critical => "CRITICAL"

def rank : LogLevel → Nat
  | notSet => 0
  | debug => 10
  | info => 20
  | warning => 30
  | error => 40
  | critical => 50

/-- The names by which levels are asked for, two of which have short forms. -/
def named : List (String × LogLevel) :=
  [("DEBUG", debug), ("INFO", info), ("WARNING", warning), ("WARN", warning),
   ("ERROR", error), ("CRITICAL", critical), ("FATAL", critical), ("NOTSET", notSet)]

/-- Warnings are shown when nothing else is asked for, and when what is asked
for is not known.  Case does not count. -/
def ofRequest : Option String → LogLevel
  | none => warning
  | some request => (named.lookup (Text.upperCase request)).getD warning

end LogLevel

structure LogRecord where
  level : LogLevel
  logger : String
  message : CodePoints
deriving DecidableEq, Repr

namespace LogRecord

def Shown (threshold : LogLevel) (r : LogRecord) : Prop := threshold.rank ≤ r.level.rank

instance (threshold : LogLevel) (r : LogRecord) : Decidable (r.Shown threshold) :=
  inferInstanceAs (Decidable (_ ≤ _))

def render (r : LogRecord) : CodePoints := r.level.name ++ ":" ++ r.logger ++ ":" ++ r.message

end LogRecord

/-- All loggers stand under one name; a name that does not is placed there. -/
def loggerName (name : String) : String :=
  if name = "solace" ∨ "solace.".toList <+: name.toList then name else "solace." ++ name

end LexicalPass
