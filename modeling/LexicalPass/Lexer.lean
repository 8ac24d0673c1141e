import LexicalPass.Pass

/-!
Lexers.  A lexer can be run any number of times, and each run is a pass over its
source from the start.  For the time of a pass the scanners find in the lexer
what they work on, and write to a sequence that is new with the pass; however
the pass ends, the lexer then lets go of both.

Sequences are known by their numbers, so that a lexer and those who were handed
a sequence can mean the same one.
-/

set_option autoImplicit false

namespace LexicalPass

/-- What the scanners of a pass work on: the text still to be read, and the
number of the sequence that takes what they find. -/
structure Lexer.Work where
  cursor : Cursor
  output : Nat
deriving DecidableEq, Repr

structure Lexer where
  source : String
  name : CodePoints := "<unknown>"
  config : Option Config := none
  /-- The configuration of the pass under way, or else of the latest one. -/
  current : Config
  work : Option Lexer.Work := none
deriving DecidableEq, Repr

namespace Lexer

/-- A lexer that has not been run.  Without a configuration of its own it takes
the active one for the time being. -/
def make (active : Config) (source : String) (name : CodePoints) (config : Option Config) :
    Lexer where
  source := source
  name := name
  config := config
  current := config.getD active

/-- A lexer in the middle of a pass, the sequences that there are, that of the
pass among them, and what the pass has recorded. -/
structure Bench where
  lexer : Lexer
  sequences : Array TokenSequence
  records : Array LogRecord
  work : Work
  held : lexer.work = some work
  inside : work.output < sequences.size

namespace Bench

/-- Where the pass stands. -/
def progress (b : Bench) : Progress where
  cursor := b.work.cursor
  sequence :=
    have := b.inside
    b.sequences[b.work.output]
  records := b.records

/-- Put what a scanner has made of the pass back to where it was found. -/
def put (b : Bench) (p : Progress) : Bench where
  lexer := { b.lexer with work := some { b.work with cursor := p.cursor } }
  sequences := b.sequences.set b.work.output p.sequence b.inside
  records := p.records
  work := { b.work with cursor := p.cursor }
  held := rfl
  inside := by simpa using b.inside

@[simp] theorem progress_put (b : Bench) (p : Progress) : (b.put p).progress = p := by
  simp [progress, put]

/-- Scan units until the text ends or one of them aborts the pass, which then
stays where that unit was met. -/
def scanAll (b : Bench) : Except Fault Unit × Bench :=
  match _advanced : b.progress.cursor.advance with
  | (none, _) => (.ok (), b)
  | (some c, cursor) =>
      match _scanned : Pass.unit b.lexer.current ⟨b.lexer.name, b.progress.cursor.position⟩ c
          { b.progress with cursor } with
      | .ok next => scanAll (b.put next)
      | .error aborted => (.error aborted.fault, { b with records := aborted.records })
termination_by b.progress.cursor.rest.length
decreasing_by
  have shorter := congrArg List.length (Cursor.rest_of_advance _advanced)
  have after := Pass.rest_le_of_unit _ _ _scanned
  rw [progress_put]
  simp only [List.length_cons] at shorter after
  omega

end Bench

/-- A lexer at the start of a pass.  Only now is it settled which configuration
the pass has. -/
def begin (lexer : Lexer) (active : Config) (sequences : Array TokenSequence) : Bench where
  lexer := { lexer with
    current := lexer.config.getD active
    work := some ⟨.ofText lexer.source, sequences.size⟩ }
  sequences := sequences.push { source := lexer.name }
  records := #[Pass.startRecord lexer.name lexer.source]
  work := ⟨.ofText lexer.source, sequences.size⟩
  held := rfl
  inside := by simp

/-- A sequence that was handed over, as it was then. -/
structure Handed where
  number : Nat
  sequence : TokenSequence
deriving DecidableEq, Repr

/-- What came of a pass, and all that it has changed. -/
structure Result where
  outcome : Except Fault Handed
  lexer : Lexer
  sequences : Array TokenSequence
  records : Array LogRecord

/-- Nothing of a pass stays with its lexer but the configuration. -/
def release (lexer : Lexer) : Lexer := { lexer with work := none }

/-- Run a lexer.  The sequence of a pass that comes to the end of its text is
closed and handed over. -/
def run (lexer : Lexer) (active : Config) (sequences : Array TokenSequence) : Result :=
  match (lexer.begin active sequences).scanAll with
  | (.error fault, b) => ⟨.error fault, b.lexer.release, b.sequences, b.records⟩
  | (.ok (), b) =>
      let p := b.progress
      let closed := b.put { p with
        sequence := p.sequence.close
        records := p.records.push (Pass.endRecord p.sequence) }
      ⟨.ok ⟨closed.work.output, closed.progress.sequence⟩, closed.lexer.release,
        closed.sequences, closed.records⟩

end Lexer

end LexicalPass
