import LexicalPass.Lexer

/-!
Runs of a lexer.  What earlier passes have left in a lexer has no say in a run:
the run comes to what lexing the source under the lexer's name comes to, adds
one sequence behind those that there are, and leaves the lexer as it found it
but for the configuration.
-/

set_option autoImplicit false

namespace LexicalPass.Lexer

/-- The bench of a pass that stands at `p` and writes behind `earlier`. -/
def benchAt (lexer : Lexer) (earlier : Array TokenSequence) (p : Progress) : Bench where
  lexer := { lexer with work := some ⟨p.cursor, earlier.size⟩ }
  sequences := earlier.push p.sequence
  records := p.records
  work := ⟨p.cursor, earlier.size⟩
  held := rfl
  inside := by simp

namespace Bench

variable {lexer : Lexer} {earlier : Array TokenSequence} {p : Progress}

@[simp] theorem progress_benchAt : (lexer.benchAt earlier p).progress = p := by
  simp [progress, benchAt]

/-- Scanners change the sequence of their own pass and no other. -/
@[simp] theorem put_benchAt (next : Progress) :
    (lexer.benchAt earlier p).put next = lexer.benchAt earlier next := by
  simp [put, benchAt, Array.set_push]

@[simp] theorem current_benchAt : (lexer.benchAt earlier p).lexer.current = lexer.current := rfl

@[simp] theorem name_benchAt : (lexer.benchAt earlier p).lexer.name = lexer.name := rfl

/-- One turn of the scan.  The sequence of a pass that is aborted stays as it was
then. -/
theorem scanAll_eq (lexer : Lexer) (earlier : Array TokenSequence) (p : Progress) :
    (lexer.benchAt earlier p).scanAll =
      match p.cursor.advance with
      | (none, _) => (.ok (), lexer.benchAt earlier p)
      | (some c, cursor) =>
          match Pass.unit lexer.current ⟨lexer.name, p.cursor.position⟩ c { p with cursor } with
          | .ok next => (lexer.benchAt earlier next).scanAll
          | .error aborted =>
              (.error aborted.fault, lexer.benchAt earlier { p with records := aborted.records }) := by
  rw [scanAll]
  split
  · rename_i advanced
    rw [progress_benchAt] at advanced
    simp only [advanced]
  · rename_i advanced
    rw [progress_benchAt] at advanced
    simp only [advanced]
    split
    · rename_i scanned
      rw [progress_benchAt, current_benchAt, name_benchAt] at scanned
      simp only [scanned, put_benchAt]
    · rename_i scanned
      rw [progress_benchAt, current_benchAt, name_benchAt] at scanned
      simp only [scanned]
      rfl

/-- A lexer scans on as a pass runs on. -/
theorem scanAll_benchAt (lexer : Lexer) (earlier : Array TokenSequence) (p : Progress) :
    ∃ final : Progress,
      match Pass.run lexer.current lexer.name p with
      | .ok completed =>
          (lexer.benchAt earlier p).scanAll = (.ok (), lexer.benchAt earlier final) ∧
            completed =
              ⟨final.sequence.close, final.records.push (Pass.endRecord final.sequence)⟩
      | .error aborted =>
          (lexer.benchAt earlier p).scanAll =
              (.error aborted.fault, lexer.benchAt earlier final) ∧
            aborted.records = final.records := by
  fun_induction Pass.run lexer.current lexer.name p with
  | case1 p cursor advanced =>
      rw [scanAll_eq, advanced]
      exact ⟨p, rfl, rfl⟩
  | case2 p c cursor advanced next scanned inductionHypothesis =>
      rw [scanAll_eq, advanced]
      simp only [scanned]
      exact inductionHypothesis
  | case3 p c cursor advanced aborted scanned =>
      rw [scanAll_eq, advanced]
      simp only [scanned]
      exact ⟨_, rfl, rfl⟩

end Bench

section Run

variable (lexer : Lexer) (active : Config) (sequences : Array TokenSequence)

theorem begin_eq :
    lexer.begin active sequences =
      benchAt { lexer with current := lexer.config.getD active } sequences
        (Pass.start lexer.name lexer.source) := rfl

theorem run_of_lex_ok {completed : Completed}
    (done : lex (lexer.config.getD active) lexer.name lexer.source = .ok completed) :
    lexer.run active sequences = {
      outcome := .ok ⟨sequences.size, completed.sequence⟩
      lexer := { lexer with current := lexer.config.getD active, work := none }
      sequences := sequences.push completed.sequence
      records := completed.records } := by
  have scanned := Bench.scanAll_benchAt { lexer with current := lexer.config.getD active }
    sequences (Pass.start lexer.name lexer.source)
  unfold lex at done
  simp only [done] at scanned
  obtain ⟨final, scanned, rfl⟩ := scanned
  simp only [run, begin_eq, scanned, Bench.progress_benchAt, Bench.put_benchAt]
  rfl

theorem run_of_lex_error {aborted : Aborted}
    (failed : lex (lexer.config.getD active) lexer.name lexer.source = .error aborted) :
    ∃ unfinished, lexer.run active sequences = {
      outcome := .error aborted.fault
      lexer := { lexer with current := lexer.config.getD active, work := none }
      sequences := sequences.push unfinished
      records := aborted.records } := by
  have scanned := Bench.scanAll_benchAt { lexer with current := lexer.config.getD active }
    sequences (Pass.start lexer.name lexer.source)
  unfold lex at failed
  simp only [failed] at scanned
  obtain ⟨final, scanned, records⟩ := scanned
  refine ⟨final.sequence, ?_⟩
  simp only [run, begin_eq, scanned, records]
  rfl

end Run

end LexicalPass.Lexer
