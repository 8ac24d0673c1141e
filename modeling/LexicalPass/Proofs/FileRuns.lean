import LexicalPass.CommandLine.Run
import LexicalPass.Proofs.QuoteBalance
import LexicalPass.Proofs.SourceOrder

/-!
Runs of the command line over files.  Nothing is lexed if a path has another
ending than that of source files.  Otherwise the run goes from file to file and
says what is wrong in each, up to the first that cannot be lexed; it ends with
the number of problems if it comes through all of them.
-/

set_option autoImplicit false

namespace LexicalPass

/-- The fatal error in what keeps a file from being lexed. -/
def FileFault.fatal? : FileFault → Option FatalError
  | unencodable _ => none
  | nullInPath => none
  | unavailable error => some error
  | aborted pass =>
      match pass.fault with
      | .fatal error => some error
      | _ => none

theorem FileFault.message_of_fatal? {fault : FileFault} {error : FatalError}
    (fatal : fault.fatal? = some error) : fault.message = error.render := by
  cases fault with
  | unencodable _ => simp [fatal?] at fatal
  | nullInPath => simp [fatal?] at fatal
  | unavailable other =>
      cases fatal
      rfl
  | aborted pass =>
      simp only [fatal?] at fatal
      split at fatal
      · rename_i isFatal
        cases fatal
        rw [message, isFatal]
        rfl
      · simp at fatal

theorem exists_fatal_of_lex_error {config : Config} {name : CodePoints} {source : String}
    {aborted : Aborted} (failed : lex config name source = .error aborted) :
    ∃ error, aborted.fault = .fatal error := by
  rw [lex_eq, Pass.conclude] at failed
  split at failed
  · cases failed
    exact ⟨_, rfl⟩
  · simp at failed

namespace SourceFile

variable {lookup : Path → Lookup} {config : Config} {file : SourceFile}

/-- A file that can be named fails with a fatal error or not at all. -/
theorem exists_fatal_of_lex_error {fault : FileFault} (nameable : file.path.IsNameable)
    (failed : file.lex lookup config = .error fault) : ∃ error, fault.fatal? = some error := by
  unfold SourceFile.lex at failed
  split at failed
  · rename_i fault' isFault
    cases failed
    rw [text_of_isNameable nameable] at isFault
    split at isFault
    · simp at isFault
    · cases isFault
      exact ⟨_, rfl⟩
  · split at failed
    · simp at failed
    · rename_i aborted isAborted
      cases failed
      obtain ⟨error, isFatal⟩ := LexicalPass.exists_fatal_of_lex_error isAborted
      exact ⟨error, by simp only [FileFault.fatal?, isFatal]⟩

/-- Where a file is lexed, its text has been read and a pass over it has come to its end. -/
theorem exists_text_of_lex_ok {completed : Completed}
    (done : file.lex lookup config = .ok completed) :
    ∃ text, file.text lookup = .ok text ∧
      tokenize config file.name text = .ok completed.sequence := by
  unfold SourceFile.lex at done
  split at done
  · cases done
  · rename_i text isText
    split at done
    · rename_i completed' lexed
      cases done
      exact ⟨text, isText, by rw [tokenize, lexed]⟩
    · cases done

theorem pairwise_warnings_of_lex {completed : Completed}
    (done : file.lex lookup config = .ok completed) :
    completed.sequence.warnings.toList.Pairwise fun v w =>
      v.location.position.Precedes w.location.position := by
  obtain ⟨text, -, tokenized⟩ := exists_text_of_lex_ok done
  obtain ⟨_, isSequence⟩ := of_tokenize_ok tokenized
  rw [isSequence]
  exact Segment.Placed.pairwise_warnings file.name text

/-- Only what stands at the path of a file has a say in how it is lexed. -/
theorem lex_congr {lookup' : Path → Lookup} (same : lookup' file.path = lookup file.path) :
    file.lex lookup' config = file.lex lookup config := by
  simp only [SourceFile.lex, SourceFile.text, same]

end SourceFile

/-- The pieces of a text are made of its characters. -/
theorem mem_of_mem_splitOn {α : Type} [DecidableEq α] {separator c : α} {s part : List α}
    (isPart : part ∈ s.splitOn separator) (inside : c ∈ part) : c ∈ s := by
  have whole : [separator].intercalate (s.splitOn separator) = s :=
    List.intercalate_splitOn separator
  obtain ⟨i, found⟩ := List.mem_iff_getElem?.mp isPart
  have kept : part ∈ (s.splitOn separator).intersperse [separator] := by
    apply List.mem_of_getElem?
    rw [List.getElem?_intersperse_two_mul, found]
  rw [← whole]
  exact List.mem_flatten.mpr ⟨part, kept, inside⟩

theorem mem_of_mem_intercalate {α : Type} {separator c : α} {parts : List (List α)}
    (inside : c ∈ [separator].intercalate parts) : c = separator ∨ ∃ part ∈ parts, c ∈ part := by
  induction parts with
  | nil => cases inside
  | cons part parts inductionHypothesis =>
      by_cases last : parts = []
      · rw [last, List.intercalate_singleton] at inside
        exact .inr ⟨part, by simp, inside⟩
      · rw [List.intercalate_cons_of_ne_nil last, List.mem_append, List.mem_append,
          List.mem_singleton] at inside
        rcases inside with (here | between) | later
        · exact .inr ⟨part, by simp, here⟩
        · exact .inl between
        · rcases inductionHypothesis later with between | ⟨other, isPart, there⟩
          · exact .inl between
          · exact .inr ⟨other, by simp [isPart], there⟩

namespace Path

theorem eq_slash_of_mem_anchor {anchor : Anchor} {c : CodePoint}
    (inside : c ∈ CodePoints.ofString anchor.render) : c = slash := by
  cases anchor with
  | working => cases inside
  | root => exact List.mem_singleton.mp inside
  | doubleRoot =>
      rcases List.mem_cons.mp inside with first | second
      · exact first
      · exact List.mem_singleton.mp second

/-- A path is written with what it was made from, and with slashes and dots. -/
theorem mem_of_mem_render {s : CodePoints} {c : CodePoint}
    (inside : c ∈ (ofCodePoints s).render) : c = slash ∨ c = dot ∨ c ∈ s := by
  unfold render at inside
  dsimp only at inside
  split at inside
  · exact .inr (.inl (List.mem_singleton.mp inside))
  · rcases List.mem_append.mp inside with front | back
    · exact .inl (eq_slash_of_mem_anchor front)
    · rcases mem_of_mem_intercalate back with between | ⟨part, isPart, there⟩
      · exact .inl between
      · exact .inr (.inr (mem_of_mem_splitOn (List.mem_filter.mp isPart).1 there))

/-- A string without null characters names what the system can be asked about. -/
theorem isNameable_ofString {s : String} (noNull : '\x00' ∉ s.toList) :
    (ofString s).IsNameable := by
  intro c inside
  rcases mem_of_mem_render inside with rfl | rfl | inString
  · exact ⟨trivial, by decide⟩
  · exact ⟨trivial, by decide⟩
  · obtain ⟨d, isChar, rfl⟩ := List.mem_map.mp inString
    refine ⟨trivial, ?_⟩
    rintro ⟨rfl⟩
    exact noNull isChar

end Path

namespace CommandLine

/-- How the number of problems reads. -/
def problemsFound (count : Nat) : CodePoints := toString count ++ " problem(s) found"

/-- What a run says of its own accord on the error channel. -/
def Event.message? : Event → Option CodePoints
  | diagnosed text => some text
  | problemCount count => some (problemsFound count)
  | _ => none

def messagesOf (events : List Event) : List CodePoints := events.filterMap Event.message?

@[simp] theorem messagesOf_append (events events' : List Event) :
    messagesOf (events ++ events') = messagesOf events ++ messagesOf events' :=
  List.filterMap_append

@[simp] theorem messagesOf_logged (records : List LogRecord) :
    messagesOf (records.map .logged) = [] := by
  simp [messagesOf, List.filterMap_map, Function.comp_def, Event.message?]

def Outcome.messages (o : Outcome) : List CodePoints := messagesOf o.events

section Files

variable (lookup : Path → Lookup) (config : Config)

def Lexes (path : Path) : Prop :=
  ∃ completed, (SourceFile.ofPath path).lex lookup config = .ok completed

/-- The warnings about a file, if it can be lexed. -/
def warningsAt (path : Path) : List Warning :=
  match (SourceFile.ofPath path).lex lookup config with
  | .ok completed => completed.sequence.warnings.toList
  | .error _ => []

theorem warningsAt_of_ok {path : Path} {completed : Completed}
    (done : (SourceFile.ofPath path).lex lookup config = .ok completed) :
    warningsAt lookup config path = completed.sequence.warnings.toList := by
  rw [warningsAt, done]

/-- The warnings about a file are in the order of its text. -/
theorem pairwise_warningsAt (path : Path) :
    (warningsAt lookup config path).Pairwise fun v w =>
      v.location.position.Precedes w.location.position := by
  unfold warningsAt
  split
  · rename_i completed done
    exact SourceFile.pairwise_warnings_of_lex done
  · exact .nil

theorem messagesOf_fileEvents (showTokens : Bool) (completed : Completed) :
    messagesOf (fileEvents showTokens completed) =
      completed.sequence.warnings.toList.map Warning.render := by
  have listing : messagesOf (if showTokens then [.listed completed.sequence] else []) = [] := by
    cases showTokens <;> rfl
  rw [fileEvents, messagesOf_append, messagesOf_append, messagesOf_logged, listing,
    List.append_nil, List.nil_append, messagesOf, List.filterMap_map]
  exact congrFun (List.filterMap_eq_map (f := Warning.render)) _

end Files

section LexFiles

variable {lookup : Path → Lookup} {config : Config} {showTokens : Bool} {path : Path}
  {paths : List Path}

theorem lexFiles_of_ok {completed : Completed}
    (done : (SourceFile.ofPath path).lex lookup config = .ok completed) :
    lexFiles lookup showTokens config (path :: paths) = {
      events := .logged (fileRecord path) :: fileEvents showTokens completed ++
        (lexFiles lookup showTokens config paths).events
      failed := (lexFiles lookup showTokens config paths).failed
      problems := completed.sequence.warnings.size +
        (lexFiles lookup showTokens config paths).problems } := by
  rw [lexFiles, done]

theorem lexFiles_of_error {fault : FileFault}
    (failed : (SourceFile.ofPath path).lex lookup config = .error fault) :
    lexFiles lookup showTokens config (path :: paths) = {
      events := .logged (fileRecord path) :: fault.records.map .logged ++
        [.diagnosed fault.message]
      failed := true } := by
  rw [lexFiles, failed]

/-- Files that can be lexed add what they say to the run, which goes on. -/
theorem lexFiles_append {earlier : List Path} (lexed : ∀ p ∈ earlier, Lexes lookup config p)
    (later : List Path) :
    lexFiles lookup showTokens config (earlier ++ later) = {
      events := (lexFiles lookup showTokens config earlier).events ++
        (lexFiles lookup showTokens config later).events
      failed := (lexFiles lookup showTokens config later).failed
      problems := (lexFiles lookup showTokens config earlier).problems +
        (lexFiles lookup showTokens config later).problems } := by
  induction earlier with
  | nil => simp [lexFiles]
  | cons path earlier inductionHypothesis =>
      rw [List.forall_mem_cons] at lexed
      obtain ⟨completed, done⟩ := lexed.1
      rw [List.cons_append, lexFiles_of_ok done, lexFiles_of_ok done, inductionHypothesis lexed.2]
      simp [Nat.add_assoc]

/-- Lexing files one by one, with all that is told of them collected. -/
def lexInTurn (lookup : Path → Lookup) (showTokens : Bool) (config : Config) (problems : Nat)
    (paths : List Path) : StateM (List Event) FilesOutcome :=
  lexEach (fun path => pure (lookup path)) (fun events => modify (· ++ events)) showTokens config
    problems paths

theorem lexInTurn_of_error {fault : FileFault}
    (failed : (SourceFile.ofPath path).lex lookup config = .error fault) (problems : Nat)
    (told : List Event) :
    (lexInTurn lookup showTokens config problems (path :: paths)).run told =
      (lexFiles lookup showTokens config (path :: paths), told) := by
  have here : (SourceFile.ofPath path).lex (fun _ => lookup path) config = .error fault := failed
  rw [lexInTurn, lexEach, pure_bind, lexFiles_of_error here, lexFiles_of_error failed]
  rfl

theorem lexInTurn_of_ok {completed : Completed}
    (done : (SourceFile.ofPath path).lex lookup config = .ok completed) (problems : Nat)
    (told : List Event) :
    (lexInTurn lookup showTokens config problems (path :: paths)).run told =
      (lexInTurn lookup showTokens config (problems + completed.sequence.warnings.size) paths).run
        (told ++ .logged (fileRecord path) :: fileEvents showTokens completed) := by
  have here : (SourceFile.ofPath path).lex (fun _ => lookup path) config = .ok completed := done
  rw [lexInTurn, lexEach, pure_bind, lexFiles_of_ok here, lexFiles, List.append_nil]
  rfl

theorem lexInTurn_run (problems : Nat) (told : List Event) :
    ∃ events last,
      (lexInTurn lookup showTokens config problems paths).run told = (last, told ++ events) ∧
      (lexFiles lookup showTokens config paths).events = events ++ last.events ∧
      (lexFiles lookup showTokens config paths).failed = last.failed ∧
      (last.failed = false →
        last.problems = problems + (lexFiles lookup showTokens config paths).problems) := by
  induction paths generalizing problems told with
  | nil =>
      refine ⟨[], { problems }, ?_, rfl, rfl, fun _ => rfl⟩
      rw [List.append_nil]
      rfl
  | cons path paths inductionHypothesis =>
      cases outcome : (SourceFile.ofPath path).lex lookup config with
      | error fault =>
          refine ⟨[], lexFiles lookup showTokens config (path :: paths), ?_, rfl, rfl, ?_⟩
          · rw [lexInTurn_of_error outcome, List.append_nil]
          · rw [lexFiles_of_error outcome]
            simp
      | ok completed =>
          obtain ⟨events, last, runs, whole, failed, counted⟩ :=
            inductionHypothesis (problems + completed.sequence.warnings.size)
              (told ++ .logged (fileRecord path) :: fileEvents showTokens completed)
          refine ⟨.logged (fileRecord path) :: fileEvents showTokens completed ++ events, last,
            ?_, ?_, ?_, ?_⟩
          · rw [lexInTurn_of_ok outcome, runs, List.append_assoc]
          · rw [lexFiles_of_ok outcome, whole, List.append_assoc]
          · rw [lexFiles_of_ok outcome, failed]
          · intro notFailed
            rw [counted notFailed, lexFiles_of_ok outcome, Nat.add_assoc]

/-- Whether files are lexed all at once or one by one, the run tells the same and comes to
the same end. -/
theorem finish_lexFiles_eq (level : LogLevel) :
    ∃ events last, (lexInTurn lookup showTokens config 0 paths).run [] = (last, events) ∧
      (lexFiles lookup showTokens config paths).finish level =
        { last.finish level with events := events ++ (last.finish level).events } := by
  obtain ⟨events, last, runs, whole, failed, counted⟩ :=
    @lexInTurn_run lookup config showTokens paths 0 []
  refine ⟨events, last, runs, ?_⟩
  unfold FilesOutcome.finish
  rw [whole, failed]
  cases isFailed : last.failed with
  | true => rfl
  | false =>
      have sameCount := counted isFailed
      rw [Nat.zero_add] at sameCount
      rw [← sameCount]
      by_cases clean : last.problems = 0
      · simp only [clean, if_true]
        rfl
      · simp [clean]

/-- What a run has said when all files have been lexed. -/
theorem lexFiles_of_lexes (showTokens : Bool) (lexed : ∀ p ∈ paths, Lexes lookup config p) :
    (lexFiles lookup showTokens config paths).failed = false ∧
      (lexFiles lookup showTokens config paths).problems =
        (paths.flatMap (warningsAt lookup config)).length ∧
      messagesOf (lexFiles lookup showTokens config paths).events =
        (paths.flatMap (warningsAt lookup config)).map Warning.render := by
  induction paths with
  | nil => exact ⟨rfl, rfl, rfl⟩
  | cons path paths inductionHypothesis =>
      rw [List.forall_mem_cons] at lexed
      obtain ⟨completed, done⟩ := lexed.1
      obtain ⟨notFailed, problems, messages⟩ := inductionHypothesis lexed.2
      rw [lexFiles_of_ok done, List.flatMap_cons, warningsAt_of_ok lookup config done]
      refine ⟨notFailed, ?_, ?_⟩
      · simp [problems]
      · have silent : messagesOf [.logged (fileRecord path)] = [] := rfl
        rw [List.cons_append, ← List.singleton_append, messagesOf_append, messagesOf_append,
          silent, messagesOf_fileEvents, messages, List.nil_append, List.map_append]

theorem lexFiles_of_failing (showTokens : Bool) {earlier : List Path} {fault : FileFault}
    (lexed : ∀ p ∈ earlier, Lexes lookup config p)
    (failed : (SourceFile.ofPath path).lex lookup config = .error fault) (later : List Path) :
    (lexFiles lookup showTokens config (earlier ++ path :: later)).failed = true ∧
      messagesOf (lexFiles lookup showTokens config (earlier ++ path :: later)).events =
        (earlier.flatMap (warningsAt lookup config)).map Warning.render ++ [fault.message] := by
  rw [lexFiles_append lexed, lexFiles_of_error failed]
  refine ⟨rfl, ?_⟩
  have last : messagesOf (.logged (fileRecord path) :: fault.records.map .logged ++
      [.diagnosed fault.message]) = [fault.message] := by
    rw [messagesOf_append, ← List.map_cons, messagesOf_logged]
    rfl
  rw [messagesOf_append, (lexFiles_of_lexes showTokens lexed).2.2, last]

/-- The problems are counted after all files only. -/
theorem problemCount_not_mem_lexFiles (count : Nat) :
    .problemCount count ∉ (lexFiles lookup showTokens config paths).events := by
  induction paths with
  | nil => simp [lexFiles]
  | cons path paths inductionHypothesis =>
      cases outcome : (SourceFile.ofPath path).lex lookup config with
      | error fault => simp [lexFiles_of_error outcome]
      | ok completed =>
          have listing : .problemCount count ∉
              (if showTokens then [.listed completed.sequence] else [] : List Event) := by
            cases showTokens <;> simp
          simp [lexFiles_of_ok outcome, fileEvents, inductionHypothesis, listing]

/-- Behind a file that cannot be lexed no file is looked at. -/
theorem lexFiles_eq_of_agree {lookup' : Path → Lookup} {earlier later : List Path}
    {fault : FileFault} (failed : (SourceFile.ofPath path).lex lookup config = .error fault)
    (agree : ∀ p ∈ earlier ++ [path], lookup' p = lookup p) :
    lexFiles lookup' showTokens config (earlier ++ path :: later) =
      lexFiles lookup showTokens config (earlier ++ path :: later) := by
  induction earlier with
  | nil =>
      have same : (SourceFile.ofPath path).lex lookup' config = .error fault := by
        rw [SourceFile.lex_congr (agree path (by simp)), failed]
      rw [List.nil_append, lexFiles_of_error failed, lexFiles_of_error same]
  | cons first earlier inductionHypothesis =>
      rw [List.cons_append, List.forall_mem_cons] at agree
      have same : (SourceFile.ofPath first).lex lookup' config =
          (SourceFile.ofPath first).lex lookup config := SourceFile.lex_congr agree.1
      rw [List.cons_append, lexFiles, lexFiles, same, inductionHypothesis agree.2]

end LexFiles

/-- A check along a list passes everywhere, or stops at the first place where it
does not. -/
theorem firstError_cases {α ε : Type} (check : α → Except ε Unit) (as : List α) :
    ((∀ a ∈ as, check a = .ok ()) ∧ firstError check as = .ok ()) ∨
      ∃ earlier a later e, as = earlier ++ a :: later ∧ (∀ b ∈ earlier, check b = .ok ()) ∧
        check a = .error e ∧ firstError check as = .error e := by
  induction as with
  | nil => exact .inl ⟨by simp, rfl⟩
  | cons a as inductionHypothesis =>
      cases checked : check a with
      | error e => exact .inr ⟨[], a, as, e, rfl, by simp, checked, by rw [firstError, checked]⟩
      | ok _ =>
          have goesOn : firstError check (a :: as) = firstError check as := by
            rw [firstError, checked]
          rcases inductionHypothesis with
            ⟨passed, result⟩ | ⟨earlier, b, later, e, rfl, passed, failed, result⟩
          · exact .inl ⟨List.forall_mem_cons.mpr ⟨checked, passed⟩, goesOn.trans result⟩
          · exact .inr ⟨a :: earlier, b, later, e, rfl,
              List.forall_mem_cons.mpr ⟨checked, passed⟩, failed, goesOn.trans result⟩

theorem exists_first_failing {lookup : Path → Lookup} {config : Config} {paths : List Path}
    (failing : ∃ path ∈ paths, ¬ Lexes lookup config path) :
    ∃ earlier path later fault, paths = earlier ++ path :: later ∧
      (∀ p ∈ earlier, Lexes lookup config p) ∧
      (SourceFile.ofPath path).lex lookup config = .error fault := by
  let check (path : Path) : Except FileFault Unit :=
    ((SourceFile.ofPath path).lex lookup config).map fun _ => ()
  have lexes {path : Path} (passed : check path = .ok ()) : Lexes lookup config path := by
    cases outcome : (SourceFile.ofPath path).lex lookup config with
    | ok completed => exact ⟨completed, outcome⟩
    | error fault => simp [check, outcome, Except.map] at passed
  rcases firstError_cases check paths with
    ⟨passed, _⟩ | ⟨earlier, path, later, fault, whole, passed, failed, _⟩
  · obtain ⟨path, isFile, fails⟩ := failing
    exact absurd (lexes (passed path isFile)) fails
  · refine ⟨earlier, path, later, fault, whole, fun p inside => lexes (passed p inside), ?_⟩
    cases outcome : (SourceFile.ofPath path).lex lookup config with
    | ok completed => simp [check, outcome, Except.map] at failed
    | error other => simpa [check, outcome, Except.map] using failed

/-- A name that is looked up and found to be that of a directory. -/
def NamesDirectory (lookup : Path → Lookup) (name : String) : Prop :=
  name ≠ "" ∧ name.utf8ByteSize < Path.sizeLimit ∧ lookup (.ofString name) = .directory

/-- Arguments that ask for nothing but files to be lexed.  None of the names is
that of a directory, and all of them can be looked up. -/
structure Arguments.AskForFiles (lookup : Path → Lookup) (a : Arguments) : Prop where
  noRequest : a.request = none
  levelOffered : ∃ level, checkLogLevel a.logLevel = .ok level
  nonempty : a.files ≠ []
  noNull : ∀ name ∈ a.files, '\x00' ∉ name.toList
  noDirectory : ∀ name ∈ a.files, ¬ NamesDirectory lookup name

theorem checkExtension_eq_ok_iff {extension : String} {path : Path} :
    checkExtension extension path = .ok () ↔ path.suffix = extension := by
  unfold checkExtension
  split
  · rename_i right
    simp [right]
  · rename_i other
    simp [other]

theorem checkExtension_eq_error_iff {extension : String} {path : Path} {e : UsageError} :
    checkExtension extension path = .error e ↔
      path.suffix ≠ extension ∧ e = .wrongExtension path extension := by
  unfold checkExtension
  split
  · rename_i right
    simp [right]
  · rename_i other
    simp [other, eq_comm]

section Run

variable {lookup : Path → Lookup} {a : Arguments}

theorem checkName_of_asks (asks : a.AskForFiles lookup) :
    ∀ name ∈ a.files, checkName lookup name = .ok () := by
  intro name isFile
  have noNull : ¬ name.toList.contains '\x00' = true := by
    rw [List.contains_iff_mem]
    exact asks.noNull name isFile
  rw [checkName, if_neg noNull]
  exact if_neg (asks.noDirectory name isFile)

theorem isNameable_of_asks (asks : a.AskForFiles lookup) :
    ∀ path ∈ a.files.map Path.ofString, path.IsNameable := by
  intro path isPath
  obtain ⟨name, isFile, rfl⟩ := List.mem_map.mp isPath
  exact Path.isNameable_ofString (asks.noNull name isFile)

/-- All that is left to check are the endings of the paths. -/
theorem run_of_asks (active : Config) {args : List String} {level : LogLevel}
    (understood : Arguments.read args = .ok a) (asks : a.AskForFiles lookup)
    (offered : checkLogLevel a.logLevel = .ok level) :
    run lookup args active =
      match firstError (checkExtension ".solace") (a.files.map Path.ofString) with
      | .error e => (.stopped (.usage e), active)
      | .ok () =>
          ((lexFiles lookup a.showTokens { emitEndOfLine := a.emitEndOfLine }
            (a.files.map Path.ofString)).finish level, active) := by
  have names : firstError (checkName lookup) a.files = .ok () := by
    rcases firstError_cases (checkName lookup) a.files with
      ⟨_, passed⟩ | ⟨earlier, name, later, e, whole, _, failed, _⟩
    · exact passed
    · rw [checkName_of_asks asks name (by simp [whole])] at failed
      simp at failed
  simp only [run, understood, perform, asks.noRequest, check, offered, names]
  cases firstError (checkExtension ".solace") (a.files.map Path.ofString) with
  | error e => rfl
  | ok _ =>
      obtain ⟨name, names, files⟩ := List.exists_cons_of_ne_nil asks.nonempty
      rw [files, List.map_cons]
      simp only [Configured.within]

/-- A path with another ending is refused, wherever it stands and whatever the
files are. -/
theorem run_of_wrong_extension (active : Config) {args : List String} {level : LogLevel}
    (understood : Arguments.read args = .ok a) (offered : checkLogLevel a.logLevel = .ok level)
    (wrong : ∃ path ∈ a.files.map Path.ofString, path.suffix ≠ ".solace") :
    ∃ path ∈ a.files.map Path.ofString, path.suffix ≠ ".solace" ∧
      ∀ lookup, a.AskForFiles lookup → run lookup args active =
        ({ status := 2, events := [.refused (.wrongExtension path ".solace")] }, active) := by
  rcases firstError_cases (checkExtension ".solace") (a.files.map Path.ofString) with
    ⟨passed, _⟩ | ⟨earlier, path, later, e, whole, _, failed, checked⟩
  · obtain ⟨path, isFile, other⟩ := wrong
    exact absurd (checkExtension_eq_ok_iff.mp (passed path isFile)) other
  · obtain ⟨other, rfl⟩ := checkExtension_eq_error_iff.mp failed
    refine ⟨path, by simp [whole], other, ?_⟩
    intro lookup asks
    rw [run_of_asks active understood asks offered, checked]
    rfl

/-- Where all endings are right, the files are lexed. -/
theorem run_of_right_extensions (active : Config) {args : List String} {level : LogLevel}
    (understood : Arguments.read args = .ok a) (asks : a.AskForFiles lookup)
    (offered : checkLogLevel a.logLevel = .ok level)
    (right : ∀ path ∈ a.files.map Path.ofString, path.suffix = ".solace") :
    run lookup args active =
      ((lexFiles lookup a.showTokens { emitEndOfLine := a.emitEndOfLine }
        (a.files.map Path.ofString)).finish level, active) := by
  have result := run_of_asks active understood asks offered
  rcases firstError_cases (checkExtension ".solace") (a.files.map Path.ofString) with
    ⟨_, checked⟩ | ⟨earlier, path, later, e, whole, _, failed, _⟩
  · rw [result, checked]
  · have isFile : path ∈ a.files.map Path.ofString := by simp [whole]
    exact absurd (right path isFile) (checkExtension_eq_error_iff.mp failed).1

end Run

section Finish

variable (lookup : Path → Lookup) (config : Config)

/-- The outcome of a run that a fatal error ends behind some files.  What is
wrong in these has been told, and no problems are counted. -/
structure Outcome.EndsBehind (earlier : List Path) (error : FatalError) (o : Outcome) : Prop where
  status : o.status = 1
  messages : o.messages =
    (earlier.flatMap (warningsAt lookup config)).map Warning.render ++ [error.render]
  uncounted : ∀ count, .problemCount count ∉ o.events

/-- The outcome of a run that comes through some files.  It is a success if
nothing is wrong in any of them. -/
structure Outcome.ComesThrough (paths : List Path) (o : Outcome) : Prop where
  status : o.status = if paths.flatMap (warningsAt lookup config) = [] then 0 else 1
  messages : o.messages =
    (paths.flatMap (warningsAt lookup config)).map Warning.render ++
      if paths.flatMap (warningsAt lookup config) = [] then []
      else [problemsFound (paths.flatMap (warningsAt lookup config)).length]

variable {lookup config}
variable (showTokens : Bool) (level : LogLevel)

theorem finish_of_failing {earlier : List Path} {path : Path} {fault : FileFault}
    {error : FatalError} (lexed : ∀ p ∈ earlier, Lexes lookup config p)
    (failed : (SourceFile.ofPath path).lex lookup config = .error fault)
    (fatal : fault.fatal? = some error) (later : List Path) :
    ((lexFiles lookup showTokens config (earlier ++ path :: later)).finish level).EndsBehind
      lookup config earlier error := by
  obtain ⟨isFailed, messages⟩ := lexFiles_of_failing showTokens lexed failed later
  rw [FilesOutcome.finish, if_pos isFailed]
  exact {
    status := rfl
    messages := by rw [Outcome.messages, messages, FileFault.message_of_fatal? fatal]
    uncounted := problemCount_not_mem_lexFiles }

theorem finish_of_lexes {paths : List Path} (lexed : ∀ p ∈ paths, Lexes lookup config p) :
    ((lexFiles lookup showTokens config paths).finish level).ComesThrough
      lookup config paths := by
  obtain ⟨notFailed, problems, messages⟩ := lexFiles_of_lexes showTokens lexed
  rw [FilesOutcome.finish, notFailed, if_neg Bool.false_ne_true, problems]
  by_cases clean : paths.flatMap (warningsAt lookup config) = []
  · rw [if_pos (List.length_eq_zero_iff.mpr clean)]
    exact {
      status := (if_pos clean).symm
      messages := by rw [Outcome.messages, messages, if_pos clean, List.append_nil] }
  · rw [if_neg (mt List.length_eq_zero_iff.mp clean)]
    exact {
      status := (if_neg clean).symm
      messages := by
        rw [Outcome.messages, messagesOf_append, messages, if_neg clean]
        rfl }

end Finish

/-- Files are refused, lexed up to the first that fails, or all lexed.  In each
case it is settled what the run says and with which status it ends; the active
configuration is the one from before.  What a run does not look at is what it
does not depend on. -/
theorem run_over_files (lookup : Path → Lookup) (active : Config) {args : List String}
    {a : Arguments} (understood : Arguments.read args = .ok a) (asks : a.AskForFiles lookup) :
    let config : Config := { emitEndOfLine := a.emitEndOfLine }
    let paths := a.files.map Path.ofString
    let outcome := (run lookup args active).1
    (run lookup args active).2 = active ∧
    (∀ path, (warningsAt lookup config path).Pairwise fun v w =>
      v.location.position.Precedes w.location.position) ∧
    ((∃ path ∈ paths, path.suffix ≠ ".solace") →
      (∃ path ∈ paths, path.suffix ≠ ".solace" ∧
        outcome = { status := 2, events := [.refused (.wrongExtension path ".solace")] }) ∧
      ∀ lookup', a.AskForFiles lookup' → run lookup' args active = run lookup args active) ∧
    ((∀ path ∈ paths, path.suffix = ".solace") →
      ((∃ path ∈ paths, ¬ Lexes lookup config path) →
        ∃ earlier path later fault error, paths = earlier ++ path :: later ∧
          (∀ p ∈ earlier, Lexes lookup config p) ∧
          (SourceFile.ofPath path).lex lookup config = .error fault ∧
          fault.fatal? = some error ∧
          outcome.EndsBehind lookup config earlier error ∧
          ∀ lookup', (∀ p ∈ earlier ++ [path], lookup' p = lookup p) → a.AskForFiles lookup' →
            run lookup' args active = run lookup args active) ∧
      ((∀ path ∈ paths, Lexes lookup config path) →
        outcome.ComesThrough lookup config paths)) := by
  intro config paths outcome
  obtain ⟨level, offered⟩ := asks.levelOffered
  by_cases right : ∀ path ∈ paths, path.suffix = ".solace"
  · have result {lookup' : Path → Lookup} (asks' : a.AskForFiles lookup') :
        run lookup' args active =
          ((lexFiles lookup' a.showTokens config paths).finish level, active) :=
      run_of_right_extensions active understood asks' offered right
    have ends : outcome = (lexFiles lookup a.showTokens config paths).finish level :=
      congrArg Prod.fst (result asks)
    refine ⟨congrArg Prod.snd (result asks), pairwise_warningsAt lookup config, ?_, ?_⟩
    · rintro ⟨path, isFile, other⟩
      exact absurd (right path isFile) other
    · intro _
      rw [ends]
      refine ⟨?_, finish_of_lexes a.showTokens level⟩
      intro failing
      obtain ⟨earlier, path, later, fault, whole, lexed, failed⟩ := exists_first_failing failing
      have isFile : path ∈ paths := by simp [whole]
      have nameable : (SourceFile.ofPath path).path.IsNameable :=
        isNameable_of_asks asks path isFile
      obtain ⟨error, fatal⟩ := SourceFile.exists_fatal_of_lex_error nameable failed
      refine ⟨earlier, path, later, fault, error, whole, lexed, failed, fatal, ?_, ?_⟩
      · rw [whole]
        exact finish_of_failing a.showTokens level lexed failed fatal later
      · intro lookup' agree asks'
        rw [result asks', result asks, whole, lexFiles_eq_of_agree failed agree]
  · push Not at right
    obtain ⟨path, isFile, other, result⟩ :=
      run_of_wrong_extension active understood offered right
    refine ⟨congrArg Prod.snd (result lookup asks), pairwise_warningsAt lookup config, ?_, ?_⟩
    · intro _
      refine ⟨⟨path, isFile, other, congrArg Prod.fst (result lookup asks)⟩, ?_⟩
      intro lookup' asks'
      rw [result lookup' asks', result lookup asks]
    · intro allRight
      exact absurd (allRight path isFile) other

/-- A stray character in the first file, no second file, and a third that is not
looked at. -/
theorem run_over_files_up_to_missing :
    let lookup : Path → Lookup := fun path =>
      if path = .ofString "a.solace" then .file [0x24] else .missing
    let args := ["a.solace", "--tokens", "b.solace", "c.solace"]
    let outcome := (run lookup args {}).1
    (run lookup args {}).2 = {} ∧
      (∃ earlier error, outcome.EndsBehind lookup {} earlier error) ∧
      outcome.messages.map CodePoints.written =
        ["WARNING[L004]: Unrecognized character: '$'\n  --> a.solace:1:1\n" ++
          "  help: The character was skipped.\n",
         "ERROR[L001]: Cannot read source file 'b.solace'\n  --> b.solace:1:1\n" ++
          "  help: [Errno 2] No such file or directory: 'b.solace'\n"] := by
  intro lookup args outcome
  let a : Arguments := { showTokens := true, files := ["a.solace", "b.solace", "c.solace"] }
  have understood : Arguments.read args = .ok a := by decide
  have asks : a.AskForFiles lookup := {
    noRequest := rfl
    levelOffered := ⟨.warning, rfl⟩
    nonempty := by decide
    noNull := by decide
    noDirectory := by
      intro name _ ⟨_, _, isDirectory⟩
      simp only [lookup] at isDirectory
      split at isDirectory <;> simp at isDirectory }
  obtain ⟨unchanged, _, _, lexed⟩ := run_over_files lookup {} understood asks
  have missing : ¬ Lexes lookup {} (.ofString "b.solace") := by
    rintro ⟨completed, done⟩
    have failed : (SourceFile.ofPath (.ofString "b.solace")).lex lookup {} =
      .error (.unavailable (.sourceUnavailable "b.solace"
        "[Errno 2] No such file or directory: 'b.solace'")) := by decide +kernel
    rw [failed] at done
    simp at done
  have right : ∀ path ∈ a.files.map Path.ofString, path.suffix = ".solace" := by
    decide +kernel
  obtain ⟨earlier, _, _, _, error, _, _, _, _, ends, _⟩ :=
    (lexed right).1 ⟨.ofString "b.solace", by simp [a], missing⟩
  exact ⟨unchanged, ⟨earlier, error, ends⟩, by decide +kernel⟩

end CommandLine

end LexicalPass
