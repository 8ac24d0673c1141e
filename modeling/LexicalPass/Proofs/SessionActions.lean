import LexicalPass.Proofs.LexerRuns
import LexicalPass.Session

/-!
The actions of a session, said once for all: what each can answer, and what it
leaves of the session.  Running a lexer is said in terms of lexing its source,
so that nothing of a lexer's own work is left to be seen from here on.
-/

set_option autoImplicit false

namespace LexicalPass

/-- A lexer after a run under the active configuration. -/
def Lexer.rested (lexer : Lexer) (active : Config) : Lexer :=
  { lexer with current := lexer.config.getD active, work := none }

/-- A run comes to what lexing comes to, and adds one sequence. -/
theorem Lexer.run_eq (lexer : Lexer) (active : Config) (sequences : Array TokenSequence) :
    (lexer.run active sequences).lexer = lexer.rested active ∧
      match tokenize (lexer.config.getD active) lexer.name lexer.source with
      | .ok sequence =>
          (lexer.run active sequences).outcome = .ok ⟨sequences.size, sequence⟩ ∧
            (lexer.run active sequences).sequences = sequences.push sequence
      | .error fault =>
          (lexer.run active sequences).outcome = .error fault ∧
            ∃ unfinished, (lexer.run active sequences).sequences = sequences.push unfinished := by
  unfold tokenize
  cases lexed : lex (lexer.config.getD active) lexer.name lexer.source with
  | ok completed =>
      rw [run_of_lex_ok lexer active sequences lexed]
      exact ⟨rfl, rfl, rfl⟩
  | error aborted =>
      obtain ⟨unfinished, ran⟩ := run_of_lex_error lexer active sequences lexed
      rw [ran]
      exact ⟨rfl, rfl, unfinished, rfl⟩

namespace Session

@[simp] theorem buildConfig_eq_ok_iff {settings : Settings} {config : Config} :
    buildConfig settings = .ok config ↔ settings.build = .ok config := by
  unfold buildConfig
  cases settings.build with
  | ok made =>
      constructor
      · rintro ⟨rfl⟩
        rfl
      · rintro ⟨rfl⟩
        rfl
  | error error =>
      constructor
      · rintro ⟨⟩
      · rintro ⟨⟩

@[simp] theorem buildConfig_eq_error_iff {settings : Settings} {failure : Failure} :
    buildConfig settings = .error failure ↔
      ∃ error, settings.build = .error error ∧ failure = .config error := by
  unfold buildConfig
  cases settings.build with
  | ok config =>
      constructor
      · rintro ⟨⟩
      · rintro ⟨_, ⟨⟩, _⟩
  | error error =>
      constructor
      · rintro ⟨rfl⟩
        exact ⟨error, rfl, rfl⟩
      · rintro ⟨_, ⟨rfl⟩, rfl⟩
        rfl

/-- The configuration that optional settings ask for. -/
def explicit (settings : Option Settings) : Option Config :=
  settings.bind (·.build.toOption)

/-- Optional settings are built, if there are any, or are refused. -/
theorem buildExplicit_cases (settings : Option Settings) :
    (buildExplicit settings = .ok (explicit settings) ∧
      ∀ given ∈ settings.toList, ∃ config, given.build = .ok config) ∨
    ∃ given ∈ settings.toList, ∃ error, given.build = .error error ∧
      buildExplicit settings = .error (.config error) := by
  cases settings with
  | none =>
      left
      simp [buildExplicit, explicit]
  | some given =>
      cases result : given.build with
      | ok config =>
          left
          simp [buildExplicit, explicit, buildConfig_eq_ok_iff.mpr result, result, Except.map,
            Except.toOption]
      | error error =>
          right
          refine ⟨given, by simp, error, result, ?_⟩
          rw [buildExplicit, buildConfig_eq_error_iff.mpr ⟨error, result, rfl⟩]
          rfl

/-- The settings that an action builds configurations from. -/
def Action.settings : Action → List Settings
  | .set settings => [settings]
  | .make settings => [settings]
  | .sameConfig left right => left.toList ++ right.toList
  | .makeLexer _ _ _ settings => settings.toList
  | .lexText _ settings => settings.toList
  | _ => []

def Action.IsBuilt (action : Action) : Prop :=
  ∀ settings ∈ action.settings, ∃ config, settings.build = .ok config

/-- What an action can answer in a session, and the session that it leaves. -/
inductive Performs (session : Session) : Action → Except Failure Answer → Session → Prop
  | get : Performs session .get (.ok (.config session.active)) session
  | set {settings : Settings} {config : Config} : settings.build = .ok config →
      Performs session (.set settings) (.ok (.config config)) { session with active := config }
  | reset : Performs session .reset (.ok (.config {})) { session with active := {} }
  | make {settings : Settings} {config : Config} : settings.build = .ok config →
      Performs session (.make settings) (.ok (.config config)) session
  | sameConfig {left right : Option Settings} : (Action.sameConfig left right).IsBuilt →
      Performs session (.sameConfig left right)
        (.ok (.truth (explicit left = explicit right))) session
  | makeLexer {id source : String} {name : CodePoints} {settings : Option Settings} :
      (Action.makeLexer id source name settings).IsBuilt →
      Performs session (.makeLexer id source name settings) (.ok (.name name))
        { session with
          lexers := (id, .make session.active source name (explicit settings)) :: session.lexers }
  | unbuilt {action : Action} {settings : Settings} {error : ConfigError} :
      settings ∈ action.settings → settings.build = .error error →
      Performs session action (.error (.config error)) session
  | ran {id save : String} {lexer : Lexer} {sequence : TokenSequence} :
      session.lexers.lookup id = some lexer →
      tokenize (lexer.config.getD session.active) lexer.name lexer.source = .ok sequence →
      Performs session (.runLexer id save) (.ok (.sequence sequence))
        { session with
          lexers := (id, lexer.rested session.active) :: session.lexers
          sequences := session.sequences.push sequence
          saved := (save, session.sequences.size) :: session.saved }
  | aborted {id save : String} {lexer : Lexer} {fault : Fault} {unfinished : TokenSequence} :
      session.lexers.lookup id = some lexer →
      tokenize (lexer.config.getD session.active) lexer.name lexer.source = .error fault →
      Performs session (.runLexer id save) (.error (.pass fault))
        { session with
          lexers := (id, lexer.rested session.active) :: session.lexers
          sequences := session.sequences.push unfinished }
  | unknownLexer {id save : String} : session.lexers.lookup id = none →
      Performs session (.runLexer id save) (.error (.unknown id)) session
  | textLexed {source : String} {settings : Option Settings} {sequence : TokenSequence} :
      (Action.lexText source settings).IsBuilt →
      tokenize ((explicit settings).getD session.active) "<string>" source = .ok sequence →
      Performs session (.lexText source settings) (.ok (.sequence sequence))
        { session with sequences := session.sequences.push sequence }
  | textAborted {source : String} {settings : Option Settings} {fault : Fault}
      {unfinished : TokenSequence} :
      (Action.lexText source settings).IsBuilt →
      tokenize ((explicit settings).getD session.active) "<string>" source = .error fault →
      Performs session (.lexText source settings) (.error (.pass fault))
        { session with sequences := session.sequences.push unfinished }
  | sameSequence {left right : String} {first second : TokenSequence} :
      session.saved? left = some first → session.saved? right = some second →
      Performs session (.sameSequence left right) (.ok (.truth (first.Agrees second))) session
  | unknownSequence {left right name : String} : name = left ∨ name = right →
      session.saved? name = none →
      Performs session (.sameSequence left right) (.error (.unknown name)) session

variable (session : Session)

theorem performs_runLexer (id save : String) :
    Performs session (.runLexer id save) (session.perform (.runLexer id save)).1
      (session.perform (.runLexer id save)).2 := by
  cases found : session.lexers.lookup id with
  | none =>
      simp only [perform, found]
      exact .unknownLexer found
  | some lexer =>
      obtain ⟨rested, result⟩ := lexer.run_eq session.active session.sequences
      split at result
      · rename_i lexed
        obtain ⟨outcome, sequences⟩ := result
        simp only [perform, found, outcome, sequences, rested]
        exact .ran found lexed
      · rename_i failed
        obtain ⟨outcome, unfinished, sequences⟩ := result
        simp only [perform, found, outcome, sequences, rested]
        exact .aborted found failed

theorem performs_lexText (source : String) (settings : Option Settings) :
    Performs session (.lexText source settings) (session.perform (.lexText source settings)).1
      (session.perform (.lexText source settings)).2 := by
  rcases buildExplicit_cases settings with ⟨built, isBuilt⟩ | ⟨given, inside, error, unbuilt, failed⟩
  · obtain ⟨-, result⟩ :=
      (Lexer.make session.active source "<string>" (explicit settings)).run_eq session.active
        session.sequences
    split at result
    · rename_i lexed
      obtain ⟨outcome, sequences⟩ := result
      simp only [perform, built, outcome, sequences]
      exact .textLexed isBuilt lexed
    · rename_i aborted
      obtain ⟨outcome, unfinished, sequences⟩ := result
      simp only [perform, built, outcome, sequences]
      exact .textAborted isBuilt aborted
  · simp only [perform, failed]
    exact .unbuilt inside unbuilt

theorem performs_sameConfig (left right : Option Settings) :
    Performs session (.sameConfig left right) (session.perform (.sameConfig left right)).1
      (session.perform (.sameConfig left right)).2 := by
  rcases buildExplicit_cases left with ⟨leftBuilt, isLeft⟩ | ⟨given, inside, error, unbuilt, failed⟩
  · rcases buildExplicit_cases right with
      ⟨rightBuilt, isRight⟩ | ⟨given, inside, error, unbuilt, failed⟩
    · simp only [perform, leftBuilt, rightBuilt]
      refine .sameConfig ?_
      intro settings inside
      rcases List.mem_append.mp inside with inLeft | inRight
      · exact isLeft settings inLeft
      · exact isRight settings inRight
    · simp only [perform, leftBuilt, failed]
      exact .unbuilt (List.mem_append_right _ inside) unbuilt
  · simp only [perform, failed]
    exact .unbuilt (List.mem_append_left _ inside) unbuilt

theorem performs_sameSequence (left right : String) :
    Performs session (.sameSequence left right) (session.perform (.sameSequence left right)).1
      (session.perform (.sameSequence left right)).2 := by
  cases first : session.saved? left with
  | none =>
      simp only [perform, first]
      exact .unknownSequence (.inl rfl) first
  | some sequence =>
      cases second : session.saved? right with
      | none =>
          simp only [perform, first, second]
          exact .unknownSequence (.inr rfl) second
      | some other =>
          simp only [perform, first, second]
          exact .sameSequence first second

/-- Every action does what is said of it. -/
theorem performs_perform (action : Action) :
    Performs session action (session.perform action).1 (session.perform action).2 := by
  cases action with
  | get => exact .get
  | set settings =>
      cases result : settings.build with
      | ok config =>
          simp only [perform, buildConfig_eq_ok_iff.mpr result]
          exact .set result
      | error error =>
          simp only [perform, buildConfig_eq_error_iff.mpr ⟨error, result, rfl⟩]
          exact .unbuilt (List.mem_singleton_self settings) result
  | reset => exact .reset
  | make settings =>
      cases result : settings.build with
      | ok config =>
          simp only [perform, buildConfig_eq_ok_iff.mpr result]
          exact .make result
      | error error =>
          simp only [perform, buildConfig_eq_error_iff.mpr ⟨error, result, rfl⟩]
          exact .unbuilt (List.mem_singleton_self settings) result
  | sameConfig left right => exact performs_sameConfig session left right
  | makeLexer id source name settings =>
      rcases buildExplicit_cases settings with
        ⟨built, isBuilt⟩ | ⟨given, inside, error, unbuilt, failed⟩
      · simp only [perform, built]
        exact .makeLexer isBuilt
      · simp only [perform, failed]
        exact .unbuilt inside unbuilt
  | runLexer id save => exact performs_runLexer session id save
  | lexText source settings => exact performs_lexText session source settings
  | sameSequence left right => exact performs_sameSequence session left right

end Session

end LexicalPass
