import LexicalPass.Proofs.SessionActions

/-!
The history of a session.  Whatever the program, its events are those that its
steps give rise to, in their order; each event leads from the session before it
to the session after it, which is the one before the next; and the blocks nest,
so that the configuration from before a block waits until the block is left.
-/

set_option autoImplicit false

namespace LexicalPass.Session

/-- What an event does to the session in which it happens.  Of the end of a block
it says no more than that the active configuration is all that changes. -/
inductive Occurs : Event → Session → Session → Prop
  | acted {action : Action} {outcome : Except Failure Answer} {session after : Session} :
      Performs session action outcome after → Occurs (.acted action outcome) session after
  | entered {settings : Settings} {config : Config} {session : Session} :
      settings.build = .ok config →
      Occurs (.entered settings config) session { session with active := config }
  | skipped {settings : Settings} {error : ConfigError} {session : Session} :
      settings.build = .error error →
      Occurs (.skipped settings (.config error)) session session
  | left {failure : Option Failure} {session : Session} (config : Config) :
      Occurs (.left failure) session { session with active := config }

/-- Moments that follow each other, from one session to another. -/
inductive Path : Session → List Moment → Session → Prop
  | nil {session : Session} : Path session [] session
  | cons {event : Event} {session next final : Session} {moments : List Moment} :
      Occurs event session next → Path next moments final →
      Path session (⟨event, session, next⟩ :: moments) final

namespace Path

variable {session next final : Session} {earlier later moments : List Moment} {m : Moment}

theorem append (first : Path session earlier next) (second : Path next later final) :
    Path session (earlier ++ later) final := by
  induction first with
  | nil => exact second
  | cons occurs _ inductionHypothesis => exact .cons occurs (inductionHypothesis second)

/-- A path can be cut before any of its moments. -/
theorem cut (path : Path session (earlier ++ m :: later) final) :
    Path session earlier m.before ∧ Occurs m.event m.before m.after ∧
      Path m.after later final := by
  induction earlier generalizing session with
  | nil =>
      cases path with
      | cons occurs rest => exact ⟨.nil, occurs, rest⟩
  | cons first earlier inductionHypothesis =>
      cases path with
      | cons occurs rest =>
          obtain ⟨before, here, after⟩ := inductionHypothesis rest
          exact ⟨.cons occurs before, here, after⟩

theorem left_of_append (path : Path session (earlier ++ later) final) :
    ∃ between, Path session earlier between := by
  cases later with
  | nil => exact ⟨final, by simpa using path⟩
  | cons m later => exact ⟨m.before, path.cut.1⟩

theorem occurs_of_mem (path : Path session moments final) (inside : m ∈ moments) :
    Occurs m.event m.before m.after := by
  obtain ⟨earlier, later, rfl⟩ := List.append_of_mem inside
  exact path.cut.2.1

theorem performs_of_mem {action : Action} {outcome : Except Failure Answer}
    (path : Path session moments final) (inside : m ∈ moments)
    (isActed : m.event = .acted action outcome) : Performs m.before action outcome m.after := by
  have occurs := path.occurs_of_mem inside
  rw [isActed] at occurs
  cases occurs with
  | acted performs => exact performs

end Path

def Event.IsPlain : Event → Prop
  | .acted _ _ => True
  | .skipped _ _ => True
  | .entered _ _ => False
  | .left _ => False

/-- Blocks are left in the reverse order of being entered, each to the
configuration that was active before it.  The configurations that wait for their
blocks to be left, before the moments and after them, have the latest in front. -/
inductive Nested : List Config → List Moment → List Config → Prop
  | nil {waiting : List Config} : Nested waiting [] waiting
  | plain {waiting final : List Config} {m : Moment} {moments : List Moment} :
      m.event.IsPlain → Nested waiting moments final → Nested waiting (m :: moments) final
  | entered {waiting final : List Config} {m : Moment} {moments : List Moment}
      {settings : Settings} {config : Config} :
      m.event = .entered settings config → Nested (m.before.active :: waiting) moments final →
      Nested waiting (m :: moments) final
  | left {waiting final : List Config} {m : Moment} {moments : List Moment}
      {failure : Option Failure} :
      m.event = .left failure → Nested waiting moments final →
      Nested (m.after.active :: waiting) (m :: moments) final

namespace Nested

variable {waiting between final : List Config} {earlier later : List Moment}

theorem append (first : Nested waiting earlier between) (second : Nested between later final) :
    Nested waiting (earlier ++ later) final := by
  induction first with
  | nil => exact second
  | plain isPlain _ inductionHypothesis => exact .plain isPlain (inductionHypothesis second)
  | entered isEntered _ inductionHypothesis =>
      exact .entered isEntered (inductionHypothesis second)
  | left isLeft _ inductionHypothesis => exact .left isLeft (inductionHypothesis second)

theorem cut (nested : Nested waiting (earlier ++ later) final) :
    ∃ between, Nested waiting earlier between ∧ Nested between later final := by
  induction earlier generalizing waiting with
  | nil => exact ⟨waiting, .nil, nested⟩
  | cons m earlier inductionHypothesis =>
      cases nested with
      | plain isPlain rest =>
          obtain ⟨between, first, second⟩ := inductionHypothesis rest
          exact ⟨between, .plain isPlain first, second⟩
      | entered isEntered rest =>
          obtain ⟨between, first, second⟩ := inductionHypothesis rest
          exact ⟨between, .entered isEntered first, second⟩
      | left isLeft rest =>
          obtain ⟨between, first, second⟩ := inductionHypothesis rest
          exact ⟨between, .left isLeft first, second⟩

/-- Leaving a block takes the latest of the configurations that wait. -/
theorem leaving {m : Moment} {failure : Option Failure} {config : Config}
    (isLeft : m.event = .left failure) (restored : m.after.active = config) :
    Nested (config :: waiting) [m] waiting := by
  rw [← restored]
  exact .left isLeft .nil

end Nested

mutual

/-- The events that a step gives rise to, and the failure that it lets on. -/
inductive Step.Yields : Step → List Event → Option Failure → Prop
  | answered {action : Action} {propagate : Bool} {answer : Answer} :
      Step.Yields (.act action propagate) [.acted action (.ok answer)] none
  | failed {action : Action} {propagate : Bool} {failure : Failure} :
      Step.Yields (.act action propagate) [.acted action (.error failure)]
        (if propagate then some failure else none)
  | skipped {settings : Settings} {body : List Step} {propagate : Bool} {error : ConfigError} :
      settings.build = .error error →
      Step.Yields (.within settings body propagate) [.skipped settings (.config error)]
        (if propagate then some (.config error) else none)
  | block {settings : Settings} {body : List Step} {propagate : Bool} {config : Config}
      {events : List Event} {failure : Option Failure} :
      settings.build = .ok config → Step.YieldsAll body events failure →
      Step.Yields (.within settings body propagate)
        (.entered settings config :: (events ++ [.left failure]))
        (if propagate then failure else none)

/-- The events of a block's steps, up to one that leaves the block. -/
inductive Step.YieldsAll : List Step → List Event → Option Failure → Prop
  | nil : Step.YieldsAll [] [] none
  | leaves {step : Step} {steps : List Step} {events : List Event} {failure : Failure} :
      step.Yields events (some failure) → Step.YieldsAll (step :: steps) events (some failure)
  | cons {step : Step} {steps : List Step} {events later : List Event}
      {failure : Option Failure} :
      step.Yields events none → Step.YieldsAll steps later failure →
      Step.YieldsAll (step :: steps) (events ++ later) failure

end

/-- The events of a program, whose steps are all run. -/
inductive ProgramYields : List Step → List Event → Prop
  | nil : ProgramYields [] []
  | cons {step : Step} {steps : List Step} {events later : List Event}
      {failure : Option Failure} :
      step.Yields events failure → ProgramYields steps later →
      ProgramYields (step :: steps) (events ++ later)

/-- Moments that lead from one session to another, with the blocks among them
entered and left. -/
structure Coherent (session : Session) (moments : List Moment) (final : Session) : Prop where
  path : Path session moments final
  nested : ∀ waiting, Nested waiting moments waiting

namespace Coherent

variable {session next final : Session} {earlier later : List Moment}

theorem nil : Coherent session [] session := ⟨.nil, fun _ => .nil⟩

theorem plain {event : Event} (isPlain : event.IsPlain) (occurs : Occurs event session next) :
    Coherent session [⟨event, session, next⟩] next :=
  ⟨.cons occurs .nil, fun _ => .plain isPlain .nil⟩

theorem append (first : Coherent session earlier next) (second : Coherent next later final) :
    Coherent session (earlier ++ later) final :=
  ⟨first.path.append second.path, fun waiting =>
    (first.nested waiting).append (second.nested waiting)⟩

theorem block {inner : List Moment} {settings : Settings} {config : Config}
    {failure : Option Failure} (built : settings.build = .ok config)
    (inside : Coherent { session with active := config } inner final) :
    Coherent session
      (⟨.entered settings config, session, { session with active := config }⟩ ::
        (inner ++ [⟨.left failure, final, { final with active := session.active }⟩]))
      { final with active := session.active } where
  path := .cons (.entered built) (inside.path.append (.cons (.left _) .nil))
  nested := by
    intro waiting
    have inner := inside.nested (session.active :: waiting)
    exact .entered rfl (inner.append (.leaving rfl rfl))

end Coherent

mutual

theorem Step.run_coherent (step : Step) (session : Session) :
    Coherent session (step.run session).moments (step.run session).session ∧
      step.Yields ((step.run session).moments.map Moment.event) (step.run session).raised := by
  cases step with
  | act action propagate =>
      have performs := performs_perform session action
      rw [Step.run]
      split
      · rename_i performed
        rw [performed] at performs
        exact ⟨.plain trivial (.acted performs), .answered⟩
      · rename_i performed
        rw [performed] at performs
        exact ⟨.plain trivial (.acted performs), .failed⟩
  | within settings body propagate =>
      rw [Step.run]
      split
      · rename_i failed
        obtain ⟨error, unbuilt, rfl⟩ := buildConfig_eq_error_iff.mp failed
        exact ⟨.plain trivial (.skipped unbuilt), .skipped unbuilt⟩
      · rename_i config built
        rw [buildConfig_eq_ok_iff] at built
        obtain ⟨coherent, yields⟩ := Step.runAll_coherent body { session with active := config }
        refine ⟨.block built coherent, ?_⟩
        simpa using Step.Yields.block built yields

theorem Step.runAll_coherent (steps : List Step) (session : Session) :
    Coherent session (Step.runAll steps session).moments (Step.runAll steps session).session ∧
      Step.YieldsAll steps ((Step.runAll steps session).moments.map Moment.event)
        (Step.runAll steps session).raised := by
  cases steps with
  | nil => exact ⟨.nil, .nil⟩
  | cons step steps =>
      obtain ⟨coherent, yields⟩ := Step.run_coherent step session
      rw [Step.runAll]
      dsimp only
      split
      · rename_i raised
        rw [raised] at yields ⊢
        exact ⟨coherent, .leaves yields⟩
      · rename_i raised
        rw [raised] at yields
        obtain ⟨later, yieldsLater⟩ :=
          Step.runAll_coherent steps (step.run session).session
        refine ⟨coherent.append later, ?_⟩
        rw [List.map_append]
        exact .cons yields yieldsLater

end

theorem history_coherent (session : Session) (program : List Step) :
    Coherent session (session.history program).1 (session.history program).2 ∧
      ProgramYields program ((session.history program).1.map Moment.event) := by
  induction program generalizing session with
  | nil => exact ⟨.nil, .nil⟩
  | cons step steps inductionHypothesis =>
      obtain ⟨coherent, yields⟩ := step.run_coherent session
      obtain ⟨later, yieldsLater⟩ := inductionHypothesis (step.run session).session
      simp only [history, List.map_append]
      exact ⟨coherent.append later, .cons yields yieldsLater⟩

end LexicalPass.Session
