import LexicalPass.Proofs.SessionHistory

/-!
The active configuration in the history of a session.  A block has its own until
something inside the block says otherwise, and after the block the configuration
from before it is active again, whether the block came to its end or a failure
left it and others around it.  Nothing else but setting and resetting changes
the active configuration, and no settings become active that ask for a negative
preview.
-/

set_option autoImplicit false

namespace LexicalPass

theorem Settings.previewLength_of_build {settings : Settings} {config : Config}
    (built : settings.build = .ok config) :
    (config.previewLength : Int) = settings.previewLength.getD 15 := by
  unfold build at built
  dsimp only at built
  split at built
  · simp at built
  · rename_i nonnegative
    cases built
    exact Int.toNat_of_nonneg (Int.not_lt.mp nonnegative)

namespace Session

/-- The settings from which an event has built the active configuration. -/
def Event.activated? : Event → Option Settings
  | .acted (.set settings) (.ok _) => some settings
  | .entered settings _ => some settings
  | _ => none

/-- Whether an event can change which configuration is active. -/
def Event.Switches : Event → Prop
  | .acted (.set _) (.ok _) => True
  | .acted .reset _ => True
  | .entered _ _ => True
  | .left _ => True
  | _ => False

/-- Moments in which every block that is entered is left, and no other. -/
inductive Balanced : List Moment → Prop
  | nil : Balanced []
  | plain {m : Moment} {moments : List Moment} :
      m.event.IsPlain → Balanced moments → Balanced (m :: moments)
  | block {entry exit : Moment} {inner later : List Moment} {settings : Settings}
      {config : Config} {failure : Option Failure} :
      entry.event = .entered settings config → exit.event = .left failure →
      Balanced inner → Balanced later → Balanced (entry :: (inner ++ exit :: later))

/-- Each moment begins with the session that the one before it ended with. -/
def Linked : Session → List Moment → Session → Prop
  | session, [], final => final = session
  | session, m :: moments, final => m.before = session ∧ Linked m.after moments final

/-- How a configuration can come to be active: it was so from the start, is the
standard one, or was built from settings that ask for no negative preview. -/
def Arises (start : Session) (moments : List Moment) (config : Config) : Prop :=
  config = start.active ∨ config = {} ∨
    ∃ settings ∈ moments.filterMap (·.event.activated?), settings.build = .ok config ∧
      0 ≤ settings.previewLength.getD 15 ∧
      (config.previewLength : Int) = settings.previewLength.getD 15

/-- What a history says of the active configuration. -/
structure Scoped (start : Session) (moments : List Moment) (final : Session) : Prop where
  linked : Linked start moments final
  got : ∀ m ∈ moments, ∀ outcome, m.event = .acted .get outcome →
    outcome = .ok (.config m.before.active)
  set : ∀ m ∈ moments, ∀ (settings : Settings) (config : Config)
    (outcome : Except Failure Answer), m.event = .acted (.set settings) outcome →
    settings.build = .ok config → outcome = .ok (.config config) ∧ m.after.active = config
  reset : ∀ m ∈ moments, ∀ outcome, m.event = .acted .reset outcome → m.after.active = {}
  /-- A block that is entered is left again, and then the configuration is active
  that was active right before the block. -/
  restored : ∀ (earlier later : List Moment) (entry : Moment) (settings : Settings)
    (config : Config), moments = earlier ++ entry :: later →
    entry.event = .entered settings config →
    ∃ inner exit rest failure, later = inner ++ exit :: rest ∧ Balanced inner ∧
      exit.event = .left failure ∧ exit.after.active = entry.before.active
  /-- Inside a block its configuration is active until the next switch. -/
  governed : ∀ (earlier inner later : List Moment) (entry : Moment) (settings : Settings)
    (config : Config), moments = earlier ++ entry :: (inner ++ later) →
    entry.event = .entered settings config → (∀ m ∈ inner, ¬ m.event.Switches) →
    settings.build = .ok config ∧ entry.after.active = config ∧
      ∀ m ∈ inner, m.before.active = config ∧ m.after.active = config
  /-- Settings that cannot be built leave the whole session as it was. -/
  unbuilt : ∀ m ∈ moments, ∀ (action : Action) (settings : Settings) (error : ConfigError)
    (outcome : Except Failure Answer), m.event = .acted action outcome →
    settings ∈ action.settings → settings.build = .error error →
    outcome = .error (.config error) ∧ m.after = m.before
  skipped : ∀ m ∈ moments, ∀ settings failure, m.event = .skipped settings failure →
    m.after = m.before
  /-- Lexing, like all other actions, leaves the active configuration alone. -/
  kept : ∀ m ∈ moments, ∀ action outcome, m.event = .acted action outcome →
    (∀ settings, action ≠ .set settings) → action ≠ .reset → m.after.active = m.before.active
  origin : ∀ m ∈ moments, ∀ config, config = m.before.active ∨ config = m.after.active →
    Arises start moments config

namespace Performs

variable {session after : Session} {action : Action} {outcome : Except Failure Answer}

/-- An action whose settings cannot be built says so and does nothing else. -/
theorem eq_of_unbuilt (performs : Performs session action outcome after) {settings : Settings}
    {error : ConfigError} (inside : settings ∈ action.settings)
    (unbuilt : settings.build = .error error) :
    outcome = .error (.config error) ∧ after = session := by
  have notBuilt : ¬ action.IsBuilt := by
    intro isBuilt
    obtain ⟨config, built⟩ := isBuilt settings inside
    rw [unbuilt] at built
    cases built
  cases performs with
  | get => simp [Action.settings] at inside
  | set built =>
      exact absurd (by simpa [Action.IsBuilt, Action.settings] using ⟨_, built⟩) notBuilt
  | reset => simp [Action.settings] at inside
  | make built =>
      exact absurd (by simpa [Action.IsBuilt, Action.settings] using ⟨_, built⟩) notBuilt
  | sameConfig isBuilt => exact absurd isBuilt notBuilt
  | makeLexer isBuilt => exact absurd isBuilt notBuilt
  | @unbuilt _ other error' _ _ =>
      -- There is only one way for settings to be refused.
      cases error
      cases error'
      exact ⟨rfl, rfl⟩
  | ran _ _ => simp [Action.settings] at inside
  | aborted _ _ => simp [Action.settings] at inside
  | unknownLexer _ => simp [Action.settings] at inside
  | textLexed isBuilt _ => exact absurd isBuilt notBuilt
  | textAborted isBuilt _ => exact absurd isBuilt notBuilt
  | sameSequence _ _ => simp [Action.settings] at inside
  | unknownSequence _ _ => simp [Action.settings] at inside

theorem of_get (performs : Performs session .get outcome after) :
    outcome = .ok (.config session.active) := by
  cases performs with
  | get => rfl
  | unbuilt inside _ => simp [Action.settings] at inside

theorem of_set {settings : Settings} {config : Config}
    (performs : Performs session (.set settings) outcome after)
    (built : settings.build = .ok config) :
    outcome = .ok (.config config) ∧ after.active = config := by
  cases performs with
  | set other =>
      cases built.symm.trans other
      exact ⟨rfl, rfl⟩
  | unbuilt inside failed =>
      cases List.mem_singleton.mp inside
      cases built.symm.trans failed

theorem of_reset (performs : Performs session .reset outcome after) : after.active = {} := by
  cases performs with
  | reset => rfl
  | unbuilt inside _ => simp [Action.settings] at inside

theorem active_eq (performs : Performs session action outcome after)
    (notSet : ∀ settings answer, action = .set settings → outcome ≠ .ok answer)
    (notReset : action ≠ .reset) : after.active = session.active := by
  cases performs with
  | set built => exact absurd rfl (notSet _ _ rfl)
  | reset => exact absurd rfl notReset
  | _ => rfl

end Performs

namespace Occurs

variable {event : Event} {session after : Session}

/-- Without a switch the active configuration stays. -/
theorem active_eq (occurs : Occurs event session after) (steady : ¬ event.Switches) :
    after.active = session.active := by
  cases occurs with
  | acted performs =>
      refine performs.active_eq ?_ ?_
      · rintro settings answer rfl rfl
        exact steady trivial
      · rintro rfl
        exact steady trivial
  | entered built => exact absurd trivial steady
  | skipped unbuilt => rfl
  | left config => exact absurd trivial steady

theorem eq_of_skipped {settings : Settings} {failure : Failure}
    (occurs : Occurs (.skipped settings failure) session after) : after = session := by
  cases occurs with
  | skipped unbuilt => rfl

theorem active_of_entered {settings : Settings} {config : Config}
    (occurs : Occurs (.entered settings config) session after) :
    settings.build = .ok config ∧ after.active = config := by
  cases occurs with
  | entered built => exact ⟨built, rfl⟩

/-- A configuration that an event has made active is the standard one, or is
built from the event's settings. -/
theorem active_of_isPlain (occurs : Occurs event session after) (isPlain : event.IsPlain) :
    after.active = session.active ∨ after.active = {} ∨
      ∃ settings, event.activated? = some settings ∧ settings.build = .ok after.active := by
  cases occurs with
  | acted performs =>
      cases performs with
      | set built => exact .inr (.inr ⟨_, rfl, built⟩)
      | reset => exact .inr (.inl rfl)
      | _ => exact .inl rfl
  | entered built => exact isPlain.elim
  | skipped unbuilt => exact .inl rfl
  | left config => exact isPlain.elim

end Occurs

namespace Path

variable {session final : Session} {moments : List Moment}

theorem linked (path : Path session moments final) : Linked session moments final := by
  induction path with
  | nil => rfl
  | cons occurs rest inductionHypothesis => exact ⟨rfl, inductionHypothesis⟩

theorem active_of_steady (path : Path session moments final)
    (steady : ∀ m ∈ moments, ¬ m.event.Switches) :
    ∀ m ∈ moments, m.before.active = session.active ∧ m.after.active = session.active := by
  induction path with
  | nil => simp
  | cons occurs rest inductionHypothesis =>
      rw [List.forall_mem_cons] at steady ⊢
      have same := occurs.active_eq steady.1
      rw [same] at inductionHypothesis
      exact ⟨⟨rfl, same⟩, inductionHypothesis steady.2⟩

/-- What holds of the configurations at the start, of the standard one and of
those that are built on the way, holds of every configuration that is ever active. -/
theorem forall_active {P : Config → Prop} (standard : P {}) {waiting rest : List Config}
    (path : Path session moments final) (nested : Nested waiting moments rest)
    (initial : ∀ config ∈ session.active :: waiting, P config)
    (activated : ∀ m ∈ moments, ∀ settings config, m.event.activated? = some settings →
      settings.build = .ok config → P config) :
    ∀ m ∈ moments, P m.before.active ∧ P m.after.active := by
  induction path generalizing waiting with
  | nil => simp
  | @cons event session next final moments occurs path inductionHypothesis =>
      rw [List.forall_mem_cons] at initial activated ⊢
      -- Where a block ends, the configuration that becomes active is one of those that wait.
      cases nested with
      | plain isPlain nested =>
          have reached : P next.active := by
            rcases occurs.active_of_isPlain isPlain with same | standardAgain | ⟨_, isSet, built⟩
            · rw [same]
              exact initial.1
            · rw [standardAgain]
              exact standard
            · exact activated.1 _ _ isSet built
          refine ⟨⟨initial.1, reached⟩, inductionHypothesis nested ?_ activated.2⟩
          exact List.forall_mem_cons.mpr ⟨reached, initial.2⟩
      | entered isEntered nested =>
          cases isEntered
          obtain ⟨built, rfl⟩ := occurs.active_of_entered
          have reached := activated.1 _ _ rfl built
          refine ⟨⟨initial.1, reached⟩, inductionHypothesis nested ?_ activated.2⟩
          exact List.forall_mem_cons.mpr ⟨reached, List.forall_mem_cons.mpr initial⟩
      | left isLeft nested =>
          rw [List.forall_mem_cons] at initial
          refine ⟨⟨initial.1, initial.2.1⟩, inductionHypothesis nested ?_ activated.2⟩
          exact List.forall_mem_cons.mpr initial.2

end Path

/-- Where no more configurations wait in the end than waited before a block was
entered, the block has been left. -/
theorem Nested.exists_exit {moments : List Moment} {config : Config}
    {waiting final : List Config} (nested : Nested (config :: waiting) moments final)
    (fewer : final.length ≤ waiting.length) :
    ∃ inner exit later failure, moments = inner ++ exit :: later ∧ Balanced inner ∧
      exit.event = .left failure ∧ exit.after.active = config ∧ Nested waiting later final := by
  induction size : moments.length using Nat.strongRecOn
    generalizing moments config waiting with
  | ind n inductionHypothesis =>
      subst size
      cases nested with
      | nil =>
          simp only [List.length_cons] at fewer
          omega
      | @plain _ _ m moments isPlain nested =>
          obtain ⟨inner, exit, later, failure, rfl, balanced, isLeft, restored, rest⟩ :=
            inductionHypothesis moments.length (by simp) nested fewer rfl
          exact ⟨m :: inner, exit, later, failure, rfl, .plain isPlain balanced, isLeft, restored,
            rest⟩
      | @entered _ _ m moments settings entered isEntered nested =>
          -- The inner block is left first, and what follows it leaves the outer one.
          obtain ⟨inner, exit, later, failure, rfl, balanced, isLeft, -, rest⟩ :=
            inductionHypothesis moments.length (by simp) nested
              (by simp only [List.length_cons]; omega) rfl
          obtain ⟨inner', exit', later', failure', rfl, balanced', isLeft', restored, rest'⟩ :=
            inductionHypothesis later.length (by simp; omega) rest fewer rfl
          refine ⟨m :: (inner ++ exit :: inner'), exit', later', failure', ?_,
            .block isEntered isLeft balanced balanced', isLeft', restored, rest'⟩
          simp
      | @left _ _ m moments failure isLeft nested =>
          exact ⟨[], m, moments, failure, rfl, .nil, isLeft, rfl, nested⟩

theorem Arises.of_activated {start : Session} {moments : List Moment} {m : Moment}
    (inside : m ∈ moments) {settings : Settings} {config : Config}
    (activates : m.event.activated? = some settings)
    (built : settings.build = .ok config) : Arises start moments config := by
  have length := Settings.previewLength_of_build built
  have nonnegative : 0 ≤ settings.previewLength.getD 15 := by
    rw [← length]
    exact Int.natCast_nonneg _
  have listed : settings ∈ moments.filterMap (·.event.activated?) :=
    List.mem_filterMap.mpr ⟨m, inside, activates⟩
  exact .inr (.inr ⟨settings, listed, built, nonnegative, length⟩)

namespace Coherent

variable {start final : Session} {moments : List Moment}

theorem restored (coherent : Coherent start moments final) {earlier later : List Moment}
    {entry : Moment} {settings : Settings} {config : Config}
    (split : moments = earlier ++ entry :: later)
    (isEntered : entry.event = .entered settings config) :
    ∃ inner exit rest failure, later = inner ++ exit :: rest ∧ Balanced inner ∧
      exit.event = .left failure ∧ exit.after.active = entry.before.active := by
  have nested := coherent.nested []
  rw [split] at nested
  obtain ⟨between, -, nested⟩ := nested.cut
  cases nested with
  | plain isPlain rest =>
      rw [isEntered] at isPlain
      exact isPlain.elim
  | entered _ rest =>
      obtain ⟨inner, exit, later, failure, rfl, balanced, isLeft, restored, -⟩ :=
        rest.exists_exit (Nat.zero_le _)
      exact ⟨inner, exit, later, failure, rfl, balanced, isLeft, restored⟩
  | left isLeft rest =>
      rw [isEntered] at isLeft
      cases isLeft

theorem governed (coherent : Coherent start moments final) {earlier inner later : List Moment}
    {entry : Moment} {settings : Settings} {config : Config}
    (split : moments = earlier ++ entry :: (inner ++ later))
    (isEntered : entry.event = .entered settings config)
    (steady : ∀ m ∈ inner, ¬ m.event.Switches) :
    settings.build = .ok config ∧ entry.after.active = config ∧
      ∀ m ∈ inner, m.before.active = config ∧ m.after.active = config := by
  have path := coherent.path
  rw [split] at path
  obtain ⟨-, occurs, rest⟩ := path.cut
  rw [isEntered] at occurs
  obtain ⟨built, isActive⟩ := occurs.active_of_entered
  obtain ⟨between, inside⟩ := rest.left_of_append
  have stays := inside.active_of_steady steady
  rw [isActive] at stays
  exact ⟨built, isActive, stays⟩

theorem origin (coherent : Coherent start moments final) {m : Moment} (inside : m ∈ moments)
    {config : Config} (isActive : config = m.before.active ∨ config = m.after.active) :
    Arises start moments config := by
  have initial : ∀ config ∈ [start.active], Arises start moments config := by
    intro config isStart
    exact .inl (List.mem_singleton.mp isStart)
  have arises := coherent.path.forall_active (.inr (.inl rfl)) (coherent.nested []) initial
    (fun _ activating _ _ => .of_activated activating) m inside
  rcases isActive with rfl | rfl
  · exact arises.1
  · exact arises.2

theorem isScoped (coherent : Coherent start moments final) : Scoped start moments final where
  linked := coherent.path.linked
  got := by
    intro m inside outcome isActed
    exact (coherent.path.performs_of_mem inside isActed).of_get
  set := by
    intro m inside settings config outcome isActed built
    exact (coherent.path.performs_of_mem inside isActed).of_set built
  reset := by
    intro m inside outcome isActed
    exact (coherent.path.performs_of_mem inside isActed).of_reset
  restored := by
    intro earlier later entry settings config split isEntered
    exact coherent.restored split isEntered
  governed := by
    intro earlier inner later entry settings config split isEntered steady
    exact coherent.governed split isEntered steady
  unbuilt := by
    intro m inside action settings error outcome isActed given failed
    exact (coherent.path.performs_of_mem inside isActed).eq_of_unbuilt given failed
  skipped := by
    intro m inside settings failure isSkipped
    have occurs := coherent.path.occurs_of_mem inside
    rw [isSkipped] at occurs
    exact occurs.eq_of_skipped
  kept := by
    intro m inside action outcome isActed notSet notReset
    refine (coherent.path.performs_of_mem inside isActed).active_eq ?_ notReset
    intro settings answer isSet
    exact absurd isSet (notSet settings)
  origin := by
    intro m inside config isActive
    exact coherent.origin inside isActive

end Coherent

/-- In every program the events are those of its steps, and the active
configuration follows the blocks, whatever is set, reset or raised inside them. -/
theorem history_scoped (session : Session) (program : List Step) :
    ProgramYields program ((session.history program).1.map Moment.event) ∧
      Scoped session (session.history program).1 (session.history program).2 := by
  obtain ⟨coherent, yields⟩ := session.history_coherent program
  exact ⟨yields, coherent.isScoped⟩

end Session

end LexicalPass
