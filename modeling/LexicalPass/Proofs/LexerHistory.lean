import LexicalPass.Proofs.QuoteBalance
import LexicalPass.Proofs.SessionHistory

/-!
Lexers in the history of a session.  What a lexer answers follows from what it
was made of and from the configuration that is active when it is run; what was
run before, on this lexer or another, and how it ended, has no say.  A sequence
that was handed over stays as it was.
-/

set_option autoImplicit false

namespace LexicalPass.Session

/-- What a lexer is made of. -/
structure Made where
  source : String
  name : CodePoints
  config : Option Config

/-- The lexer that an event makes under an identifier. -/
def Event.made? (id : String) : Event → Option Made
  | .acted (.makeLexer other source name settings) (.ok _) =>
      if other = id then some ⟨source, name, explicit settings⟩ else none
  | _ => none

/-- The latest lexer that was made under an identifier. -/
def lastMade? (id : String) (moments : List Moment) : Option Made :=
  (moments.filterMap (·.event.made? id)).getLast?

/-- The answer to a request for lexing. -/
def lexed : Except Fault TokenSequence → Except Failure Answer
  | .ok sequence => .ok (.sequence sequence)
  | .error fault => .error (.pass fault)

/-- The answer to running a lexer, by what it was made of, if it was made at all:
its own configuration counts before the active one. -/
def runAnswer (id : String) (active : Config) : Option Made → Except Failure Answer
  | none => .error (.unknown id)
  | some made => lexed (tokenize (made.config.getD active) made.name made.source)

/-- What a history says of lexers and their sequences. -/
structure Independent (moments : List Moment) (final : Session) : Prop where
  /-- A lexer answers as lexing its source does, under its own configuration or
  else under the one that is active when it is run. -/
  lexers : ∀ (earlier later : List Moment) (m : Moment) (id save : String)
    (outcome : Except Failure Answer), moments = earlier ++ m :: later →
    m.event = .acted (.runLexer id save) outcome →
    outcome = runAnswer id m.before.active (lastMade? id earlier)
  texts : ∀ m ∈ moments, ∀ (source : String) (settings : Option Settings)
    (outcome : Except Failure Answer), m.event = .acted (.lexText source settings) outcome →
    (Action.lexText source settings).IsBuilt →
    outcome = lexed (tokenize ((explicit settings).getD m.before.active) "<string>" source)
  /-- A lexer that is run again under the same configuration answers the same. -/
  repeated : ∀ (earlier between later : List Moment) (m again : Moment)
    (id save saveAgain : String) (outcome outcomeAgain : Except Failure Answer),
    moments = earlier ++ m :: (between ++ again :: later) →
    m.event = .acted (.runLexer id save) outcome →
    again.event = .acted (.runLexer id saveAgain) outcomeAgain →
    (∀ other ∈ between, other.event.made? id = none) →
    (m.before.active = again.before.active ∨
      ∃ made config, lastMade? id earlier = some made ∧ made.config = some config) →
    outcomeAgain = outcome
  /-- A sequence that was handed over is closed and is never written to again. -/
  handed : ∀ (earlier later : List Moment) (m : Moment) (action : Action)
    (sequence : TokenSequence), moments = earlier ++ m :: later →
    m.event = .acted action (.ok (.sequence sequence)) →
    sequence.isClosed = true ∧
      (∀ other ∈ m :: later,
        other.after.sequences[m.before.sequences.size]? = some sequence) ∧
      final.sequences[m.before.sequences.size]? = some sequence

theorem lastMade?_append (id : String) (earlier later : List Moment) :
    lastMade? id (earlier ++ later) = (lastMade? id later).or (lastMade? id earlier) := by
  simp only [lastMade?, List.filterMap_append, List.getLast?_append]

theorem lastMade?_of_none {id : String} {moments : List Moment}
    (unmade : ∀ m ∈ moments, m.event.made? id = none) : lastMade? id moments = none := by
  rw [lastMade?, List.filterMap_eq_nil_iff.mpr unmade]
  rfl

/-- What a lexer was made of, whatever its passes have made of it since. -/
def madeOf (lexer : Lexer) : Made := ⟨lexer.source, lexer.name, lexer.config⟩

/-- The lexers that a session has under their identifiers. -/
def madeIn? (session : Session) (id : String) : Option Made :=
  (session.lexers.lookup id).map madeOf

namespace Performs

variable {session after : Session} {action : Action} {outcome : Except Failure Answer}

theorem made_eq (performs : Performs session action outcome after) (id : String) :
    after.madeIn? id = ((Event.acted action outcome).made? id).or (session.madeIn? id) := by
  -- A lexer that is run is put back under its identifier, made of the same.
  have putBack {other : String} {lexer : Lexer}
      (found : session.lexers.lookup other = some lexer) :
      (((other, lexer.rested session.active) :: session.lexers).lookup id).map madeOf =
        (session.lexers.lookup id).map madeOf := by
    by_cases same : id = other
    · rw [same, List.lookup_cons_self, found]
      rfl
    · rw [List.lookup_cons, beq_false_of_ne same]
  cases performs with
  | @makeLexer other source name settings isBuilt =>
      by_cases same : other = id
      · simp [madeIn?, Event.made?, same, Lexer.make, madeOf]
      · simp [madeIn?, Event.made?, same, List.lookup_cons, beq_false_of_ne (Ne.symm same)]
  | ran found done => simpa [madeIn?, Event.made?] using putBack found
  | aborted found failed => simpa [madeIn?, Event.made?] using putBack found
  | _ => simp [madeIn?, Event.made?]

/-- Actions add sequences and change none. -/
theorem sequences_keep (performs : Performs session action outcome after) {number : Nat}
    {sequence : TokenSequence} (present : session.sequences[number]? = some sequence) :
    after.sequences[number]? = some sequence := by
  obtain ⟨inside, _⟩ := Array.getElem?_eq_some_iff.mp present
  have pushed (added : TokenSequence) :
      (session.sequences.push added)[number]? = some sequence := by
    rw [Array.getElem?_push, if_neg (Nat.ne_of_lt inside), present]
  cases performs with
  | ran found done => exact pushed _
  | aborted found failed => exact pushed _
  | textLexed isBuilt done => exact pushed _
  | textAborted isBuilt failed => exact pushed _
  | _ => exact present

theorem sequence_handed {sequence : TokenSequence}
    (performs : Performs session action (.ok (.sequence sequence)) after) :
    sequence.isClosed = true ∧ after.sequences[session.sequences.size]? = some sequence := by
  cases performs with
  | ran found done =>
      obtain ⟨-, rfl⟩ := of_tokenize_ok done
      exact ⟨rfl, Array.getElem?_push_size⟩
  | textLexed isBuilt done =>
      obtain ⟨-, rfl⟩ := of_tokenize_ok done
      exact ⟨rfl, Array.getElem?_push_size⟩

theorem of_runLexer {id save : String}
    (performs : Performs session (.runLexer id save) outcome after) :
    outcome = runAnswer id session.active (session.madeIn? id) := by
  cases performs with
  | unbuilt inside _ => simp [Action.settings] at inside
  | ran found done => simp [madeIn?, found, madeOf, runAnswer, done, lexed]
  | aborted found failed => simp [madeIn?, found, madeOf, runAnswer, failed, lexed]
  | unknownLexer missing => simp [madeIn?, missing, runAnswer]

theorem of_lexText {source : String} {settings : Option Settings}
    (performs : Performs session (.lexText source settings) outcome after)
    (isBuilt : (Action.lexText source settings).IsBuilt) :
    outcome = lexed (tokenize ((explicit settings).getD session.active) "<string>" source) := by
  cases performs with
  | unbuilt inside failed =>
      obtain ⟨config, built⟩ := isBuilt _ inside
      cases built.symm.trans failed
  | textLexed _ done => rw [done, lexed]
  | textAborted _ failed => rw [failed, lexed]

end Performs

namespace Occurs

variable {event : Event} {session after : Session}

theorem made_eq (occurs : Occurs event session after) (id : String) :
    after.madeIn? id = (event.made? id).or (session.madeIn? id) := by
  cases occurs with
  | acted performs => exact performs.made_eq id
  | _ => rfl

theorem sequences_keep (occurs : Occurs event session after) {number : Nat}
    {sequence : TokenSequence} (present : session.sequences[number]? = some sequence) :
    after.sequences[number]? = some sequence := by
  cases occurs with
  | acted performs => exact performs.sequences_keep present
  | _ => exact present

end Occurs

namespace Path

variable {session final : Session} {moments : List Moment}

theorem made_eq (path : Path session moments final) (id : String) :
    final.madeIn? id = (lastMade? id moments).or (session.madeIn? id) := by
  induction path with
  | nil => rfl
  | @cons event session next final moments occurs rest inductionHypothesis =>
      have split : ⟨event, session, next⟩ :: moments = [⟨event, session, next⟩] ++ moments := rfl
      have first : lastMade? id [⟨event, session, next⟩] = event.made? id := by
        cases made : event.made? id <;> simp [lastMade?, made]
      rw [inductionHypothesis, occurs.made_eq, split, lastMade?_append, first, Option.or_assoc]

theorem sequences_keep (path : Path session moments final) {number : Nat}
    {sequence : TokenSequence} (present : session.sequences[number]? = some sequence) :
    (∀ m ∈ moments, m.after.sequences[number]? = some sequence) ∧
      final.sequences[number]? = some sequence := by
  induction path with
  | nil => exact ⟨by simp, present⟩
  | cons occurs rest inductionHypothesis =>
      have kept := occurs.sequences_keep present
      obtain ⟨along, atEnd⟩ := inductionHypothesis kept
      exact ⟨List.forall_mem_cons.mpr ⟨kept, along⟩, atEnd⟩

end Path

section Fresh

variable {start final : Session} {moments : List Moment}

theorem outcome_of_runLexer (fresh : start.lexers = []) (path : Path start moments final)
    {earlier later : List Moment} {m : Moment} {id save : String}
    {outcome : Except Failure Answer} (split : moments = earlier ++ m :: later)
    (isRun : m.event = .acted (.runLexer id save) outcome) :
    outcome = runAnswer id m.before.active (lastMade? id earlier) := by
  have performs : Performs m.before (.runLexer id save) outcome m.after := by
    refine path.performs_of_mem ?_ isRun
    rw [split]
    exact List.mem_append_right _ List.mem_cons_self
  rw [split] at path
  have known : m.before.madeIn? id = lastMade? id earlier := by
    rw [path.cut.1.made_eq id, madeIn?, fresh, List.lookup_nil, Option.map_none, Option.or_none]
  rw [← known]
  exact performs.of_runLexer

/-- Neither a run of a lexer nor what leaves the lexer alone changes what it is
made of. -/
theorem lastMade?_of_unmade {id save : String} {outcome : Except Failure Answer}
    {earlier between : List Moment} {m : Moment}
    (isRun : m.event = .acted (.runLexer id save) outcome)
    (unmade : ∀ other ∈ between, other.event.made? id = none) :
    lastMade? id (earlier ++ m :: between) = lastMade? id earlier := by
  have unmadeSince : lastMade? id (m :: between) = none := by
    refine lastMade?_of_none (List.forall_mem_cons.mpr ⟨?_, unmade⟩)
    rw [isRun]
    rfl
  rw [lastMade?_append, unmadeSince, Option.none_or]

theorem outcome_of_repeated (fresh : start.lexers = []) (path : Path start moments final)
    {earlier between later : List Moment} {m again : Moment} {id save saveAgain : String}
    {outcome outcomeAgain : Except Failure Answer}
    (split : moments = earlier ++ m :: (between ++ again :: later))
    (isRun : m.event = .acted (.runLexer id save) outcome)
    (isAgain : again.event = .acted (.runLexer id saveAgain) outcomeAgain)
    (unmade : ∀ other ∈ between, other.event.made? id = none)
    (same : m.before.active = again.before.active ∨
      ∃ made config, lastMade? id earlier = some made ∧ made.config = some config) :
    outcomeAgain = outcome := by
  have splitAgain : moments = (earlier ++ m :: between) ++ again :: later := by simpa using split
  have first := outcome_of_runLexer fresh path split isRun
  have second := outcome_of_runLexer fresh path splitAgain isAgain
  rw [lastMade?_of_unmade isRun unmade] at second
  rcases same with sameActive | ⟨made, config, isMade, isOwn⟩
  · rw [first, second, sameActive]
  · rw [first, second, isMade]
    simp only [runAnswer, isOwn, Option.getD_some]

theorem independent_of_path (fresh : start.lexers = []) (path : Path start moments final) :
    Independent moments final where
  lexers := by
    intro earlier later m id save outcome split isRun
    exact outcome_of_runLexer fresh path split isRun
  texts := by
    intro m inside source settings outcome isText isBuilt
    exact (path.performs_of_mem inside isText).of_lexText isBuilt
  repeated := by
    intro earlier between later m again id save saveAgain outcome outcomeAgain split isRun isAgain
    exact outcome_of_repeated fresh path split isRun isAgain
  handed := by
    intro earlier later m action sequence split isHanded
    have inside : m ∈ moments := by
      rw [split]
      exact List.mem_append_right _ List.mem_cons_self
    obtain ⟨isClosed, present⟩ := (path.performs_of_mem inside isHanded).sequence_handed
    rw [split] at path
    obtain ⟨along, atEnd⟩ := path.cut.2.2.sequences_keep present
    exact ⟨isClosed, List.forall_mem_cons.mpr ⟨present, along⟩, atEnd⟩

end Fresh

/-- In every session the lexers answer as lexing their sources does, again and
again, and the sequences that they have handed over stay as they were. -/
theorem history_independent (active : Config) (program : List Step) :
    ProgramYields program ((history { active } program).1.map Moment.event) ∧
      Independent (history { active } program).1 (history { active } program).2 := by
  obtain ⟨coherent, yields⟩ := history_coherent { active } program
  exact ⟨yields, independent_of_path rfl coherent.path⟩

end LexicalPass.Session
