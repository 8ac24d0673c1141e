import LexicalPass.Lexer

/-!
Sessions: programs that change the active configuration, make lexers and run
them.  A lexer without a configuration of its own reads the active one each
time it runs.  A block has a configuration of its own, and however the block is
left, the one from before is active again.
-/

set_option autoImplicit false

namespace LexicalPass

structure Session where
  active : Config := {}
  lexers : List (String × Lexer) := []
  /-- All sequences that passes have written to, by their numbers. -/
  sequences : Array TokenSequence := #[]
  saved : List (String × Nat) := []
deriving DecidableEq, Repr

namespace Session

inductive Action where
  | get
  | set (settings : Settings)
  | reset
  | make (settings : Settings)
  | sameConfig (left right : Option Settings)
  | makeLexer (id source : String) (name : CodePoints) (settings : Option Settings)
  | runLexer (id : String) (save : String)
  | lexText (source : String) (settings : Option Settings)
  | sameSequence (left right : String)
deriving DecidableEq, Repr

inductive Failure where
  | config (error : ConfigError)
  | pass (fault : Fault)
  | unknown (name : String)
deriving DecidableEq, Repr

def Failure.message : Failure → CodePoints
  | config error => error.message
  | pass fault => fault.message
  | unknown name => Text.quote name

inductive Answer where
  | config (config : Config)
  | truth (holds : Bool)
  | name (name : CodePoints)
  | sequence (sequence : TokenSequence)
deriving DecidableEq, Repr

def buildConfig (settings : Settings) : Except Failure Config :=
  settings.build.mapError .config

/-- Without settings there is no configuration to build. -/
def buildExplicit : Option Settings → Except Failure (Option Config)
  | none => .ok none
  | some settings => (buildConfig settings).map some

/-- What was saved last under a name, as it is now. -/
def saved? (session : Session) (name : String) : Option TokenSequence :=
  (session.saved.lookup name).bind (session.sequences[·]?)

/-- Only a pass that fails has changed the session. -/
def perform (session : Session) : Action → Except Failure Answer × Session
  | .get => (.ok (.config session.active), session)
  | .set settings =>
      match buildConfig settings with
      | .ok config => (.ok (.config config), { session with active := config })
      | .error failure => (.error failure, session)
  | .reset => (.ok (.config {}), { session with active := {} })
  | .make settings =>
      match buildConfig settings with
      | .ok config => (.ok (.config config), session)
      | .error failure => (.error failure, session)
  | .sameConfig left right =>
      match buildExplicit left, buildExplicit right with
      | .ok left, .ok right => (.ok (.truth (left = right)), session)
      | .error failure, _ => (.error failure, session)
      | _, .error failure => (.error failure, session)
  | .makeLexer id source name settings =>
      match buildExplicit settings with
      | .ok config =>
          (.ok (.name name), { session with
            lexers := (id, .make session.active source name config) :: session.lexers })
      | .error failure => (.error failure, session)
  | .runLexer id save =>
      match session.lexers.lookup id with
      | none => (.error (.unknown id), session)
      | some lexer =>
          let result := lexer.run session.active session.sequences
          let after := { session with
            lexers := (id, result.lexer) :: session.lexers
            sequences := result.sequences }
          match result.outcome with
          | .ok handed =>
              (.ok (.sequence handed.sequence),
                { after with saved := (save, handed.number) :: session.saved })
          | .error fault => (.error (.pass fault), after)
  | .lexText source settings =>
      match buildExplicit settings with
      | .error failure => (.error failure, session)
      | .ok config =>
          let lexer := Lexer.make session.active source "<string>" config
          let result := lexer.run session.active session.sequences
          let after := { session with sequences := result.sequences }
          match result.outcome with
          | .ok handed => (.ok (.sequence handed.sequence), after)
          | .error fault => (.error (.pass fault), after)
  | .sameSequence left right =>
      match session.saved? left, session.saved? right with
      | some left, some right => (.ok (.truth (decide (left.Agrees right))), session)
      | none, _ => (.error (.unknown left), session)
      | _, none => (.error (.unknown right), session)

/-- An action that fails either is done with or, if it propagates, leaves the
block that it stands in.  A block that propagates lets such a failure on to the
block around it, and likewise the failure of its own configuration, which leaves
it skipped. -/
inductive Step where
  | act (action : Action) (propagate : Bool)
  | within (settings : Settings) (body : List Step) (propagate : Bool)

inductive Event where
  | acted (action : Action) (outcome : Except Failure Answer)
  | entered (settings : Settings) (config : Config)
  | skipped (settings : Settings) (failure : Failure)
  /-- A block was left, by a failure or at its end. -/
  | left (failure : Option Failure)
deriving Repr

/-- An event with the session right before and right after it. -/
structure Moment where
  event : Event
  before : Session
  after : Session
deriving Repr

structure Trace where
  moments : List Moment
  raised : Option Failure
  session : Session
deriving Repr

mutual

def Step.run : Step → Session → Trace
  | .act action propagate, session =>
      match session.perform action with
      | (.ok answer, after) => ⟨[⟨.acted action (.ok answer), session, after⟩], none, after⟩
      | (.error failure, after) => {
          moments := [⟨.acted action (.error failure), session, after⟩]
          raised := if propagate then some failure else none
          session := after }
  | .within settings body propagate, session =>
      match buildConfig settings with
      | .error failure => {
          moments := [⟨.skipped settings failure, session, session⟩]
          raised := if propagate then some failure else none
          session }
      | .ok config =>
          let inside := { session with active := config }
          let inner := Step.runAll body inside
          let outside := { inner.session with active := session.active }
          { moments := ⟨.entered settings config, session, inside⟩ ::
              inner.moments ++ [⟨.left inner.raised, inner.session, outside⟩]
            raised := if propagate then inner.raised else none
            session := outside }

/-- Run the steps of a block until one of them leaves it. -/
def Step.runAll : List Step → Session → Trace
  | [], session => ⟨[], none, session⟩
  | step :: steps, session =>
      let trace := step.run session
      match trace.raised with
      | some _ => trace
      | none =>
          let later := Step.runAll steps trace.session
          { later with moments := trace.moments ++ later.moments }

end

/-- All that happens in a program, and the session after it.  Outside of all
blocks there is nothing to leave, so every step is run. -/
def history (session : Session) : List Step → List Moment × Session
  | [] => ([], session)
  | step :: steps =>
      let trace := step.run session
      let (moments, final) := history trace.session steps
      (trace.moments ++ moments, final)

/-- What is told of a moment. -/
inductive Report where
  | answered (answer : Answer)
  | failed (failure : Failure)
  | left (failure : Option Failure) (active : Config)
deriving DecidableEq, Repr

def Moment.report (moment : Moment) : Report :=
  match moment.event with
  | .acted _ (.ok answer) => .answered answer
  | .acted _ (.error failure) => .failed failure
  | .entered _ config => .answered (.config config)
  | .skipped _ failure => .failed failure
  | .left failure => .left failure moment.after.active

def runProgram (session : Session) (steps : List Step) : List Report × Session :=
  let (moments, final) := session.history steps
  (moments.map Moment.report, final)

end Session

end LexicalPass
