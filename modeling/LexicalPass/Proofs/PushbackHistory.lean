import LexicalPass.Proofs.CursorTrace
import Mathlib.Data.List.Induction

/-!
Which character a cursor takes back, told from what was done on it.  All calls are
made of two deeds, handing out a character and taking one back, and what a cursor
remembers is the latest character that was handed out and not taken back since.
-/

set_option autoImplicit false

namespace LexicalPass.Cursor

/-- What is done on a cursor, and what comes of it. -/
inductive Deed where
  | handOut (result : Option Char)
  | takeBack (text : Option String) (accepted : Bool)
deriving DecidableEq, Repr

def Deed.IsHandOut : Deed → Prop
  | handOut _ => True
  | takeBack _ _ => False

/-- A character has gone back.  Taking back the end of the text moves nothing. -/
def Deed.TakesBack : Deed → Prop
  | takeBack (some _) true => True
  | _ => False

/-- Looking ahead is handing out the next character and taking it back. -/
def lookAhead (c : Cursor) : List Deed :=
  let (ch, next) := c.advance
  let text := ch.map String.singleton
  [.handOut ch, .takeBack text (next.pushback text).isOk]

/-- The deeds that a call is made of. -/
def deeds (c : Cursor) : Call → List Deed
  | .advance => [.handOut c.advance.1]
  | .peek => c.lookAhead
  | .atEnd => c.lookAhead
  | .pushback text => [.takeBack text (c.pushback text).isOk]
  | .drain => c.drain.1.map (fun (ch, _) => .handOut (some ch)) ++ [.handOut none]

/-- All that calls do on a cursor, one after the other. -/
def history (c : Cursor) : List Call → List Deed
  | [] => []
  | call :: calls => c.deeds call ++ (c.perform call).2.history calls

/-- Of all that was done, a character was last asked for with this result, and the
deeds `since` followed. -/
structure LatestHandOut (done : List Deed) (result : Option Char) (since : List Deed) : Prop where
  split : ∃ before, done = before ++ .handOut result :: since
  latest : ∀ deed ∈ since, ¬ deed.IsHandOut

/-- The character last asked for is this one, and it has not been taken back since. -/
def HandedOutLast (done : List Deed) (ch : Char) : Prop :=
  ∃ since, LatestHandOut done (some ch) since ∧ ∀ deed ∈ since, ¬ deed.TakesBack

/-- When a character was last asked for, the text was at its end. -/
def EndedLast (done : List Deed) : Prop := ∃ since, LatestHandOut done none since

/-- A deed that hands out no character and takes none back.  The text may have been
found at its end. -/
def Deed.IsIdle : Deed → Prop
  | handOut (some _) => False
  | takeBack (some _) true => False
  | _ => True

/-- This character was handed out, and since then no other was and none was taken back.
Whether the text has been found at its end in between does not count. -/
def Outstanding (done : List Deed) (ch : Char) : Prop :=
  ∃ before since, done = before ++ .handOut (some ch) :: since ∧ ∀ deed ∈ since, deed.IsIdle

/-- What a deed leaves of the character that is remembered. -/
def remember (kept : Option Char) : Deed → Option Char
  | .handOut (some ch) => some ch
  | .handOut none => kept
  | .takeBack (some _) true => none
  | .takeBack _ _ => kept

section Remember

variable {done : List Deed} {deed : Deed}

/-- Behind the latest there is no other. -/
theorem LatestHandOut.result_eq {result result' : Option Char} {since since' : List Deed}
    (latest : LatestHandOut done result since) (latest' : LatestHandOut done result' since') :
    result = result' := by
  obtain ⟨before, rfl⟩ := latest.split
  obtain ⟨before', same⟩ := latest'.split
  rcases List.append_eq_append_iff.mp same with
    ⟨_ | ⟨_, between⟩, -, tail⟩ | ⟨_ | ⟨_, between⟩, -, tail⟩
  · cases tail
    rfl
  · obtain ⟨-, rfl⟩ := List.cons.inj tail
    exact absurd trivial (latest.latest (.handOut result') (by simp))
  · cases tail
    rfl
  · obtain ⟨-, rfl⟩ := List.cons.inj tail
    exact absurd trivial (latest'.latest (.handOut result) (by simp))

theorem HandedOutLast.not_endedLast {ch : Char} (last : HandedOutLast done ch) :
    ¬ EndedLast done := by
  rintro ⟨_, ended⟩
  obtain ⟨_, latest, -⟩ := last
  cases latest.result_eq ended

theorem HandedOutLast.unique {ch ch' : Char} (last : HandedOutLast done ch)
    (last' : HandedOutLast done ch') : ch = ch' := by
  obtain ⟨_, latest, -⟩ := last
  obtain ⟨_, latest', -⟩ := last'
  exact Option.some.inj (latest.result_eq latest')

theorem HandedOutLast.outstanding {ch : Char} (last : HandedOutLast done ch) :
    Outstanding done ch := by
  obtain ⟨since, ⟨⟨before, split⟩, latest⟩, unreturned⟩ := last
  refine ⟨before, since, split, ?_⟩
  intro deed inside
  match deed, latest deed inside, unreturned deed inside with
  | .handOut _, other, _ => exact absurd trivial other
  | .takeBack none _, _, _ => trivial
  | .takeBack (some _) false, _, _ => trivial
  | .takeBack (some _) true, _, keeps => exact absurd trivial keeps

theorem exists_latestHandOut (since : List Deed) :
    (∀ deed ∈ since, ¬ deed.IsHandOut) ∨ ∃ result after, LatestHandOut since result after := by
  -- The induction takes deeds off the end, where the latest of them stand.
  induction since using List.reverseRecOn with
  | nil => exact .inl (by simp)
  | append_singleton since deed inductionHypothesis =>
      by_cases isHandOut : deed.IsHandOut
      · match deed with
        | .handOut result => exact .inr ⟨result, [], ⟨since, rfl⟩, by simp⟩
      · have ofEither {after : List Deed} (others : ∀ d ∈ after, ¬ d.IsHandOut) :
            ∀ d ∈ after ++ [deed], ¬ d.IsHandOut := by
          simpa [or_imp, forall_and] using ⟨others, isHandOut⟩
        rcases inductionHypothesis with none | ⟨result, after, ⟨before, rfl⟩, others⟩
        · exact .inl (ofEither none)
        · exact .inr ⟨result, after ++ [deed], ⟨before, by simp⟩, ofEither others⟩

/-- Only the end of the text can have been asked for behind an outstanding character. -/
theorem Outstanding.handedOutLast {ch : Char} (out : Outstanding done ch)
    (inside : ¬ EndedLast done) : HandedOutLast done ch := by
  obtain ⟨before, since, rfl, idle⟩ := out
  rcases exists_latestHandOut since with others | ⟨result, after, ⟨between, rfl⟩, others⟩
  · refine ⟨since, ⟨⟨before, rfl⟩, others⟩, ?_⟩
    intro deed isDeed takesBack
    match deed, idle deed isDeed with
    | .takeBack (some _) false, _ => exact takesBack
  · have isIdle := idle (.handOut result) (by simp)
    cases result with
    | some _ => exact isIdle.elim
    | none =>
        have split : before ++ .handOut (some ch) :: (between ++ .handOut none :: after) =
            (before ++ .handOut (some ch) :: between) ++ .handOut none :: after := by
          simp
        exact absurd ⟨after, ⟨_, split⟩, others⟩ inside

theorem remember_of_isIdle (kept : Option Char) (idle : deed.IsIdle) :
    remember kept deed = kept := by
  match deed with
  | .handOut none => rfl
  | .takeBack none _ => rfl
  | .takeBack (some _) false => rfl

theorem foldl_remember_of_isIdle (kept : Option Char) (idle : ∀ deed ∈ done, deed.IsIdle) :
    done.foldl remember kept = kept := by
  induction done with
  | nil => rfl
  | cons deed done inductionHypothesis =>
      obtain ⟨first, rest⟩ := List.forall_mem_cons.mp idle
      rw [List.foldl_cons, remember_of_isIdle kept first, inductionHypothesis rest]

/-- What is remembered is the character that is outstanding. -/
theorem foldl_remember_eq_some_iff {ch : Char} :
    done.foldl remember none = some ch ↔ Outstanding done ch := by
  constructor
  · intro remembered
    induction done using List.reverseRecOn with
    | nil => cases remembered
    | append_singleton done deed inductionHypothesis =>
        rw [List.foldl_append, List.foldl_cons, List.foldl_nil] at remembered
        by_cases idle : deed.IsIdle
        · rw [remember_of_isIdle _ idle] at remembered
          obtain ⟨before, since, rfl, idleSince⟩ := inductionHypothesis remembered
          refine ⟨before, since ++ [deed], by simp, ?_⟩
          simpa [or_imp, forall_and] using ⟨idleSince, idle⟩
        · match deed with
          | .handOut none => exact absurd trivial idle
          | .handOut (some other) =>
              cases remembered
              exact ⟨done, [], rfl, by simp⟩
          | .takeBack none _ => exact absurd trivial idle
          | .takeBack (some _) false => exact absurd trivial idle
          | .takeBack (some _) true => cases remembered
  · rintro ⟨before, since, rfl, idle⟩
    rw [List.foldl_append, List.foldl_cons, remember]
    exact foldl_remember_of_isIdle _ idle

end Remember

/-! What a cursor keeps is what is remembered of its history. -/

section Step

variable {text consumed : List Char} {c : Cursor}

theorem last_drain (c : Cursor) :
    c.drain.2.last =
      (c.drain.1.map fun (ch, _) => Deed.handOut (some ch)).foldl remember c.last := by
  generalize left : c.rest = s
  induction s generalizing c with
  | nil => simp [drain_nil left]
  | cons ch s inductionHypothesis =>
      rw [drain_cons left]
      exact inductionHypothesis _ (rest_past c ch s)

theorem lookAhead_nil (atEnd : c.rest = []) :
    c.lookAhead = [.handOut none, .takeBack none true] := by
  simp [lookAhead, advance_nil atEnd, pushback]
  rfl

theorem lookAhead_cons {ch : Char} {s : List Char} (starts : c.rest = ch :: s) :
    c.lookAhead = [.handOut (some ch), .takeBack (some (String.singleton ch)) true] := by
  simp [lookAhead, advance_cons starts, pushback_past]
  rfl

theorem last_of_pushback {next : Cursor} {given : String}
    (returned : c.pushback (some given) = .ok next) : next.last = none := by
  simp only [pushback] at returned
  split at returned
  · cases returned
  · split at returned
    · cases returned
    · split at returned
      · cases returned
        rfl
      · cases returned

/-- A consistent cursor takes back the character that it keeps, and no other text. -/
theorem pushback_eq_ok_iff (consistent : Consistent text consumed c) (given : String) :
    (∃ next, c.pushback (some given) = .ok next) ↔
      ∃ ch, c.last = some ch ∧ given = String.singleton ch := by
  simp only [pushback]
  cases latest : c.last with
  | none =>
      by_cases full : c.slot.isSome = true
      · simp [full]
      · simp [full]
  | some ch =>
      have free := (consistent.returnable ch latest).1
      by_cases same : given = String.singleton ch
      · simp [free, same]
      · simp [free, same]

/-- What a call leaves to be taken back is what its deeds leave of it. -/
theorem last_perform (c : Cursor) (call : Call) :
    (c.perform call).2.last = (c.deeds call).foldl remember c.last := by
  cases call with
  | advance =>
      cases left : c.rest with
      | nil => simp [perform, deeds, advance_nil left, remember]
      | cons ch s => simp [perform, deeds, advance_cons left, remember, past]
  | peek =>
      cases left : c.rest with
      | nil => simp [perform, deeds, peek_nil left, lookAhead_nil left, remember]
      | cons ch s => simp [perform, deeds, peek_cons left, lookAhead_cons left, remember, holding]
  | atEnd =>
      cases left : c.rest with
      | nil => simp [perform, deeds, atEnd_of_peek (peek_nil left), lookAhead_nil left, remember]
      | cons ch s =>
          simp [perform, deeds, atEnd_of_peek (peek_cons left), lookAhead_cons left, remember,
            holding]
  | pushback given =>
      cases given with
      | none => rfl
      | some given =>
          cases returned : c.pushback (some given) with
          | ok next =>
              simp only [perform, deeds, returned, last_of_pushback returned]
              rfl
          | error refusal =>
              simp only [perform, deeds, returned]
              rfl
  | drain =>
      simp only [perform, deeds, List.foldl_append, ← last_drain]
      rfl

theorem last_performAll (c : Cursor) (calls : List Call) :
    (c.performAll calls).2.last = (c.history calls).foldl remember c.last := by
  induction calls generalizing c with
  | nil => rfl
  | cons call calls inductionHypothesis =>
      rw [performAll_cons, history, List.foldl_append, ← last_perform]
      exact inductionHypothesis _

theorem consistent_performAll (consistent : Consistent text consumed c) (calls : List Call) :
    ∃ further, Consistent text further (c.performAll calls).2 := by
  induction calls generalizing c consumed with
  | nil => exact ⟨consumed, consistent⟩
  | cons call calls inductionHypothesis =>
      obtain ⟨further, -, stays⟩ := moves_perform consistent call
      rw [performAll_cons]
      exact inductionHypothesis stays

end Step

/-- After any calls a cursor takes back the character that was last handed out, as
long as that has not been taken back.  It refuses all other texts, where the latest
character was not asked for at the end of the text; there it still takes back the
character handed out before, and refuses all others. -/
theorem pushback_by_history (text : String) (calls : List Call) :
    let c := ((ofText text).performAll calls).2
    let done := (ofText text).history calls
    (∀ ch, HandedOutLast done ch → ∃ next, c.pushback (some (String.singleton ch)) = .ok next) ∧
    (¬ EndedLast done → ∀ given, (∀ ch, HandedOutLast done ch → given ≠ String.singleton ch) →
      ∃ error, c.pushback (some given) = .error error) ∧
    ∀ given, (∃ next, c.pushback (some given) = .ok next) ↔
      ∃ ch, Outstanding done ch ∧ given = String.singleton ch := by
  intro c done
  obtain ⟨consumed, consistent⟩ := consistent_performAll (consistent_ofText text) calls
  have kept : c.last = done.foldl remember none := last_performAll (ofText text) calls
  have accepts (given : String) : (∃ next, c.pushback (some given) = .ok next) ↔
      ∃ ch, Outstanding done ch ∧ given = String.singleton ch := by
    rw [pushback_eq_ok_iff consistent given, kept]
    simp only [foldl_remember_eq_some_iff]
  refine ⟨?_, ?_, accepts⟩
  · intro ch last
    exact (accepts _).mpr ⟨ch, last.outstanding, rfl⟩
  · intro inside given other
    cases returned : c.pushback (some given) with
    | error error => exact ⟨error, rfl⟩
    | ok next =>
        obtain ⟨ch, out, same⟩ := (accepts given).mp ⟨next, returned⟩
        exact absurd same (other ch (out.handedOutLast inside))

/-- A line feed can be taken back after another text has been refused, and the
character before it cannot. -/
theorem pushback_by_history_of_newline :
    let calls : List Call := [.advance, .atEnd, .advance, .pushback (some "z")]
    let c := ((ofText "a\nb").performAll calls).2
    HandedOutLast ((ofText "a\nb").history calls) '\n' ∧
      (∃ next, c.pushback (some "\n") = .ok next) ∧
      ∃ error, c.pushback (some "a") = .error error := by
  intro calls c
  let before : List Deed :=
    [.handOut (some 'a'), .handOut (some '\n'), .takeBack (some "\n") true]
  have last : HandedOutLast ((ofText "a\nb").history calls) '\n' := by
    refine ⟨[.takeBack (some "z") false], ⟨⟨before, by decide⟩, ?_⟩, ?_⟩
    · simp [Deed.IsHandOut]
    · simp [Deed.TakesBack]
  have result := pushback_by_history "a\nb" calls
  refine ⟨last, result.1 '\n' last, result.2.1 last.not_endedLast "a" ?_⟩
  intro ch other
  rw [other.unique last]
  decide

/-- A character can still be taken back after the text was found at its end, although
it is not what was handed out last. -/
theorem pushback_after_end :
    let calls : List Call := [.advance, .advance]
    EndedLast ((ofText "a").history calls) ∧
      (∀ ch, ¬ HandedOutLast ((ofText "a").history calls) ch) ∧
      ∃ next, ((ofText "a").performAll calls).2.pushback (some "a") = .ok next := by
  intro calls
  have ended : EndedLast ((ofText "a").history calls) := ⟨[], ⟨[.handOut (some 'a')], rfl⟩, by simp⟩
  refine ⟨ended, ?_, _, rfl⟩
  intro ch last
  exact last.not_endedLast ended

end LexicalPass.Cursor
