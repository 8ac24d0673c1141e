import LexicalPass.Proofs.DisplayedText
import LexicalPass.Proofs.FileRuns
import LexicalPass.Proofs.MaximalMunch
import LexicalPass.Proofs.SourceReading

/-!
Diagnostics as they are written.  Each that a run tells of names the place where the
fault lies, and is written line by line.  The line of its place and the one of its
preview are written as they are, but for emoji that they name between colons; in the
place of a file without colons in its name that can be the number of the line only.
-/

set_option autoImplicit false

namespace LexicalPass

open Segment Text

theorem Location.written_render (l : Location) :
    l.render.written =
      l.source.written ++ ":" ++ toString l.line ++ ":" ++ toString l.column := by
  simp only [Location.render, CodePoints.written_append, CodePoints.written_ofString]

namespace Diagnostic

def heading (d : Diagnostic) : String :=
  upperCase d.severity ++ codeMark d.code ++ ": " ++ d.message.written

def placeLine (d : Diagnostic) : String := "  --> " ++ d.location.render.written

def nearLine (preview : String) : String := "  near: " ++ quote preview

def helpLines : Option String → List String
  | none => []
  | some help => if help = "" then [] else ["  help: " ++ help]

def lines (d : Diagnostic) : List String :=
  d.heading :: d.placeLine :: (d.preview.toList.map nearLine ++ helpLines d.help)

theorem previewLine_eq (preview : Option String) :
    previewLine preview = String.join ((preview.toList.map nearLine).map (· ++ "\n")) := by
  cases preview with
  | none => rfl
  | some preview => simp [previewLine, nearLine]

theorem helpLine_eq (help : Option String) :
    helpLine help = String.join ((helpLines help).map (· ++ "\n")) := by
  cases help with
  | none => rfl
  | some help =>
      by_cases empty : help = ""
      · simp [helpLine, helpLines, empty]
      · simp [helpLine, helpLines, empty]

theorem written_render (d : Diagnostic) :
    d.render.written = String.join (d.lines.map (· ++ "\n")) := by
  simp only [render, lines, heading, placeLine, CodePoints.written_append,
    CodePoints.written_ofString, List.map_cons, List.map_append, String.join_cons,
    String.join_append, previewLine_eq, helpLine_eq, String.append_assoc]

theorem isOneLine_placeLine {d : Diagnostic} (named : IsOneLine d.location.source.written) :
    IsOneLine d.placeLine := by
  simp only [placeLine, Location.written_render, CodePoints.ofString_append, isOneLine_append]
  exact ⟨by decide, ⟨⟨⟨named, by decide⟩, isOneLine_toString _⟩, by decide⟩, isOneLine_toString _⟩

/-- A location line of printable characters is written as it is if it names no emoji. -/
theorem shown_placeLine {d : Diagnostic} (named : IsOneLine d.location.source.written)
    (plain : ¬ SpellsEmoji d.placeLine.toList) : shown d.placeLine = d.placeLine :=
  shown_of_isOneLine (isOneLine_placeLine named) plain

/-- Where the name of the source holds no colon, the number of the line alone decides
how the place is written. -/
theorem shown_placeLine_of_plain_name {d : Diagnostic}
    (named : IsOneLine d.location.source.written) (plain : ':' ∉ d.location.source.written.toList)
    (natural : 0 ≤ d.location.line) :
    shown d.placeLine = match emojiOfNumber? d.location.line with
      | some emoji => "  --> " ++ d.location.source.written ++ String.singleton emoji ++
          toString d.location.column
      | none => d.placeLine := by
  have freeFront : ':' ∉ "  --> ".toList ++ d.location.source.written.toList := by
    rw [List.mem_append, not_or]
    exact ⟨by decide, plain⟩
  have replaced := replaceEmojiCodes_number freeFront natural
    (colon_not_mem_repr d.location.column)
  have whole : d.placeLine.toList = "  --> ".toList ++ d.location.source.written.toList ++
      ':' :: d.location.line.repr.toList ++ ':' :: d.location.column.repr.toList := by
    simp [placeLine, Location.written_render, Int.toString_eq_repr]
  rw [← whole] at replaced
  cases isEmoji : emojiOfNumber? d.location.line with
  | none =>
      have same : replaceEmojiCodes d.placeLine.toList = d.placeLine.toList := by
        rw [replaced, isEmoji, whole]
        simp only [List.append_assoc, List.cons_append, List.nil_append]
      rw [shown_of_codes same ((isOneLine_ofString _).mp (isOneLine_placeLine named)),
        String.ofList_toList]
  | some emoji =>
      have line : IsOneLine ("  --> " ++ d.location.source.written ++ String.singleton emoji ++
          toString d.location.column : String) := by
        simp only [CodePoints.ofString_append, isOneLine_append]
        exact ⟨⟨⟨by decide, named⟩, isOneLine_of_emojiOfNumber? isEmoji⟩, isOneLine_toString _⟩
      have shows : replaceEmojiCodes d.placeLine.toList = ("  --> " ++ d.location.source.written ++
          String.singleton emoji ++ toString d.location.column).toList := by
        rw [replaced, isEmoji]
        simp [Int.toString_eq_repr]
      rw [shown_of_codes shows ((isOneLine_ofString _).mp line), String.ofList_toList]

/-- A preview is written as it is if it names no emoji. -/
theorem shown_nearLine {preview : String} (plain : ¬ SpellsEmoji (nearLine preview).toList) :
    shown (nearLine preview) = nearLine preview := by
  apply shown_of_isOneLine _ plain
  rw [nearLine, CodePoints.ofString_append, isOneLine_append]
  exact ⟨by decide, isOneLine_quote preview⟩

end Diagnostic

namespace CommandLine

open SourceFile

section Told

variable {lookup : Path → Lookup} {config : Config} {path : Path} {text : CodePoints}

/-- A diagnostic about a file, and where in its text the fault lies. -/
inductive Concerns (lookup : Path → Lookup) (config : Config) (path : Path) : Diagnostic → Prop
  | unread (reason : String) (unheld : ∀ text, ¬ Holds (lookup path) text) :
      Concerns lookup config path (FatalError.sourceUnavailable path.render reason).diagnostic
  | unclosed {text : String} {before body : List Char} (held : Holds (lookup path) text)
      (whole : text.toList = before ++ '\x22' :: body) (last : '\x22' ∉ body) :
      Concerns lookup config path (FatalError.unterminatedString (String.ofList body)
        ⟨path.render, .behind before⟩ config.previewLength).diagnostic
  | malformed {text : String} {before number after : List Char} {flaw : Numeral.Flaw}
      (held : Holds (lookup path) text) (whole : text.toList = before ++ number ++ after)
      (flawed : Numeral.ofRun number = .malformed flaw) :
      Concerns lookup config path (Warning.malformedNumber (String.ofList number)
        ⟨path.render, .behind before⟩ flaw.reason).diagnostic
  | stray {text : String} {before after : List Char} {c : Char}
      (held : Holds (lookup path) text) (whole : text.toList = before ++ c :: after)
      (unknown : Kind.ofChar? c = none) :
      Concerns lookup config path (Warning.ofDescription (String.singleton c) (describeChar c)
        ⟨path.render, .behind before⟩).diagnostic

theorem Concerns.line_nonneg {d : Diagnostic} (concerns : Concerns lookup config path d) :
    0 ≤ d.location.line := by
  have behind (before : List Char) : 0 ≤ (Position.behind before).line := by
    simp only [Position.behind]
    omega
  cases concerns with
  | unread => exact behind []
  | unclosed => exact behind _
  | malformed => exact behind _
  | stray => exact behind _

theorem concerns_of_lex_ok {completed : Completed}
    (nameable : (SourceFile.ofPath path).path.IsNameable)
    (done : (SourceFile.ofPath path).lex lookup config = .ok completed) {w : Warning}
    (inside : w ∈ completed.sequence.warnings.toList) :
    Concerns lookup config path w.diagnostic := by
  obtain ⟨text, isText, tokenized⟩ := exists_text_of_lex_ok done
  have held := (text_eq_ok_iff nameable text).mp isText
  obtain ⟨_, isSequence⟩ := of_tokenize_ok tokenized
  rw [isSequence] at inside
  obtain ⟨p, placed, found⟩ := List.mem_filterMap.mp inside
  obtain ⟨after, whole, _⟩ := exists_after_of_mem_place (tiles_all text.toList) placed
  rw [List.nil_append] at whole
  rcases Placed.warning?_cases found with
    ⟨first, others, flaw, isNumeral, flawed, rfl⟩ | ⟨c, isSymbol, unknown, rfl⟩
  · rw [isNumeral] at whole
    exact .malformed held whole flawed
  · rw [isSymbol, List.append_assoc] at whole
    exact .stray held whole unknown

/-- What ends a run is about a file that holds no text or leaves a literal open. -/
theorem concerns_of_lex_error {fault : FileFault}
    (nameable : (SourceFile.ofPath path).path.IsNameable)
    (failed : (SourceFile.ofPath path).lex lookup config = .error fault) :
    ∃ d, Concerns lookup config path d ∧ fault.message = d.render := by
  cases isText : (SourceFile.ofPath path).text lookup with
  | error fault' =>
      obtain ⟨reason, unread, isFault⟩ := (text_eq_error_iff nameable fault').mp isText
      rw [SourceFile.lex, isText] at failed
      cases failed
      rw [isFault]
      refine ⟨_, .unread reason ?_, rfl⟩
      intro text held
      have read := (read_eq_ok_iff path (lookup path) text).mpr held
      cases unread.symm.trans read
  | ok text =>
      have held := (text_eq_ok_iff nameable text).mp isText
      rw [lex_of_text config isText, lex_eq, Pass.conclude] at failed
      rcases Nat.even_or_odd (text.toList.count '\x22') with balanced | unbalanced
      · rw [failure?_of_even balanced] at failed
        cases failed
      · obtain ⟨before, body, whole, last, failure⟩ :=
          failure?_of_odd unbalanced config (SourceFile.ofPath path).name
        rw [failure] at failed
        cases failed
        exact ⟨_, .unclosed held whole last, rfl⟩

theorem concerns_of_mem_lexFiles {showTokens : Bool} {paths : List Path}
    (nameable : ∀ path ∈ paths, path.IsNameable)
    (told : .diagnosed text ∈ (lexFiles lookup showTokens config paths).events) :
    ∃ path ∈ paths, ∃ d, Concerns lookup config path d ∧ text = d.render := by
  induction paths with
  | nil => cases told
  | cons path paths inductionHypothesis =>
      rw [List.forall_mem_cons] at nameable
      cases outcome : (SourceFile.ofPath path).lex lookup config with
      | error fault =>
          obtain ⟨d, concerns, message⟩ := concerns_of_lex_error nameable.1 outcome
          have isMessage : text = fault.message := by
            simpa [lexFiles_of_error outcome] using told
          exact ⟨path, List.mem_cons_self, d, concerns, isMessage.trans message⟩
      | ok completed =>
          have listing : .diagnosed text ∉
              (if showTokens then [.listed completed.sequence] else [] : List Event) := by
            cases showTokens <;> simp
          have here : (∃ w ∈ completed.sequence.warnings.toList, w.render = text) ∨
              .diagnosed text ∈ (lexFiles lookup showTokens config paths).events := by
            simpa [lexFiles_of_ok outcome, fileEvents, listing] using told
          rcases here with ⟨w, inside, rendered⟩ | later
          · exact ⟨path, List.mem_cons_self, _, concerns_of_lex_ok nameable.1 outcome inside,
              rendered.symm⟩
          · obtain ⟨other, isPath, found⟩ := inductionHypothesis nameable.2 later
            exact ⟨other, List.mem_cons_of_mem path isPath, found⟩

theorem zero_not_mem_of_checkName {name : String} (passed : checkName lookup name = .ok ()) :
    '\x00' ∉ name.toList := by
  intro hasNull
  rw [checkName, if_pos (List.contains_iff_mem.mpr hasNull)] at passed
  cases passed

theorem of_check_ok {a : Arguments} {level : LogLevel} {paths : List Path}
    (passed : check lookup a config = .ok (level, paths)) :
    paths = a.files.map Path.ofString ∧ ∀ path ∈ paths, path.IsNameable := by
  unfold check at passed
  split at passed
  · cases passed
  · split at passed
    · cases passed
    · rename_i named
      dsimp only at passed
      split at passed
      · cases passed
      · cases passed
        refine ⟨rfl, ?_⟩
        intro path isPath
        obtain ⟨name, isFile, rfl⟩ := List.mem_map.mp isPath
        rcases firstError_cases (checkName lookup) a.files with
          ⟨passed, _⟩ | ⟨_, _, _, e, _, _, _, failed⟩
        · exact Path.isNameable_ofString (zero_not_mem_of_checkName (passed name isFile))
        · cases named.symm.trans failed

theorem diagnosed_of_mem_finish {level : LogLevel} {files : FilesOutcome}
    (told : .diagnosed text ∈ (files.finish level).events) : .diagnosed text ∈ files.events := by
  unfold FilesOutcome.finish at told
  split_ifs at told
  · exact told
  · exact told
  · simpa using told

/-- Nothing is diagnosed but what is said about files that were asked for. -/
theorem exists_concerns_of_mem_run {args : List String} {active : Config}
    (told : .diagnosed text ∈ (run lookup args active).1.events) :
    ∃ a path d, Arguments.read args = .ok a ∧ path ∈ a.files.map Path.ofString ∧
      Concerns lookup { emitEndOfLine := a.emitEndOfLine } path d ∧ text = d.render := by
  cases understood : Arguments.read args with
  | error e => simp [run, understood, Outcome.stopped] at told
  | ok a =>
      cases asked : a.request with
      | some request => simp [run, understood, perform, asked] at told
      | none =>
          cases checked : check lookup a { emitEndOfLine := a.emitEndOfLine } with
          | error stop => cases stop <;>
              simp [run, understood, perform, asked, checked, Outcome.stopped] at told
          | ok passed =>
              obtain ⟨level, paths⟩ := passed
              obtain ⟨arePaths, nameable⟩ := of_check_ok checked
              simp only [run, understood, perform, asked, checked] at told
              cases paths with
              | nil => simp at told
              | cons first others =>
                  obtain ⟨path, isPath, d, concerns, rendered⟩ :=
                    concerns_of_mem_lexFiles nameable (diagnosed_of_mem_finish told)
                  exact ⟨a, path, d, rfl, arePaths ▸ isPath, concerns, rendered⟩

end Told

section Written

variable {o : Outcome} {d : Diagnostic}

theorem render_diagnosed (threshold : LogLevel) (d : Diagnostic) :
    Event.render threshold (.diagnosed d.render) =
      String.join (d.lines.map (shown · ++ "\n")) ++ "\n" := by
  rw [← shown_join, ← d.written_render]
  rfl

theorem exists_printed_of_mem (told : .diagnosed d.render ∈ o.events) :
    ∃ front back, o.printedOn .error =
      front ++ String.join (d.lines.map (shown · ++ "\n")) ++ "\n" ++ back := by
  have onError : .diagnosed d.render ∈ o.events.filter (·.channel = .error) :=
    List.mem_filter.mpr ⟨told, rfl⟩
  obtain ⟨earlier, later, split⟩ := List.append_of_mem onError
  refine ⟨String.join (earlier.map (·.render o.threshold)),
    String.join (later.map (·.render o.threshold)), ?_⟩
  rw [Outcome.printedOn, split, List.map_append, List.map_cons, String.join_append,
    String.join_cons, render_diagnosed]
  simp only [String.append_assoc]

end Written

/-- How a diagnostic stands in what is printed: line by line, the line of its place and
the one of its preview as they are unless they name an emoji.  Under a name without
colons the place is known in either case. -/
structure WrittenIn (printed : String) (d : Diagnostic) : Prop where
  lineByLine : ∃ front back, printed =
    front ++ String.join (d.lines.map (shown · ++ "\n")) ++ "\n" ++ back
  place : IsOneLine d.location.source.written → ¬ SpellsEmoji d.placeLine.toList →
    shown d.placeLine = d.placeLine
  placeOfPlainName : IsOneLine d.location.source.written →
    ':' ∉ d.location.source.written.toList →
    shown d.placeLine = match emojiOfNumber? d.location.line with
      | some emoji => "  --> " ++ d.location.source.written ++ String.singleton emoji ++
          toString d.location.column
      | none => d.placeLine
  near : ∀ preview, d.preview = some preview →
    ¬ SpellsEmoji (Diagnostic.nearLine preview).toList →
    shown (Diagnostic.nearLine preview) = Diagnostic.nearLine preview

/-- All that a run diagnoses concerns a file that it was asked to lex, names the true place
of the fault, and is written on the error channel with its place and its preview as they
are.  This is so but for emoji named between colons. -/
theorem diagnostics_are_written (lookup : Path → Lookup) (active : Config) {args : List String}
    {text : CodePoints} (told : .diagnosed text ∈ (run lookup args active).1.events) :
    ∃ a path d, Arguments.read args = .ok a ∧ path ∈ a.files.map Path.ofString ∧
      Concerns lookup { emitEndOfLine := a.emitEndOfLine } path d ∧ text = d.render ∧
      WrittenIn ((run lookup args active).1.printedOn .error) d := by
  obtain ⟨a, path, d, understood, isPath, concerns, rendered⟩ := exists_concerns_of_mem_run told
  refine ⟨a, path, d, understood, isPath, concerns, rendered, ?_⟩
  rw [rendered] at told
  exact {
    lineByLine := exists_printed_of_mem told
    place := Diagnostic.shown_placeLine
    placeOfPlainName := fun named plain =>
      Diagnostic.shown_placeLine_of_plain_name named plain concerns.line_nonneg
    near := fun _ _ plain => Diagnostic.shown_nearLine plain }

/-- A stray character in one file, and in the next a literal that is left open on the
second line. -/
theorem diagnostics_are_written_of_two_files :
    let lookup : Path → Lookup := fun path =>
      if path = .ofString "a.solace" then .file [0x24]
      else .file [0x0A, 0x20, 0x22, 0x78, 0x3A, 0x79]
    let outcome := (run lookup ["a.solace", "b.solace"] {}).1
    let text : String := "ERROR[L002]: Unterminated string literal\n  --> b.solace:2:2\n" ++
      "  near: 'x:y'\n  help: String literals must be closed with a matching \" quote.\n"
    .diagnosed text ∈ outcome.events ∧
      (∃ path d, Concerns lookup {} path d ∧ text = d.render ∧
        WrittenIn (outcome.printedOn .error) d) ∧
      outcome.printedOn .error =
        "WARNING[L004]: Unrecognized character: '$'\n  --> a.solace:1:1\n" ++
          "  help: The character was skipped.\n\n" ++ text ++ "\n" := by
  intro lookup outcome text
  have told : .diagnosed text ∈ outcome.events := by decide +kernel
  obtain ⟨a, path, d, understood, -, concerns, rendered, written⟩ :=
    diagnostics_are_written lookup {} told
  have isRequest : a = { files := ["a.solace", "b.solace"] } :=
    Except.ok.inj (understood.symm.trans (by decide))
  rw [isRequest] at concerns
  exact ⟨told, ⟨path, d, concerns, rendered, written⟩, by decide +kernel⟩

/-- The place of a fault in line 100 is written with an emoji for the number of the line,
although the name of the file is printable, and nowhere as it is. -/
theorem line_hundred_is_not_written :
    let lookup : Path → Lookup := fun _ => .file (List.replicate 99 0x0A ++ [0x24])
    let outcome := (run lookup ["a.solace"] {}).1
    IsOneLine "a.solace" ∧
      (warningsAt lookup {} (.ofString "a.solace")).map (fun w => w.location) =
          [⟨"a.solace", ⟨100, 1⟩⟩] ∧
      outcome.messages.map CodePoints.written =
        ["WARNING[L004]: Unrecognized character: '$'\n  --> a.solace:100:1\n" ++
          "  help: The character was skipped.\n", "1 problem(s) found"] ∧
      outcome.printedOn .error =
        "WARNING[L004]: Unrecognized character: '$'\n  --> a.solace💯1\n" ++
          "  help: The character was skipped.\n\n1 problem(s) found\n" ∧
      ¬ "  --> a.solace:100:1".toList <:+: (outcome.printedOn .error).toList := by
  intro lookup outcome
  have printed : outcome.printedOn .error =
      "WARNING[L004]: Unrecognized character: '$'\n  --> a.solace💯1\n" ++
        "  help: The character was skipped.\n\n1 problem(s) found\n" := by
    decide +kernel
  refine ⟨by decide, by decide +kernel, by decide +kernel, printed, ?_⟩
  rw [printed]
  decide +kernel

end CommandLine

end LexicalPass
