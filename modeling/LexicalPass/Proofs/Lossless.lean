import LexicalPass.Proofs.QuoteBalance
import LexicalPass.Proofs.SourceOrder

/-!
Nothing of a source is lost.  With line ends kept, the tokens of a pass and the
characters it could not recognize stand in the source one after the other, each
at the place it names, with blanks alone before, between and after them.
-/

set_option autoImplicit false

namespace LexicalPass

open Segment

/-- What a pass tells about one piece of its source. -/
inductive Item where
  | token (token : Token)
  | stray (warning : Warning)
deriving DecidableEq, Repr

namespace Item

def position : Item → Position
  | token t => t.position
  | stray w => w.location.position

/-- The text that an item stands for.  A string literal stands between quotes. -/
def text : Item → List Char
  | token t =>
      if t.kind = .stringLiteral then '\x22' :: t.lexeme.toList ++ ['\x22'] else t.lexeme.toList
  | stray w => (w.lexeme.getD "").toList

def isToken : Item → Bool
  | token _ => true
  | stray _ => false

/-- Items are merged by their places. -/
def notAfter (a b : Item) : Bool := !decide (b.position.Precedes a.position)

end Item

namespace TokenSequence

/-- The warnings about characters that were not recognized. -/
def strays (s : TokenSequence) : List Warning := s.warnings.toList.filter (·.code = some "L004")

/-- The tokens and the unrecognized characters, merged by their places. -/
def items (s : TokenSequence) : List Item :=
  (s.tokens.toList.map Item.token).merge (s.strays.map Item.stray) Item.notAfter

end TokenSequence

/-- The items make up the text `s`, which stands behind the text `consumed`, but
for blanks around them, and each item is at its place. -/
def Laid (consumed : List Char) : List Item → List Char → Prop
  | [], s => ∀ c ∈ s, IsBlank c
  | item :: items, s =>
      ∃ gap rest, s = gap ++ item.text ++ rest ∧ (∀ c ∈ gap, IsBlank c) ∧
        item.position = .behind (consumed ++ gap) ∧
        Laid (consumed ++ gap ++ item.text) items rest

/-- A text put together from items that start at `p` or later.  The blanks go
where an item does not follow the one before it at once, and at the end. -/
def rebuild (p : Position) : List Item → List Char → List Char
  | [], blanks => blanks
  | item :: items, blanks =>
      let gap := (item.position.column - p.column).toNat
      blanks.take gap ++ item.text ++
        rebuild (item.position.afterAll item.text) items (blanks.drop gap)

/-- All that the output of a pass keeps of its source. -/
structure TokenSequence.Retains (sequence : TokenSequence) (source : List Char) : Prop where
  itemsOrdered : sequence.items.Pairwise fun a b => a.position.Precedes b.position
  tokensOrdered : sequence.tokens.toList.Pairwise fun s t => s.position.Precedes t.position
  warningsOrdered : sequence.warnings.toList.Pairwise fun v w =>
    v.location.position.Precedes w.location.position
  singleStrays : ∀ w ∈ sequence.strays, ∃ c, w.lexeme = some (String.singleton c)
  laid : Laid [] sequence.items source
  rebuilt : ∃ blanks, (∀ c ∈ blanks, IsBlank c) ∧ rebuild .start sequence.items blanks = source

section Merge

variable {a : Item} {xs ys : List Item}

theorem cons_merge_of_notAfter (first : ∀ b ∈ ys, a.notAfter b = true) :
    (a :: xs).merge ys Item.notAfter = a :: xs.merge ys Item.notAfter := by
  cases ys with
  | nil => simp
  | cons b ys => rw [List.cons_merge_cons_pos _ _ _ (first b (by simp))]

theorem merge_cons_of_not_notAfter (first : ∀ b ∈ xs, ¬ b.notAfter a = true) :
    xs.merge (a :: ys) Item.notAfter = a :: xs.merge ys Item.notAfter := by
  cases xs with
  | nil => simp
  | cons b xs => rw [List.cons_merge_cons_neg _ _ _ (first b (by simp))]

/-- An ordered list is the merge of its tokens and its other items. -/
theorem merge_filter_of_pairwise {items : List Item}
    (ordered : items.Pairwise fun a b => a.position.Precedes b.position) :
    (items.filter Item.isToken).merge (items.filter (!·.isToken)) Item.notAfter = items := by
  induction ordered with
  | nil => simp
  | @cons a items later ordered inductionHypothesis =>
      by_cases token : a.isToken = true
      · have first : ∀ b ∈ items.filter (!·.isToken), a.notAfter b = true := by
          intro b inside
          have precedes := later b (List.mem_filter.mp inside).1
          simp [Item.notAfter, precedes.asymm]
        rw [List.filter_cons_of_pos token, List.filter_cons_of_neg (by simp [token]),
          cons_merge_of_notAfter first, inductionHypothesis]
      · have first : ∀ b ∈ items.filter Item.isToken, ¬ b.notAfter a = true := by
          intro b inside
          have precedes := later b (List.mem_filter.mp inside).1
          simp [Item.notAfter, precedes]
        rw [List.filter_cons_of_neg token, List.filter_cons_of_pos (by simp [token]),
          merge_cons_of_not_notAfter first, inductionHypothesis]

end Merge

namespace Segment.Placed

variable (config : Config) (name : CodePoints)

def stray? (p : Placed) : Option Warning :=
  (p.warning? name).filter (·.code = some "L004")

def item? (p : Placed) : Option Item :=
  ((p.token? config name).map .token).or ((p.stray? name).map .stray)

theorem symbol_of_stray? {name : CodePoints} {p : Placed} {warning : Warning}
    (found : p.stray? name = some warning) :
    ∃ c, p.segment = symbol c ∧ Kind.ofChar? c = none ∧
      warning.lexeme = some (String.singleton c) := by
  obtain ⟨isWarning, isStray⟩ := Option.filter_eq_some_iff.mp found
  rcases warning?_cases isWarning with ⟨_, _, _, _, _, rfl⟩ | ⟨c, isSymbol, unknown, rfl⟩
  · simp [Warning.malformedNumber, Problem.code] at isStray
  · exact ⟨c, isSymbol, unknown, rfl⟩

/-- A segment is not both a token and a character that was not recognized. -/
theorem stray?_of_token? {config : Config} {name : CodePoints} {p : Placed} {token : Token}
    (found : p.token? config name = some token) : p.stray? name = none := by
  obtain ⟨kind, isKind, _⟩ := Option.map_eq_some_iff.mp found
  apply Option.eq_none_iff_forall_ne_some.mpr
  intro warning isStray
  obtain ⟨c, isSymbol, unknown, _⟩ := symbol_of_stray? isStray
  rw [isSymbol, kind?, unknown] at isKind
  simp at isKind

theorem filter_isToken_items (ps : List Placed) :
    (ps.filterMap (item? config name)).filter Item.isToken =
      (tokens config name ps).map Item.token := by
  rw [List.filter_filterMap, tokens, List.map_filterMap]
  congr 1
  funext p
  cases token : p.token? config name with
  | some token => simp [item?, token, Item.isToken]
  | none =>
      cases stray : p.stray? name with
      | some warning => simp [item?, token, stray, Item.isToken]
      | none => simp [item?, token, stray]

theorem filter_not_isToken_items (ps : List Placed) :
    (ps.filterMap (item? config name)).filter (!·.isToken) =
      ((warnings name ps).filter (·.code = some "L004")).map Item.stray := by
  rw [List.filter_filterMap, warnings, List.filter_filterMap, List.map_filterMap]
  congr 1
  funext p
  change _ = (p.stray? name).map Item.stray
  cases token : p.token? config name with
  | some token => simp [item?, token, stray?_of_token? token, Item.isToken]
  | none =>
      cases stray : p.stray? name with
      | some warning => simp [item?, token, stray, Item.isToken]
      | none => simp [item?, token, stray]

theorem position_of_item? {config : Config} {name : CodePoints} {p : Placed} {item : Item}
    (found : p.item? config name = some item) : item.position = p.position := by
  rcases Option.or_eq_some_iff.mp found with isToken | ⟨_, isStray⟩
  · obtain ⟨token, foundToken, rfl⟩ := Option.map_eq_some_iff.mp isToken
    exact position_of_token? foundToken
  · obtain ⟨warning, foundStray, rfl⟩ := Option.map_eq_some_iff.mp isStray
    have foundWarning := (Option.filter_eq_some_iff.mp foundStray).1
    exact congrArg Location.position (location_of_warning? foundWarning)

/-- What is put down in the order of the source is what the merge gives. -/
theorem items_eq {sequence : TokenSequence} {ps : List Placed}
    (ordered : ps.Pairwise fun p q => p.position.Precedes q.position)
    (tokens_eq : sequence.tokens.toList = tokens config name ps)
    (warnings_eq : sequence.warnings.toList = warnings name ps) :
    sequence.items = ps.filterMap (item? config name) := by
  rw [TokenSequence.items, TokenSequence.strays, tokens_eq, warnings_eq,
    ← filter_isToken_items config name, ← filter_not_isToken_items config name]
  exact merge_filter_of_pairwise (pairwise_told ordered position_of_item?)

theorem text_of_token? {config : Config} {name : CodePoints} {p : Placed} {token : Token}
    (found : p.token? config name = some token) : (Item.token token).text = p.segment.text := by
  obtain ⟨kind, isKind, rfl⟩ := Option.map_eq_some_iff.mp found
  simp only [Item.text, String.toList_ofList, text_of_kind? isKind]

theorem text_of_item? {config : Config} {name : CodePoints} {p : Placed} {item : Item}
    (found : p.item? config name = some item) : item.text = p.segment.text := by
  rcases Option.or_eq_some_iff.mp found with isToken | ⟨_, isStray⟩
  · obtain ⟨token, foundToken, rfl⟩ := Option.map_eq_some_iff.mp isToken
    exact text_of_token? foundToken
  · obtain ⟨warning, foundStray, rfl⟩ := Option.map_eq_some_iff.mp isStray
    obtain ⟨c, isSymbol, _, isLexeme⟩ := symbol_of_stray? foundStray
    simp [Item.text, isLexeme, isSymbol, Segment.text]

/-- With line ends kept, all but blanks are told of. -/
theorem blank_of_item? {config : Config} {name : CodePoints} {before : List Char} {g : Segment}
    (emits : config.emitEndOfLine = true) (closed : g.Closed)
    (untold : item? config name ⟨before, g⟩ = none) : ∃ c, g = blank c := by
  obtain ⟨noToken, noStray⟩ := Option.or_eq_none_iff.mp untold
  have noKind : g.kind? config = none := by
    simpa [token?] using noToken
  cases g with
  | newline => simp [kind?, emits] at noKind
  | blank c => exact ⟨c, rfl⟩
  | string body => simp [kind?] at noKind
  | unclosed body => exact absurd rfl (closed body)
  | numeral first others =>
      simp only [kind?] at noKind
      split at noKind <;> simp at noKind
  | word first others => simp [kind?] at noKind
  | symbol c =>
      simp only [kind?] at noKind
      simp [stray?, warning?, noKind, Warning.ofDescription, Problem.code] at noStray

end Segment.Placed

theorem laid_cons_blank {consumed s : List Char} {items : List Item} {c : Char} (blank : IsBlank c)
    (laid : Laid (consumed ++ [c]) items s) : Laid consumed items (c :: s) := by
  cases items with
  | nil => exact List.forall_mem_cons.mpr ⟨blank, laid⟩
  | cons item items =>
      obtain ⟨gap, rest, rfl, blanks, position, laid⟩ := laid
      refine ⟨c :: gap, rest, rfl, List.forall_mem_cons.mpr ⟨blank, blanks⟩, ?_, ?_⟩
      · rw [position, List.append_assoc, List.singleton_append]
      · rw [List.append_cons]
        exact laid

theorem laid_of_tiles (config : Config) (name : CodePoints) (emits : config.emitEndOfLine = true)
    {gs : List Segment} {s : List Char} (tiles : Tiles gs s) (closed : ∀ g ∈ gs, g.Closed)
    (consumed : List Char) :
    Laid consumed ((place consumed gs).filterMap (Placed.item? config name)) s := by
  induction tiles generalizing consumed with
  | nil => simp [place, Laid]
  | @cons g gs s wellFormed stops tiles inductionHypothesis =>
      rw [List.forall_mem_cons] at closed
      have laid := inductionHypothesis closed.2 (consumed ++ g.text)
      cases told : Placed.item? config name ⟨consumed, g⟩ with
      | none =>
          obtain ⟨c, rfl⟩ := Placed.blank_of_item? emits closed.1 told
          rw [place, List.filterMap_cons_none told]
          exact laid_cons_blank wellFormed laid
      | some item =>
          rw [place, List.filterMap_cons_some told]
          refine ⟨[], s, ?_, by simp, ?_, ?_⟩
          · rw [Placed.text_of_item? told, List.nil_append]
          · rw [Placed.position_of_item? told, Placed.position, List.append_nil]
          · rw [Placed.text_of_item? told, List.append_nil]
            exact laid

/-- Items that are laid out in a text tell all of it but which blanks it has. -/
theorem rebuild_of_laid {consumed s : List Char} {items : List Item}
    (laid : Laid consumed items s) :
    ∃ blanks, (∀ c ∈ blanks, IsBlank c) ∧ rebuild (.behind consumed) items blanks = s := by
  induction items generalizing consumed s with
  | nil => exact ⟨s, laid, rfl⟩
  | cons item items inductionHypothesis =>
      obtain ⟨gap, rest, rfl, blankGap, position, laid⟩ := laid
      obtain ⟨blanks, blank, rebuilt⟩ := inductionHypothesis laid
      refine ⟨gap ++ blanks, List.forall_mem_append.mpr ⟨blankGap, blank⟩, ?_⟩
      have width : (item.position.column - (Position.behind consumed).column).toNat =
          gap.length := by
        rw [position, Position.behind_append_blanks consumed blankGap]
        simp
      have next : item.position.afterAll item.text =
          .behind (consumed ++ gap ++ item.text) := by
        rw [position, Position.behind_append (consumed ++ gap)]
      simp only [rebuild, width, next, List.take_left, List.drop_left, rebuilt]

/-- The output of a pass that keeps line ends has all of its source but which
blanks stand between, before and after what it tells of. -/
theorem tokenize_retains_source {config : Config} (emits : config.emitEndOfLine = true)
    {name : CodePoints} {source : String} {sequence : TokenSequence}
    (done : tokenize config name source = .ok sequence) : sequence.Retains source.toList := by
  obtain ⟨closed, result⟩ := of_tokenize_ok done
  have tiles := tiles_all source.toList
  have ordered := pairwise_place [] (all source.toList)
  have tokens : sequence.tokens.toList = Placed.tokens config name (segmentsOf source) := by
    simp [result]
  have warnings : sequence.warnings.toList = Placed.warnings name (segmentsOf source) := by
    simp [result]
  have items := Placed.items_eq config name ordered tokens warnings
  have laid := laid_of_tiles config name emits tiles closed []
  rw [← items] at laid
  exact {
    itemsOrdered := by
      rw [items]
      exact Placed.pairwise_told ordered Placed.position_of_item?
    tokensOrdered := by
      rw [tokens]
      exact Placed.pairwise_told ordered Placed.position_of_token?
    warningsOrdered := by
      rw [warnings]
      apply Placed.pairwise_told ordered
      intro p warning found
      exact congrArg Location.position (Placed.location_of_warning? found)
    singleStrays := by
      intro warning inside
      rw [TokenSequence.strays, warnings, Placed.warnings, List.filter_filterMap] at inside
      obtain ⟨p, _, found⟩ := List.mem_filterMap.mp inside
      obtain ⟨c, _, _, lexeme⟩ := Placed.symbol_of_stray? found
      exact ⟨c, lexeme⟩
    laid := laid
    rebuilt := rebuild_of_laid laid }

/-- A source with a literal over two lines, a malformed number and a character
that is not recognized. -/
theorem tokenize_retains_two_lines :
    ∃ sequence, tokenize { emitEndOfLine := true } "f" "a\t\"b\nc\" \n 1.. \\" = .ok sequence ∧
      sequence.Retains "a\t\"b\nc\" \n 1.. \\".toList := by
  have done := tokenize_eq { emitEndOfLine := true } "f" "a\t\"b\nc\" \n 1.. \\"
  rw [failure?_of_even (by decide)] at done
  exact ⟨_, done, tokenize_retains_source rfl done⟩

end LexicalPass
