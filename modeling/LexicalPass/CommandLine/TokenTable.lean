import LexicalPass.Text.WrappedLine
import LexicalPass.TokenSequence

/-!
The table of tokens.  Columns are as wide as their widest cell, and the lexemes
give way when the table would be wider than the terminal: they are then broken
into lines between words.
-/

set_option autoImplicit false

namespace LexicalPass.TokenTable

/-- The number of cells in a line of the terminal. -/
def terminalWidth : Nat := 80

structure Row (α : Type) where
  line : α
  column : α
  kind : α
  lexeme : α
deriving DecidableEq, Repr

def Row.map {α β : Type} (f : α → β) (row : Row α) : Row β :=
  ⟨f row.line, f row.column, f row.kind, f row.lexeme⟩

def Row.toList {α : Type} (row : Row α) : List α := [row.line, row.column, row.kind, row.lexeme]

abbrev Cells := Row (List Char)

abbrev Widths := Row Nat

def headings : Cells := ⟨"Line".toList, "Col".toList, "Kind".toList, "Lexeme".toList⟩

def cellsOf (t : Token) : Cells where
  line := (toString t.position.line).toList
  column := (toString t.position.column).toList
  kind := t.kind.name.toList
  lexeme := Text.quoteChars t.lexeme

def widen (widths : Widths) (cells : Cells) : Widths :=
  let sizes := cells.map Text.cellLength
  ⟨max widths.line sizes.line, max widths.column sizes.column, max widths.kind sizes.kind,
    max widths.lexeme sizes.lexeme⟩

/-- Five rules, and a blank on either side of each of the four columns. -/
def frameWidth : Nat := 13

def narrow (widths : Widths) : Widths :=
  let others := frameWidth + widths.line + widths.column + widths.kind
  { widths with lexeme := min widths.lexeme (terminalWidth - others) }

def widthsOf (rows : List Cells) : Widths :=
  narrow (rows.foldl widen (headings.map Text.cellLength))

def blanks (count : Nat) : List Char := List.replicate count ' '

def alignRight (width : Nat) (s : List Char) : List Char :=
  blanks (width - Text.cellLength s) ++ s

def alignLeft (width : Nat) (s : List Char) : List Char :=
  s ++ blanks (width - Text.cellLength s)

/-- Numbers stand to the right and names to the left. -/
def align (widths : Widths) (cells : Cells) : Cells where
  line := alignRight widths.line (Text.abridge widths.line cells.line)
  column := alignRight widths.column (Text.abridge widths.column cells.column)
  kind := alignLeft widths.kind (Text.abridge widths.kind cells.kind)
  lexeme := alignLeft widths.lexeme (Text.abridge widths.lexeme cells.lexeme)

structure Border where
  left : Char
  between : Char
  right : Char

def frame (border : Border) (cells : List (List Char)) : String :=
  String.ofList (border.left :: List.intercalate [border.between] cells ++ [border.right, '\n'])

def ruleLine (border : Border) (stroke : Char) (widths : Widths) : String :=
  frame border (widths.toList.map fun width => List.replicate (width + 2) stroke)

def cellLine (edge : Char) (widths : Widths) (cells : Cells) : String :=
  frame ⟨edge, edge, edge⟩ ((align widths cells).toList.map fun cell => ' ' :: cell ++ [' '])

/-- The lines of a row.  Only the lexeme takes more than one. -/
def linesOf (widths : Widths) (cells : Cells) : List Cells :=
  match Text.wrap widths.lexeme cells.lexeme with
  | [] => [cells]
  | line :: lines => { cells with lexeme := line } :: lines.map fun line => ⟨[], [], [], line⟩

def rowLines (widths : Widths) (cells : Cells) : String :=
  String.join ((linesOf widths cells).map (cellLine '│' widths))

def render (tokens : List Token) : String :=
  let rows := tokens.map cellsOf
  let widths := widthsOf rows
  ruleLine ⟨'┏', '┳', '┓'⟩ '━' widths ++ cellLine '┃' widths headings ++
    ruleLine ⟨'┡', '╇', '┩'⟩ '━' widths ++ String.join (rows.map (rowLines widths)) ++
    ruleLine ⟨'└', '┴', '┘'⟩ '─' widths

end LexicalPass.TokenTable
