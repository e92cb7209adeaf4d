import HashIf.Console.Lines
import HashIf.Token

/-!
# `HashIf.Console.Table`: the table of tokens

The table has a title, a row of headings and a row for every token.  A column is as wide as its
widest cell; if the table does not fit the terminal, the last column is narrowed and the values
that stick out of it are cut off.

## Contents
- `cells`: the three cells of a token.
- `padRight`, `padLeft`, `center`, `cut`: texts of a given width.
- `Widths`, `widthsOf`: the widths of the columns.
- `rule`, `rowLine`, `tokenTable`: the lines of the table.
-/

namespace HashIf.Console

/-- The cells of a token: its offset, its kind and its value. -/
def cells : Token → String × String × String
  | .bracket p opening => (toString p, "bracket", if opening then "(" else ")")
  | .operator p op => (toString p, "operator", op.symbol ++ " (" ++ op.name ++ ")")
  | .number p _ v => (toString p, "literal", v.display)
  | .name p s => (toString p, "identifier", s)

/-- `n` times the same text. -/
def times (n : Nat) (s : String) : String := String.join (List.replicate n s)

/-- A text with spaces behind it up to the given width. -/
def padRight (width : Nat) (s : String) : String := s ++ times (width - s.length) " "

/-- A text with spaces in front of it up to the given width. -/
def padLeft (width : Nat) (s : String) : String := times (width - s.length) " " ++ s

/-- A text in the middle of the given width; an odd space goes behind it. -/
def center (width : Nat) (s : String) : String :=
  padRight width (times ((width - s.length) / 2) " " ++ s)

/-- A text cut off at the given width, with a mark in the last column where something is missing. -/
def cut (width : Nat) (s : String) : String :=
  if s.length ≤ width then s else String.ofList (s.toList.take (width - 1)) ++ "…"

/-- The widths of the three columns. -/
structure Widths where
  pos : Nat
  kind : Nat
  value : Nat

/-- The widest of several texts. -/
def widest (texts : List String) : Nat := (texts.map String.length).foldl max 0

/-- The width that borders and the spaces around the cells take. -/
def frameWidth : Nat := 10

/-- The widths of the columns for the given rows. -/
def widthsOf (rows : List (String × String × String)) : Widths :=
  let pos := widest ("Pos" :: rows.map (·.1))
  let kind := widest ("Kind" :: rows.map (·.2.1))
  let value := widest ("Value" :: rows.map (·.2.2))
  ⟨pos, kind, min value (terminalWidth - frameWidth - pos - kind)⟩

/-- A horizontal rule. -/
def rule (w : Widths) (left bar joint right : String) : String :=
  left ++ times (w.pos + 2) bar ++ joint ++ times (w.kind + 2) bar ++ joint
    ++ times (w.value + 2) bar ++ right ++ "\n"

/-- A line of three cells. -/
def rowLine (bar : String) (pos kind value : String) : String :=
  bar ++ " " ++ pos ++ " " ++ bar ++ " " ++ kind ++ " " ++ bar ++ " " ++ value ++ " " ++ bar ++ "\n"

/-- The line of a token. -/
def tokenLine (w : Widths) (row : String × String × String) : String :=
  rowLine "│" (padLeft w.pos row.1) (padRight w.kind row.2.1) (padRight w.value (cut w.value row.2.2))

/-- The table of tokens. -/
def tokenTable (tokens : List Token) : String :=
  let rows := tokens.map cells
  let w := widthsOf rows
  center (w.pos + w.kind + w.value + frameWidth) "Tokens" ++ "\n"
    ++ rule w "┏" "━" "┳" "┓"
    ++ rowLine "┃" (padLeft w.pos "Pos") (padRight w.kind "Kind") (padRight w.value "Value")
    ++ rule w "┡" "━" "╇" "┩"
    ++ String.join (rows.map (tokenLine w))
    ++ rule w "└" "─" "┴" "┘"

end HashIf.Console
