import HashIf.Text.Emoji
import HashIf.Text.Width

/-!
# `HashIf.Console.Lines`: text on a terminal of eighty columns

## Contents
- `fillTabs`, `expandTabs`: spaces in place of tabs.
- `report`: a text as it is shown for an error, with nothing wrapped.
- `wrap`: a text folded into lines of a given width, between words where possible.
-/

namespace HashIf.Console

/-- The number of columns of the terminal. -/
def terminalWidth : Nat := 80

/-- The distance between tab stops. -/
def tabWidth : Nat := 8

/-- The control characters that would move the cursor: bell, backspace, vertical tab, form feed
    and carriage return. -/
def movesCursor (c : Char) : Bool := [7, 8, 11, 12, 13].contains c.toNat

/-- Puts the parts of a line together that stand between tabs; `column` is where they start.  A tab
    counts as a space before it is filled up to the next stop, so a joiner in front of it hides
    that space. -/
def fillTabs (column : Nat) : List (List Char) → List Char
  | [] => []
  | [part] => part
  | part :: next :: parts =>
    let reached := column + Text.textColumns (part ++ [' '])
    let missing := (tabWidth - reached % tabWidth) % tabWidth
    part ++ List.replicate (1 + missing) ' ' ++ fillTabs (reached + missing) (next :: parts)

/-- A line with its tabs expanded. -/
def expandTabs (line : List Char) : List Char := fillTabs 0 (line.splitOn '\t')

/-- A text as it is shown: with pictures in place of their names, without the characters that move
    the cursor, with tabs expanded, and with a line feed at the end of every line. -/
def report (s : String) : String :=
  let shown := (Text.Emoji.replace s.toList).filter (!movesCursor ·)
  String.ofList ((shown.splitOn '\n').flatMap fun line => expandTabs line ++ ['\n'])

/-! ## Folding -/

/-- Cuts a text behind every run of spaces. -/
def wordsOf : List Char → List (List Char)
  | [] => []
  | c :: cs =>
    match wordsOf cs with
    | [] => [[c]]
    | w :: ws => if c == ' ' && w.head? != some ' ' then [c] :: w :: ws else (c :: w) :: ws

/-- Cuts a text into pieces of `width` characters; `room` is what the first piece has left. -/
def chop (width : Nat) : (room : Nat) → List Char → List (List Char)
  | _, [] => [[]]
  | 0, c :: cs =>
    match chop width (width - 1) cs with
    | [] => [[], [c]]
    | p :: ps => [] :: (c :: p) :: ps
  | k + 1, c :: cs =>
    match chop width k cs with
    | [] => [[c]]
    | p :: ps => (c :: p) :: ps

/-- The word without the spaces behind it. -/
def bare (word : List Char) : List Char := (word.reverse.dropWhile (· == ' ')).reverse

/-- Folds words into lines; `line` is the line so far.  A word that is wider than a line starts
    on a line of its own and is cut. -/
def foldWords (width : Nat) : (line : List Char) → List (List Char) → List (List Char)
  | line, [] => [line]
  | line, w :: ws =>
    let n := (bare w).length
    if line.length + n ≤ width then foldWords width (line ++ w) ws
    else if n ≤ width then line :: foldWords width w ws
    else
      let pieces := chop width width w
      let before := if line.isEmpty then [] else [line]
      before ++ pieces.dropLast ++ foldWords width (pieces.getLast?.getD []) ws

/-- The text folded into lines of `width` columns, without the spaces that stick out at the end of
    a line; there is no line if there are no columns. -/
def wrap (width : Nat) (s : String) : List String :=
  if width = 0 then []
  else (foldWords width [] (wordsOf s.toList)).map fun l => String.ofList (l.take width)

end HashIf.Console
