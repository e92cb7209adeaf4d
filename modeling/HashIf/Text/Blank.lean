/-!
# `HashIf.Text.Blank`: white space and ranges of code points

## Contents
- `inRanges`: membership of a character in a table of code point ranges.
- `isBlank`: the characters that separate lexemes and are stripped from the ends of a setting.
- `trim`, `trimLeft`: a text without its outer white space.
-/

namespace HashIf.Text

/-- Whether the code point of `c` lies in one of the closed ranges of `table`. -/
def inRanges (table : List (Nat × Nat)) (c : Char) : Bool :=
  table.any fun r => r.1 ≤ c.toNat && c.toNat ≤ r.2

/-- The code points that count as white space: the separators of Unicode together with the
    ASCII controls that end a line, a page, a field or a record. -/
def blankRanges : List (Nat × Nat) :=
  [(0x09, 0x0d), (0x1c, 0x20), (0x85, 0x85), (0xa0, 0xa0), (0x1680, 0x1680), (0x2000, 0x200a),
   (0x2028, 0x2029), (0x202f, 0x202f), (0x205f, 0x205f), (0x3000, 0x3000)]

/-- White space. -/
def isBlank (c : Char) : Bool := inRanges blankRanges c

/-- The text without the white space in front. -/
def trimLeft (cs : List Char) : List Char := cs.dropWhile isBlank

/-- The text without the white space at both ends. -/
def trim (cs : List Char) : List Char := (trimLeft (trimLeft cs).reverse).reverse

end HashIf.Text
