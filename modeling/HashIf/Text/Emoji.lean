import HashIf.Text.Blank
import HashIf.Text.Emoji.Names

/-!
# `HashIf.Text.Emoji`: pictures by their names

A name between two colons stands for a picture, as in `:smile:`; letters of both cases are the
same.  At the end of a name, `-emoji` asks for the coloured form and `-text` for the plain one.
What is between two colons and names no picture stays as it is, and so does a colon that no other
colon follows before the next white space.

## Contents
- `lower`, `find?`: the picture of a name.
- `splitVariant`, `expand?`: the picture of a name with the form it asks for.
- `replace`: a text with its pictures.
-/

namespace HashIf.Text.Emoji

/-- The small form of a letter that can occur in a name; the signs for kelvin and for ångström are
    letters too. -/
def lower (c : Char) : Char :=
  let n := c.toNat
  if 0xc0 ≤ n ∧ n ≤ 0xde ∧ n ≠ 0xd7 then Char.ofNat (n + 0x20)
  else if n = 0x212a then 'k'
  else if n = 0x212b then 'å'
  else c.toLower

/-- The picture with the given name. -/
def find? (name : List Char) : Option String :=
  let name := name.map lower
  name.head?.bind fun initial => (byInitial initial).lookup (String.ofList name)

/-- The forms of a picture, by what asks for them, with the selector that stands for each. -/
def variants : List (List Char × Char) :=
  [("-emoji".toList, Char.ofNat 0xfe0f), ("-text".toList, Char.ofNat 0xfe0e)]

/-- A name without the form it asks for, and the selector of that form. -/
def splitVariant (name : List Char) : List Char × List Char :=
  match variants.find? fun v => v.1.isSuffixOf name with
  | some v => (name.take (name.length - v.1.length), [v.2])
  | none => (name, [])

/-- The picture with the given name in the form it asks for. -/
def expand? (name : List Char) : Option (List Char) :=
  let (stem, selector) := splitVariant name
  (find? stem).map fun picture => picture.toList ++ selector

/-- Whether a character can stand between the two colons. -/
def isNameChar (c : Char) : Bool := c != ':' && !isBlank c

/-- Dropping the characters of a name does not lengthen a text. -/
theorem length_dropWhile_isNameChar_le (cs : List Char) :
    (cs.dropWhile isNameChar).length ≤ cs.length :=
  (List.dropWhile_suffix isNameChar).length_le

/-- A text with pictures in place of their names. -/
def replace (cs : List Char) : List Char :=
  match cs with
  | [] => []
  | c :: rest =>
    if c != ':' then c :: replace rest
    else
      match _h : rest.dropWhile isNameChar with
      | ':' :: behind =>
        let name := rest.takeWhile isNameChar
        (expand? name).getD (':' :: name ++ [':']) ++ replace behind
      | _ => c :: replace rest
termination_by cs.length
decreasing_by
  · simp only [List.length_cons]
    omega
  · have := length_dropWhile_isNameChar_le rest
    simp only [_h, List.length_cons] at this ⊢
    omega
  · simp only [List.length_cons]
    omega

end HashIf.Text.Emoji
