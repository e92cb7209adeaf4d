import HashIf.Number
import HashIf.Operator

/-!
# `HashIf.Token`: the tokens of a condition

Every token knows the offset of its first character, and its length in the text.
-/

namespace HashIf

/-- A token of a condition. -/
inductive Token where
  | bracket (pos : Nat) (opening : Bool)
  | name (pos : Nat) (text : String)
  | operator (pos : Nat) (op : Operator)
  /-- A number; `length` counts the characters of the numeral with its suffixes. -/
  | number (pos length : Nat) (value : Number)
  deriving DecidableEq, Repr

namespace Token

/-- The offset of the first character. -/
def pos : Token → Nat
  | bracket p _ | name p _ | operator p _ | number p _ _ => p

/-- The number of characters. -/
def length : Token → Nat
  | bracket _ _ => 1
  | name _ s => s.length
  | operator _ op => op.symbolChars.length
  | number _ n _ => n

/-- The offset behind the last character. -/
def endPos (t : Token) : Nat := t.pos + t.length

/-- Whether a sign behind this token belongs to what follows it. -/
def opensOperand : Token → Bool
  | operator _ _ => true
  | bracket _ opening => opening
  | _ => false

end Token

end HashIf
