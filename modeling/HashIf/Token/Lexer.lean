import HashIf.Rejection
import HashIf.Text.Blank
import HashIf.Token

/-!
# `HashIf.Token.Lexer`: from text to tokens

White space separates tokens and means nothing else.  A word is a longest run of letters, digits,
underscores and points; it is a number if it starts with a digit and a name otherwise.  Of two
operators that fit, the longer one is taken.

## Contents
- `numeralPart`: a word without the suffixes that C allows behind an integer.
- `ofWord`: the token that a word denotes.
- `operatorAt?`: the operator at the head of a text.
- `lexFrom`, `lex`: all tokens, or the first lexical fault.
-/

namespace HashIf.Token

/-- What stops the reading of tokens. -/
inductive LexFault where
  | located (f : LocatedFault)
  | numeralTooLong (digits : Nat)
  deriving DecidableEq, Repr

/-- The characters of words. -/
def isWordChar (c : Char) : Bool := c.isAlphanum || c == '_' || c == '.'

/-- A word in lower case without its suffix: at most one `u`, followed by any number of `l`. -/
def numeralPart (word : List Char) : List Char :=
  match (word.map Char.toLower).reverse.dropWhile (· == 'l') with
  | 'u' :: rest => rest.reverse
  | rest => rest.reverse

/-- The token that the word at offset `pos` denotes. -/
def ofWord (pos : Nat) (word : List Char) : Except LexFault Token :=
  if (word.head?.map Char.isDigit).getD false then
    match Number.ofNumeral (numeralPart word) with
    | .ok v => .ok (.number pos word.length v)
    | .error .malformed => .error (.located ⟨.badLiteral (String.ofList word), some pos⟩)
    | .error (.tooManyDigits n) => .error (.numeralTooLong n)
  else match word.findIdx? (· == '.') with
    | some i => .error (.located ⟨.pointInName, some (pos + i : Nat)⟩)
    | none => .ok (.name pos (String.ofList word))

/-- The operator of two characters. -/
def pairOperator? : Char → Char → Option Operator
  | '&', '&' => some .boolAnd
  | '|', '|' => some .boolOr
  | '+', '+' => some .increment
  | '-', '-' => some .decrement
  | '=', '=' => some .eq
  | '!', '=' => some .ne
  | '<', '=' => some .le
  | '>', '=' => some .ge
  | '>', '>' => some .shiftRight
  | '<', '<' => some .shiftLeft
  | _, _ => none

/-- The operator of one character; `unary` decides what a sign is. -/
def singleOperator? (unary : Bool) : Char → Option Operator
  | '+' => some (if unary then .plus else .add)
  | '-' => some (if unary then .minus else .sub)
  | '!' => some .boolNot
  | '*' => some .mul
  | '/' => some .div
  | '%' => some .mod
  | '<' => some .lt
  | '>' => some .gt
  | '&' => some .bitAnd
  | '|' => some .bitOr
  | '^' => some .bitXor
  | '~' => some .bitNot
  | _ => none

/-- Whether a sign behind `previous` is unary: at the start, behind an operator and behind an
    opening bracket. -/
def unaryPosition (previous : Option Token) : Bool := (previous.map opensOperand).getD true

/-- The operator at the head of `c :: rest`, the longer one of two. -/
def operatorAt? (previous : Option Token) (c : Char) (rest : List Char) : Option Operator :=
  (rest.head?.bind (pairOperator? c)).or (singleOperator? (unaryPosition previous) c)

/-- Dropping a run of characters does not lengthen a text. -/
theorem length_dropWhile_le (p : Char → Bool) (cs : List Char) :
    (cs.dropWhile p).length ≤ cs.length := by
  induction cs with
  | nil => exact Nat.le_refl _
  | cons c cs ih =>
      rw [List.dropWhile_cons]
      split
      · exact Nat.le_succ_of_le ih
      · exact Nat.le_refl _

/-- The tokens of a text that starts at offset `pos` behind the token `previous`. -/
def lexFrom (pos : Nat) (previous : Option Token) (cs : List Char) :
    Except LexFault (List Token) :=
  match cs with
  | [] => .ok []
  | c :: rest =>
    if Text.isBlank c then lexFrom (pos + 1) previous rest
    else if c == '(' || c == ')' then
      let t := Token.bracket pos (c == '(')
      (t :: ·) <$> lexFrom (pos + 1) (some t) rest
    else if isWordChar c then
      let word := c :: rest.takeWhile isWordChar
      match ofWord pos word with
      | .error f => .error f
      | .ok t => (t :: ·) <$> lexFrom (pos + word.length) (some t) (rest.dropWhile isWordChar)
    -- What is left is an operator; the token before it tells a sign from a binary operator.
    else match operatorAt? previous c rest with
      | none => .error (.located ⟨.invalidCharacter c, some pos⟩)
      | some op =>
        let t := Token.operator pos op
        let n := op.symbolChars.length
        (t :: ·) <$> lexFrom (pos + n) (some t) (rest.drop (n - 1))
termination_by cs.length
decreasing_by
  all_goals simp only [List.length_cons, List.length_drop]
  · omega
  · omega
  · have := length_dropWhile_le isWordChar rest
    omega
  · omega

/-- The tokens of a condition. -/
def lex (text : String) : Except Failure (List Token) :=
  (lexFrom 0 none text.toList).mapError fun
    | .located f => .rejected (.ofLocated (some text) f)
    | .numeralTooLong n => .numeralTooLong n

end HashIf.Token
