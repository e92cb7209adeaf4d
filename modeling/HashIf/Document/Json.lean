import HashIf.Document.Value
import HashIf.Number

/-!
# `HashIf.Document.Json`: reading JSON

The reader accepts the JSON grammar together with the numbers `NaN`, `Infinity` and `-Infinity`.
A key that occurs again in an object replaces the earlier value.  Integers are limited to the
number of digits that a condition's integers have.

## Contents
- `readString`: the characters of a string behind its opening quote.
- `readNumber`: an integer or a double.
- `readValue`, `readItems`, `readMembers`: the recursion, on a count of steps.
- `read?`: a whole document.
-/

namespace HashIf.Document.Json

/-- The white space of JSON. -/
def isSpace (c : Char) : Bool := c == ' ' || c == '\t' || c == '\n' || c == '\r'

/-- The text behind its leading white space. -/
def skip (cs : List Char) : List Char := cs.dropWhile isSpace

/-- The value of a hexadecimal digit. -/
def hexValue? (c : Char) : Option Nat :=
  if c.isDigit then some (c.toNat - 0x30)
  else if 'a' ≤ c && c ≤ 'f' then some (c.toNat - 0x57)
  else if 'A' ≤ c && c ≤ 'F' then some (c.toNat - 0x37)
  else none

/-- The number written with `count` hexadecimal digits, and the text behind them. -/
def readHex : (count : Nat) → (acc : Nat) → List Char → Option (Nat × List Char)
  | 0, acc, cs => some (acc, cs)
  | _ + 1, _, [] => none
  | k + 1, acc, c :: cs => (hexValue? c).bind fun d => readHex k (16 * acc + d) cs

/-- A character outside the first plane is escaped as two halves. -/
def joinHalves (high low : Nat) : Char :=
  Char.ofNat (0x10000 + (high - 0xd800) * 0x400 + (low - 0xdc00))

/-- The character of a code unit; a half without partner stands for no character. -/
def unitChar (n : Nat) : Char :=
  if 0xd800 ≤ n ∧ n ≤ 0xdfff then Char.ofNat 0xfffd else Char.ofNat n

/-- A code point behind `\u`, which may take two escapes. -/
def readUnit (cs : List Char) : Option (Char × List Char) :=
  match readHex 4 0 cs with
  | none => none
  | some (high, rest) =>
    if 0xd800 ≤ high ∧ high ≤ 0xdbff then
      match rest with
      | '\\' :: 'u' :: rest' =>
        match readHex 4 0 rest' with
        | some (low, rest'') =>
          if 0xdc00 ≤ low ∧ low ≤ 0xdfff then some (joinHalves high low, rest'')
          else some (unitChar high, rest)
        | none => some (unitChar high, rest)
      | _ => some (unitChar high, rest)
    else some (unitChar high, rest)

/-- The character of an escape of one letter. -/
def simpleEscape? : Char → Option Char
  | '"' => some '"'
  | '\\' => some '\\'
  | '/' => some '/'
  | 'b' => some (Char.ofNat 8)
  | 'f' => some (Char.ofNat 12)
  | 'n' => some '\n'
  | 'r' => some '\r'
  | 't' => some '\t'
  | _ => none

/-- The characters up to the closing quote, in reverse, put in front of `acc`. -/
def readString : (fuel : Nat) → (acc : List Char) → List Char → Option (String × List Char)
  | 0, _, _ => none
  | _ + 1, _, [] => none
  | k + 1, acc, c :: cs =>
    if c == '"' then some (String.ofList acc.reverse, cs)
    else if c == '\\' then
      match cs with
      | [] => none
      | 'u' :: rest => (readUnit rest).bind fun r => readString k (r.1 :: acc) r.2
      | e :: rest => (simpleEscape? e).bind fun x => readString k (x :: acc) rest
    else if c.toNat < 0x20 then none
    else readString k (c :: acc) cs

/-- An exponent part, if the text starts with a whole one: its characters and the rest. -/
def takeExponent (cs : List Char) : List Char × List Char :=
  match cs with
  | e :: rest =>
    if e == 'e' || e == 'E' then
      let (sign, rest) := match rest with
        | '+' :: r => (['+'], r)
        | '-' :: r => (['-'], r)
        | r => ([], r)
      let ds := rest.takeWhile Char.isDigit
      if ds.isEmpty then ([], cs) else (e :: (sign ++ ds), rest.dropWhile Char.isDigit)
    else ([], cs)
  | [] => ([], cs)

/-- A fraction part, if the text starts with a whole one: its characters and the rest. -/
def takeFraction (cs : List Char) : List Char × List Char :=
  match cs with
  | '.' :: rest =>
    let ds := rest.takeWhile Char.isDigit
    if ds.isEmpty then ([], cs) else ('.' :: ds, rest.dropWhile Char.isDigit)
  | _ => ([], cs)

/-- The integer part: a single zero, or digits that do not start with one. -/
def takeWhole (cs : List Char) : List Char × List Char :=
  match cs with
  | '0' :: rest => (['0'], rest)
  | _ => (cs.takeWhile Char.isDigit, cs.dropWhile Char.isDigit)

/-- An integer, or a double if there is a fraction or an exponent. -/
def readNumber (cs : List Char) : Option (Value × List Char) :=
  let (negative, body) := match cs with
    | '-' :: r => (true, r)
    | r => (false, r)
  let (whole, rest) := takeWhole body
  let (fraction, rest) := takeFraction rest
  let (exponent, rest) := takeExponent rest
  if whole.isEmpty then none
  else if fraction.isEmpty && exponent.isEmpty then
    if Number.digitLimit < whole.length then none
    else
      let n : Int := ofDigits whole
      some (.int (if negative then -n else n), rest)
  else
    (Decimal.read? (whole ++ fraction ++ exponent)).map fun d =>
      (.float (Binary64.ofDecimal negative d), rest)

/-- The text behind a given word. -/
def skipWord? : (word : List Char) → List Char → Option (List Char)
  | [], cs => some cs
  | _ :: _, [] => none
  | w :: ws, c :: cs => if w == c then skipWord? ws cs else none

/-- A value that is written as a word. -/
def readWord (cs : List Char) : Option (Value × List Char) :=
  [("null", Value.null), ("true", .bool true), ("false", .bool false), ("NaN", .float .nan),
   ("Infinity", .float (.infinite false)), ("-Infinity", .float (.infinite true))].findSome?
    fun w => (skipWord? w.1.toList cs).map fun rest => (w.2, rest)

mutual

/-- One value at the head of the text. -/
def readValue : (fuel : Nat) → List Char → Option (Value × List Char)
  | 0, _ => none
  | k + 1, cs =>
    match cs with
    | '"' :: rest => (readString (rest.length + 1) [] rest).map fun r => (.str r.1, r.2)
    | '[' :: rest =>
      match skip rest with
      | ']' :: rest => some (.list [], rest)
      | rest => (readItems k rest).map fun r => (.list r.1, r.2)
    | '{' :: rest =>
      match skip rest with
      | '}' :: rest => some (.table [], rest)
      | rest => (readMembers k rest).map fun r => (.table (Entries.ofPairs r.1), r.2)
    | cs => (readWord cs).or (readNumber cs)

/-- The items of an array up to its closing bracket. -/
def readItems : (fuel : Nat) → List Char → Option (List Value × List Char)
  | 0, _ => none
  | k + 1, cs =>
    match readValue k cs with
    | none => none
    | some (v, rest) =>
      match skip rest with
      | ',' :: rest => (readItems k (skip rest)).map fun r => (v :: r.1, r.2)
      | ']' :: rest => some ([v], rest)
      | _ => none

/-- The members of an object up to its closing brace. -/
def readMembers : (fuel : Nat) → List Char → Option (List (String × Value) × List Char)
  | 0, _ => none
  | k + 1, cs =>
    match cs with
    | '"' :: rest =>
      match readString (rest.length + 1) [] rest with
      | none => none
      | some (key, rest) =>
        match skip rest with
        | ':' :: rest =>
          match readValue k (skip rest) with
          | none => none
          | some (v, rest) =>
            match skip rest with
            | ',' :: rest => (readMembers k (skip rest)).map fun r => ((key, v) :: r.1, r.2)
            | '}' :: rest => some ([(key, v)], rest)
            | _ => none
        | _ => none
    | _ => none

end

/-- A whole document: one value between white space. -/
def read? (cs : List Char) : Option Value :=
  match readValue (2 * cs.length + 2) (skip cs) with
  | some (v, rest) => if (skip rest).isEmpty then some v else none
  | none => none

end HashIf.Document.Json
