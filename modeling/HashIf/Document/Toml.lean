import HashIf.Document.Json

/-!
# `HashIf.Document.Toml`: reading TOML

A document is a row of lines, each with a key and its value, the header of a table, or the header
of the next entry in a list of tables.  A key may be given only once, a table may be opened by a
header only once, and what is written inline can not be extended later.

## Contents
- `readBasic`, `readLiteral`, `readText`: the four kinds of strings.
- `readKey`: a dotted key as a path.
- `readNumber`: integers in four bases, and doubles.
- `updateAt`: a change in the table at the end of a path.
- `readValue`, `readItems`, `readInline`: values, on a count of steps.
- `Builder`, `Builder.assign`, `Builder.openTable`, `Builder.openEntry`: the document so far.
- `readLines`, `read?`: a whole document.
-/

namespace HashIf.Document.Toml

/-! ## Layout -/

/-- The white space inside a line. -/
def isSpace (c : Char) : Bool := c == ' ' || c == '\t'

/-- The text behind its leading white space. -/
def skip (cs : List Char) : List Char := cs.dropWhile isSpace

/-- The characters that may stand neither in a string nor in a comment. -/
def isControl (c : Char) : Bool := (c.toNat < 0x20 && c != '\t') || c.toNat = 0x7f

/-- The text behind a comment, up to the end of the line; a text without comment is unchanged. -/
def skipComment (cs : List Char) : Option (List Char) :=
  match cs with
  | '#' :: rest =>
    if (rest.takeWhile (· != '\n')).any isControl then none
    else some (rest.dropWhile (· != '\n'))
  | _ => some cs

/-- The text behind white space, line ends and comments. -/
def skipLines : (fuel : Nat) → List Char → Option (List Char)
  | 0, cs => some cs
  | k + 1, cs =>
    match cs.dropWhile fun c => isSpace c || c == '\n' with
    | '#' :: rest => (skipComment ('#' :: rest)).bind (skipLines k)
    | rest => some rest

/-! ## Strings -/

/-- The character of an escape of one letter. -/
def simpleEscape? : Char → Option Char
  | 'b' => some (Char.ofNat 8)
  | 't' => some '\t'
  | 'n' => some '\n'
  | 'f' => some (Char.ofNat 12)
  | 'r' => some '\r'
  | '"' => some '"'
  | '\\' => some '\\'
  | _ => none

/-- The character with a given code point, which is not one half of a pair. -/
def scalar? (n : Nat) : Option Char :=
  if n < 0xd800 ∨ (0xe000 ≤ n ∧ n < 0x110000) then some (Char.ofNat n) else none

/-- The text behind a backslash that ends a line. -/
def skipLineEnd (cs : List Char) : Option (List Char) :=
  match skip cs with
  | '\n' :: rest => some (rest.dropWhile fun c => isSpace c || c == '\n')
  | [] => some []
  | _ => none

/-- The characters that the escape behind a backslash stands for, and the text behind it. -/
def readEscape (multiline : Bool) (cs : List Char) : Option (List Char × List Char) :=
  match cs with
  | [] => none
  | c :: rest =>
    if multiline && (isSpace c || c == '\n') then (skipLineEnd cs).map fun r => ([], r)
    else if c == 'u' then
      (Json.readHex 4 0 rest).bind fun r => (scalar? r.1).map fun x => ([x], r.2)
    else if c == 'U' then
      (Json.readHex 8 0 rest).bind fun r => (scalar? r.1).map fun x => ([x], r.2)
    else (simpleEscape? c).map fun x => ([x], rest)

/-- The characters of a string with escapes up to its closing quotes, in reverse in front of
    `acc`. -/
def readBasic (multiline : Bool) : (fuel : Nat) → (acc : List Char) → List Char →
    Option (List Char × List Char)
  | 0, _, _ => none
  | _ + 1, _, [] => none
  | k + 1, acc, c :: cs =>
    if c == '"' then
      if !multiline then some (acc.reverse, cs)
      else match cs with
        | '"' :: '"' :: rest => some (acc.reverse, rest)
        | _ => readBasic multiline k (c :: acc) cs
    else if c == '\\' then
      (readEscape multiline cs).bind fun r => readBasic multiline k (r.1.reverse ++ acc) r.2
    else if isControl c && !(multiline && c == '\n') then none
    else readBasic multiline k (c :: acc) cs

/-- The characters of a string without escapes up to its closing apostrophes. -/
def readLiteral (multiline : Bool) : (acc : List Char) → List Char →
    Option (List Char × List Char)
  | _, [] => none
  | acc, '\'' :: cs =>
    if !multiline then some (acc.reverse, cs)
    else match cs with
      | '\'' :: '\'' :: rest => some (acc.reverse, rest)
      | _ => readLiteral multiline ('\'' :: acc) cs
  | acc, c :: cs =>
    if isControl c && !(multiline && c == '\n') then none
    else readLiteral multiline (c :: acc) cs

/-- A line end directly behind the opening quotes does not count. -/
def skipFirstBreak : List Char → List Char
  | '\n' :: rest => rest
  | cs => cs

/-- Up to two quotes in front of the closing ones belong to the string. -/
def extraQuotes (quote : Char) (s rest : List Char) : List Char × List Char :=
  match rest with
  | a :: b :: rest' =>
    if a == quote then
      if b == quote then (s ++ [quote, quote], rest') else (s ++ [quote], b :: rest')
    else (s, rest)
  | [a] => if a == quote then (s ++ [quote], []) else (s, rest)
  | [] => (s, rest)

/-- A string of any kind that starts at the head of the text. -/
def readText (cs : List Char) : Option (String × List Char) :=
  let done := fun (r : List Char × List Char) => (String.ofList r.1, r.2)
  match cs with
  | '"' :: '"' :: '"' :: rest =>
    (readBasic true (rest.length + 1) [] (skipFirstBreak rest)).map fun r =>
      done (extraQuotes '"' r.1 r.2)
  | '"' :: rest => (readBasic false (rest.length + 1) [] rest).map done
  | '\'' :: '\'' :: '\'' :: rest =>
    (readLiteral true [] (skipFirstBreak rest)).map fun r => done (extraQuotes '\'' r.1 r.2)
  | '\'' :: rest => (readLiteral false [] rest).map done
  | _ => none

/-! ## Keys -/

/-- The characters of a key without quotes. -/
def isKeyChar (c : Char) : Bool := c.isAlphanum || c == '-' || c == '_'

/-- One part of a key; a quoted part stands on one line. -/
def readKeyPart (cs : List Char) : Option (String × List Char) :=
  match cs with
  | '"' :: rest =>
    (readBasic false (rest.length + 1) [] rest).map fun r => (String.ofList r.1, r.2)
  | '\'' :: rest => (readLiteral false [] rest).map fun r => (String.ofList r.1, r.2)
  | _ =>
    let part := cs.takeWhile isKeyChar
    if part.isEmpty then none else some (String.ofList part, cs.dropWhile isKeyChar)

/-- The parts of a dotted key and the text behind the white space that follows. -/
def readKey : (fuel : Nat) → List Char → Option (List String × List Char)
  | 0, _ => none
  | k + 1, cs =>
    match readKeyPart cs with
    | none => none
    | some (part, rest) =>
      match skip rest with
      | '.' :: rest => (readKey k (skip rest)).map fun r => (part :: r.1, r.2)
      | rest => some ([part], rest)

/-! ## Numbers -/

/-- Digits with single underscores between them: the digits, and the text behind. -/
def takeDigits (isDigit : Char → Bool) : List Char → List Char × List Char
  | [] => ([], [])
  | c :: cs =>
    if isDigit c then
      match cs with
      | '_' :: d :: rest =>
        if isDigit d then
          let r := takeDigits isDigit (d :: rest)
          (c :: r.1, r.2)
        else ([c], '_' :: d :: rest)
      | cs =>
        let r := takeDigits isDigit cs
        (c :: r.1, r.2)
    else ([], c :: cs)

/-- The number that digits of the given base denote. -/
def ofBase (base : Nat) (ds : List Char) : Nat :=
  ds.foldl (fun n c => base * n + (Json.hexValue? c).getD 0) 0

/-- An integer behind the mark of its base. -/
def readBased (base : Nat) (isDigit : Char → Bool) (cs : List Char) :
    Option (Value × List Char) :=
  let r := takeDigits isDigit cs
  if r.1.isEmpty then none else some (.int (ofBase base r.1), r.2)

/-- A fraction part: its characters and the text behind. -/
def takeFraction (cs : List Char) : List Char × List Char :=
  match cs with
  | '.' :: rest =>
    let r := takeDigits Char.isDigit rest
    if r.1.isEmpty then ([], cs) else ('.' :: r.1, r.2)
  | _ => ([], cs)

/-- An exponent part: its characters and the text behind. -/
def takeExponent (cs : List Char) : List Char × List Char :=
  match cs with
  | e :: rest =>
    if e == 'e' || e == 'E' then
      let (sign, rest) := match rest with
        | '+' :: r => (['+'], r)
        | '-' :: r => (['-'], r)
        | r => ([], r)
      let r := takeDigits Char.isDigit rest
      if r.1.isEmpty then ([], cs) else (e :: (sign ++ r.1), r.2)
    else ([], cs)
  | [] => ([], cs)

/-- A decimal integer, or a double if there is a fraction or an exponent. -/
def readDecimal (cs : List Char) : Option (Value × List Char) :=
  let (negative, body) := match cs with
    | '-' :: r => (true, r)
    | '+' :: r => (false, r)
    | r => (false, r)
  let (whole, rest) := match body with
    | '0' :: r => (['0'], r)
    | r => takeDigits Char.isDigit r
  let (fraction, rest) := takeFraction rest
  let (exponent, rest) := takeExponent rest
  if whole.isEmpty then none
  else if fraction.isEmpty && exponent.isEmpty then
    if Number.digitLimit < whole.length then none
    else
      let n : Int := ofDigits whole
      some (.int (if negative then -n else n), rest)
  else
    (Decimal.read? (whole ++ fraction ++ exponent)).map fun d =>
      (.float (Binary64.ofDecimal negative d), rest)

/-- A number: one in base sixteen, eight or two with its mark, or a decimal one. -/
def readNumber (cs : List Char) : Option (Value × List Char) :=
  let based := match cs with
    | '0' :: 'x' :: rest => readBased 16 (fun c => (Json.hexValue? c).isSome) rest
    | '0' :: 'o' :: rest => readBased 8 (fun c => '0' ≤ c && c ≤ '7') rest
    | '0' :: 'b' :: rest => readBased 2 (fun c => c == '0' || c == '1') rest
    | _ => none
  based.or (readDecimal cs)

/-- A value that is written as a word. -/
def readWord (cs : List Char) : Option (Value × List Char) :=
  [("true", Value.bool true), ("false", .bool false), ("inf", .float (.infinite false)),
   ("nan", .float .nan), ("+inf", .float (.infinite false)), ("-inf", .float (.infinite true)),
   ("+nan", .float .nan), ("-nan", .float .nan)].findSome?
    fun w => (Json.skipWord? w.1.toList cs).map fun rest => (w.2, rest)

/-! ## Tables -/

/-- Changes the table at the end of a path, with the tables on the way created as needed.  If
    `lists` is set, a list of tables stands for its last entry. -/
def updateAt (lists : Bool) (path : List String) (f : Entries → Option Entries) (t : Entries) :
    Option Entries :=
  match path with
  | [] => f t
  | k :: ks =>
    match Entries.get? k t with
    | none => (updateAt lists ks f []).map fun s => Entries.set k (.table s) t
    | some (.table s) => (updateAt lists ks f s).map fun s => Entries.set k (.table s) t
    | some (.list items) =>
      match lists, items.getLast? with
      | true, some (.table s) =>
        (updateAt lists ks f s).map fun s =>
          Entries.set k (.list (items.dropLast ++ [.table s])) t
      | _, _ => none
    | some _ => none

/-- Adds an entry under a key that is not there yet. -/
def addNew (key : String) (v : Value) (t : Entries) : Option Entries :=
  if (Entries.get? key t).isSome then none else some (Entries.set key v t)

/-- Appends an empty table to the list of tables under a key. -/
def addEntry (key : String) (t : Entries) : Option Entries :=
  match Entries.get? key t with
  | none => some (Entries.set key (.list [.table []]) t)
  | some (.list items) => some (Entries.set key (.list (items ++ [.table []])) t)
  | some _ => none

/-- Whether the value was written with brackets or braces. -/
def isInline : Value → Bool
  | .table _ | .list _ => true
  | _ => false

mutual

/-- One value at the head of the text. -/
def readValue : (fuel : Nat) → List Char → Option (Value × List Char)
  | 0, _ => none
  | k + 1, cs =>
    match cs with
    | '"' :: _ | '\'' :: _ => (readText cs).map fun r => (.str r.1, r.2)
    | '[' :: rest => (readItems k rest).map fun r => (.list r.1, r.2)
    | '{' :: rest =>
      match skip rest with
      | '}' :: rest => some (.table [], rest)
      | rest => (readInline k [] [] rest).map fun r => (.table r.1, r.2)
    | cs => (readWord cs).or (readNumber cs)

/-- The items of a list up to its closing bracket; a comma may stand behind the last one. -/
def readItems : (fuel : Nat) → List Char → Option (List Value × List Char)
  | 0, _ => none
  | k + 1, cs =>
    match skipLines (cs.length + 1) cs with
    | none => none
    | some (']' :: rest) => some ([], rest)
    | some cs =>
      match readValue k cs with
      | none => none
      | some (v, rest) =>
        match skipLines (rest.length + 1) rest with
        | some (',' :: rest) => (readItems k rest).map fun r => (v :: r.1, r.2)
        | some (']' :: rest) => some ([v], rest)
        | _ => none

/-- The entries of an inline table up to its closing brace; `closed` are the paths of the inline
    values among them. -/
def readInline : (fuel : Nat) → (t : Entries) → (closed : List (List String)) → List Char →
    Option (Entries × List Char)
  | 0, _, _, _ => none
  | k + 1, t, closed, cs =>
    match readKey (cs.length + 1) cs with
    | some (path, '=' :: rest) =>
      match readValue k (skip rest) with
      | none => none
      | some (v, rest) =>
        -- No key may lead into an inline value.
        if closed.any fun p => p.isPrefixOf path then none
        else match updateAt false path.dropLast (addNew (path.getLast?.getD "") v) t with
          | none => none
          | some t =>
            match skip rest with
            | '}' :: rest => some (t, rest)
            | ',' :: rest =>
              readInline k t (if isInline v then path :: closed else closed) (skip rest)
            | _ => none
    | _ => none

end

/-! ## Documents -/

/-- The document so far. -/
structure Builder where
  data : Entries
  /-- The path that keys are relative to. -/
  header : List String
  /-- The paths that no header may open any more, and no dotted key may enter. -/
  opened : List (List String)
  /-- Paths that join `opened` at the next header. -/
  pending : List (List String)
  /-- The paths of inline values, which nothing may be added to. -/
  closed : List (List String)

namespace Builder

/-- Whether the path leads into an inline value. -/
def isClosed (b : Builder) (path : List String) : Bool := b.closed.any (·.isPrefixOf path)

/-- The beginnings of a path that are neither empty nor the whole. -/
def properStarts (path : List String) : List (List String) :=
  (List.range (path.length - 1)).map fun i => path.take (i + 1)

/-- A key with its value. -/
def assign (b : Builder) (path : List String) (v : Value) : Option Builder :=
  let ways := (properStarts path).map (b.header ++ ·)
  let parent := b.header ++ path.dropLast
  if ways.any b.opened.contains then none
  else if b.isClosed parent then none
  else
    (updateAt true parent (addNew (path.getLast?.getD "") v) b.data).map fun data =>
      { b with
        data
        pending := ways ++ b.pending
        closed := if isInline v then (b.header ++ path) :: b.closed else b.closed }

/-- The header of a table. -/
def openTable (b : Builder) (path : List String) : Option Builder :=
  let opened := b.pending ++ b.opened
  if opened.contains path || b.isClosed path then none
  else
    (updateAt true path some b.data).map fun data =>
      { b with data, header := path, opened := path :: opened, pending := [] }

/-- The header of the next entry in a list of tables. -/
def openEntry (b : Builder) (path : List String) : Option Builder :=
  if b.isClosed path then none
  else
    -- A new entry starts afresh: what was known below its path belongs to the entry before.
    let free := fun (p : List String) => !path.isPrefixOf p
    (updateAt true path.dropLast (addEntry (path.getLast?.getD "")) b.data).map fun data =>
      { data
        header := path
        opened := path :: (b.pending ++ b.opened).filter free
        pending := []
        closed := b.closed.filter free }

end Builder

/-- One line without its leading white space: the document with it, and the text behind. -/
def readLine (b : Builder) (cs : List Char) : Option (Builder × List Char) :=
  match cs with
  | '[' :: '[' :: rest =>
    match readKey (rest.length + 1) (skip rest) with
    | some (path, ']' :: ']' :: rest) => (b.openEntry path).map fun b => (b, skip rest)
    | _ => none
  | '[' :: rest =>
    match readKey (rest.length + 1) (skip rest) with
    | some (path, ']' :: rest) => (b.openTable path).map fun b => (b, skip rest)
    | _ => none
  | '#' :: _ => some (b, cs)
  | _ =>
    match readKey (cs.length + 1) cs with
    | some (path, '=' :: rest) =>
      match readValue (2 * rest.length + 2) (skip rest) with
      | some (v, rest) => (b.assign path v).map fun b => (b, skip rest)
      | none => none
    | _ => none

/-- All lines of a document. -/
def readLines : (fuel : Nat) → Builder → List Char → Option Entries
  | 0, b, _ => some b.data
  | k + 1, b, cs =>
    match skip cs with
    | [] => some b.data
    | '\n' :: rest => readLines k b rest
    | cs =>
      match readLine b cs with
      | none => none
      | some (b, rest) =>
        match skipComment rest with
        | some [] => some b.data
        | some ('\n' :: rest) => readLines k b rest
        | _ => none

/-- Line ends of two characters count as one. -/
def joinBreaks : List Char → List Char
  | '\r' :: '\n' :: rest => '\n' :: joinBreaks rest
  | c :: rest => c :: joinBreaks rest
  | [] => []

/-- A whole document. -/
def read? (cs : List Char) : Option Entries :=
  let cs := joinBreaks cs
  readLines (cs.length + 1) ⟨[], [], [], [], []⟩ cs

end HashIf.Document.Toml
