import HashIf.Proofs.Numerals
import HashIf.Token.Lexer
import Mathlib

/-!
# `HashIf.Proofs.Lexing`: how the pieces of a text are read

One equation for each kind of piece that a text is put together from: a blank, a bracket, a word and an
operator.  Each says what the piece is read as, and that the rest is read as if it stood alone behind it.
The other way round, the tokens of any text are names that are identifiers and numbers that have a
numeral.

## Contents
- `isIdentifier`: letters, digits and underscores, the first one not a digit.
- `Ends`: what may stand behind a word.
- `lexFrom_blank`, `lexFrom_open`, `lexFrom_close`, `lexFrom_word_bind`, `lexFrom_word`: the pieces.
- `lexFrom_symbol`: operators, told apart by what stands around them.
- `ofWord_identifier`, `ofWord_plain`: the words that names and numbers are written as.
- `Genuine`, `lexFrom_genuine`: what the tokens of a text hold.
- `lex_word`: a text that is one word.
-/

namespace HashIf.Token

/-! ## Characters -/

theorem isDigit_iff {c : Char} : c.isDigit = true ↔ 48 ≤ c.toNat ∧ c.toNat ≤ 57 := by
  simp only [Char.isDigit, Bool.and_eq_true, decide_eq_true_eq, ge_iff_le, UInt32.le_iff_toNat_le]
  rfl

theorem isAlpha_iff {c : Char} :
    c.isAlpha = true ↔ (65 ≤ c.toNat ∧ c.toNat ≤ 90) ∨ (97 ≤ c.toNat ∧ c.toNat ≤ 122) := by
  simp only [Char.isAlpha, Char.isUpper, Char.isLower, Bool.or_eq_true, Bool.and_eq_true,
    decide_eq_true_eq, ge_iff_le, UInt32.le_iff_toNat_le]
  rfl

theorem isWordChar_iff {c : Char} :
    isWordChar c = true ↔ c.isAlpha = true ∨ c.isDigit = true ∨ c = '_' ∨ c = '.' := by
  simp only [isWordChar, Char.isAlphanum, Bool.or_eq_true, beq_iff_eq, or_assoc]

theorem isWordChar_range {c : Char} (h : isWordChar c = true) : 46 ≤ c.toNat ∧ c.toNat ≤ 122 := by
  rcases isWordChar_iff.mp h with h | h | rfl | rfl
  · have := isAlpha_iff.mp h
    omega
  · have := isDigit_iff.mp h
    omega
  · decide
  · decide

/-- Visible characters of ASCII are no white space. -/
theorem not_isBlank_of_range {c : Char} (h : 33 ≤ c.toNat ∧ c.toNat ≤ 126) :
    Text.isBlank c = false := by
  unfold Text.isBlank Text.inRanges Text.blankRanges
  simp only [List.any_cons, List.any_nil, Bool.or_false, Bool.or_eq_false_iff, Bool.and_eq_false_iff,
    decide_eq_false_iff_not]
  omega

/-- A character of a word is neither white space nor a bracket. -/
theorem isWordChar_first {c : Char} (h : isWordChar c = true) :
    Text.isBlank c = false ∧ (c == '(' || c == ')') = false := by
  have hrange := isWordChar_range h
  refine ⟨not_isBlank_of_range (by omega), ?_⟩
  rw [Bool.or_eq_false_iff, beq_eq_false_iff_ne, beq_eq_false_iff_ne]
  refine ⟨?_, ?_⟩ <;>
  · rintro rfl
    exact absurd hrange (by decide)

/-- No operator of two characters ends with a character that is not listed here. -/
theorem pairOperator?_eq_none (c : Char) {d : Char} (h : d ∉ ['&', '|', '+', '-', '=', '>', '<']) :
    pairOperator? c d = none := by
  unfold pairOperator?
  split <;> simp_all

/-- Only `=` makes a longer operator with `!`. -/
theorem pairOperator?_not {d : Char} (h : d ≠ '=') : pairOperator? '!' d = none := by
  unfold pairOperator?
  split <;> simp_all

/-- No operator reaches into a word. -/
theorem pairOperator?_word (c : Char) {d : Char} (h : isWordChar d = true) :
    pairOperator? c d = none := by
  refine pairOperator?_eq_none c fun hmem => ?_
  have hall : ['&', '|', '+', '-', '=', '>', '<'].all (fun a => !isWordChar a) = true := by decide
  have hd := List.all_eq_true.mp hall d hmem
  rw [h] at hd
  cases hd

/-! ## Identifiers -/

/-- A letter or an underscore, followed by letters, digits and underscores. -/
def isIdentifier (cs : List Char) : Bool :=
  match cs with
  | [] => false
  | c :: rest => (c.isAlpha || c == '_') && rest.all fun d => d.isAlphanum || d == '_'

theorem isWordChar_of_ne_point {c : Char} :
    (c.isAlphanum || c == '_') = true ↔ isWordChar c = true ∧ c ≠ '.' := by
  constructor
  · intro h
    refine ⟨by rw [isWordChar, h, Bool.true_or], ?_⟩
    rintro rfl
    cases h
  · rintro ⟨h, hne⟩
    rw [isWordChar, Bool.or_eq_true, beq_iff_eq] at h
    exact h.resolve_right hne

theorem isIdentifier_cons_iff {c : Char} {rest : List Char} :
    isIdentifier (c :: rest) = true
      ↔ c.isDigit = false ∧ ∀ d ∈ c :: rest, isWordChar d = true ∧ d ≠ '.' := by
  have hhead : (c.isAlpha || c == '_') = true
      ↔ c.isDigit = false ∧ isWordChar c = true ∧ c ≠ '.' := by
    rw [Bool.or_eq_true, beq_iff_eq, isWordChar_iff]
    constructor
    · rintro (h | rfl)
      · have hrange := isAlpha_iff.mp h
        refine ⟨Bool.eq_false_iff.mpr fun hd => ?_, .inl h, ?_⟩
        · have := isDigit_iff.mp hd
          omega
        · rintro rfl
          cases h
      · decide
    · rintro ⟨hd, h | h | h | h, hne⟩
      · exact .inl h
      · rw [h] at hd
        cases hd
      · exact .inr h
      · exact absurd h hne
  unfold isIdentifier
  rw [Bool.and_eq_true, hhead, List.all_eq_true, List.forall_mem_cons, and_assoc]
  simp only [isWordChar_of_ne_point]

/-- The word of an identifier is a name. -/
theorem ofWord_identifier {cs : List Char} (h : isIdentifier cs = true) (pos : Nat) :
    ofWord pos cs = .ok (.name pos (String.ofList cs)) := by
  match cs with
  | [] => cases h
  | c :: rest =>
      obtain ⟨hdigit, hall⟩ := isIdentifier_cons_iff.mp h
      have hpoint : (c :: rest).findIdx? (· == '.') = none := by
        rw [List.findIdx?_eq_none_iff]
        intro d hd
        exact beq_eq_false_iff_ne.mpr (hall d hd).2
      unfold ofWord
      rw [List.head?_cons, Option.map_some, Option.getD_some, hdigit, if_neg Bool.false_ne_true,
        hpoint]

/-! ## Numerals -/

theorem toLower_of_le {c : Char} (h : c.toNat ≤ 57) : c.toLower = c := by
  unfold Char.toLower
  split
  · rename_i hupper
    have hle : 65 ≤ c.toNat := hupper.1
    omega
  · rfl

/-- A word of digits and points has no suffix. -/
theorem numeralPart_of_le {cs : List Char} (h : ∀ c ∈ cs, c.toNat ≤ 57) : numeralPart cs = cs := by
  have hlower : cs.map Char.toLower = cs := by
    rw [List.map_congr_left (fun c hc => toLower_of_le (h c hc)), List.map_id']
  have hne : ∀ c ∈ cs.reverse, c ≠ 'l' ∧ c ≠ 'u' := by
    intro c hc
    have hle := h c (List.mem_reverse.mp hc)
    refine ⟨?_, ?_⟩ <;>
    · rintro rfl
      exact absurd hle (by decide)
  unfold numeralPart
  rw [hlower]
  -- Suffixes are taken from the end, so only the last character matters.
  cases hrev : cs.reverse with
  | nil =>
      rw [← List.reverse_reverse cs, hrev]
      rfl
  | cons c rest =>
      rw [hrev] at hne
      obtain ⟨hl, hu⟩ := hne c List.mem_cons_self
      rw [List.dropWhile_cons_of_neg (by rw [beq_iff_eq]; exact hl)]
      split
      · rename_i heq
        exact absurd (List.cons.inj heq).1 hu
      · rw [← hrev, List.reverse_reverse]

/-- **The text of a number is read as the number.** -/
theorem ofWord_plain {v : Number} (h : v.Readable) (pos : Nat) :
    ofWord pos v.plain.toList = .ok (.number pos v.plain.toList.length v) := by
  obtain ⟨⟨c, cs, heq, hdigit⟩, hchars⟩ := h.plain_chars
  have hnumeral : numeralPart v.plain.toList = v.plain.toList := by
    refine numeralPart_of_le fun c hc => ?_
    rcases hchars c hc with hd | rfl
    · exact (isDigit_iff.mp hd).2
    · decide
  have hhead : ((v.plain.toList.head?.map Char.isDigit).getD false) = true := by
    rw [heq, List.head?_cons, Option.map_some, Option.getD_some, hdigit]
  unfold ofWord
  rw [if_pos hhead, hnumeral, h.ofNumeral_plain]

/-! ## Pieces of a text -/

/-- Tokens in front of those that are still to be read. -/
def prepend (ts : List Token) (r : Except LexFault (List Token)) : Except LexFault (List Token) :=
  (ts ++ ·) <$> r

theorem prepend_prepend (ts us : List Token) (r : Except LexFault (List Token)) :
    prepend ts (prepend us r) = prepend (ts ++ us) r := by
  cases r with
  | error f => rfl
  | ok vs => exact congrArg Except.ok (List.append_assoc ts us vs).symm

/-- What may stand behind a word: nothing that would make it longer. -/
def Ends (rest : List Char) : Prop := ∀ c ∈ rest.head?, isWordChar c = false

theorem ends_nil : Ends [] := by
  intro c hc
  cases hc

theorem ends_cons {c : Char} (hc : isWordChar c = false) (rest : List Char) : Ends (c :: rest) := by
  intro d hd
  cases hd
  exact hc

section

variable (pos : Nat) (previous : Option Token) (rest : List Char)

theorem lexFrom_blank : lexFrom pos previous (' ' :: rest) = lexFrom (pos + 1) previous rest := by
  rw [lexFrom, if_pos (by decide)]

theorem lexFrom_open :
    lexFrom pos previous ('(' :: rest)
      = prepend [.bracket pos true] (lexFrom (pos + 1) (some (.bracket pos true)) rest) := by
  rw [lexFrom, if_neg (by decide), if_pos (by decide)]
  rfl

theorem lexFrom_close :
    lexFrom pos previous (')' :: rest)
      = prepend [.bracket pos false] (lexFrom (pos + 1) (some (.bracket pos false)) rest) := by
  rw [lexFrom, if_neg (by decide), if_pos (by decide)]
  rfl

/-- **A word is read as a whole**, up to where it ends; what it denotes decides whether reading goes on. -/
theorem lexFrom_word_bind {word : List Char} (hne : word ≠ [])
    (hword : ∀ c ∈ word, isWordChar c = true) (hends : Ends rest) :
    lexFrom pos previous (word ++ rest)
      = (ofWord pos word).bind fun t => prepend [t] (lexFrom (pos + word.length) (some t) rest) := by
  match word with
  | [] => exact absurd rfl hne
  | c :: cs =>
      obtain ⟨hc, hcs⟩ := List.forall_mem_cons.mp hword
      obtain ⟨hblank, hbracket⟩ := isWordChar_first hc
      -- The run of word characters ends exactly where the word does.
      have htake : (cs ++ rest).takeWhile isWordChar = cs := by
        rw [List.takeWhile_append_of_pos hcs]
        cases rest with
        | nil => exact List.append_nil cs
        | cons d ds => rw [List.takeWhile_cons_of_neg (by simp [hends d rfl]), List.append_nil]
      have hdrop : (cs ++ rest).dropWhile isWordChar = rest := by
        rw [List.dropWhile_append_of_pos hcs]
        cases rest with
        | nil => rfl
        | cons d ds => rw [List.dropWhile_cons_of_neg (by simp [hends d rfl])]
      rw [List.cons_append, lexFrom, hblank, hbracket, hc, htake, hdrop]
      simp only [Bool.false_eq_true, if_false, if_true]
      cases ofWord pos (c :: cs) <;> rfl

/-- A word that denotes a token is read as that token. -/
theorem lexFrom_word {word : List Char} {t : Token} (hne : word ≠ [])
    (hword : ∀ c ∈ word, isWordChar c = true) (hends : Ends rest) (ht : ofWord pos word = .ok t) :
    lexFrom pos previous (word ++ rest)
      = prepend [t] (lexFrom (pos + word.length) (some t) rest) := by
  rw [lexFrom_word_bind pos previous rest hne hword hends, ht]
  rfl

/-- An operator is read together with what tells it from a longer one. -/
theorem lexFrom_operator {c : Char} {op : Operator} (hblank : Text.isBlank c = false)
    (hbracket : (c == '(' || c == ')') = false) (hword : isWordChar c = false)
    (hop : operatorAt? previous c rest = some op) :
    lexFrom pos previous (c :: rest)
      = prepend [.operator pos op] (lexFrom (pos + op.symbolChars.length) (some (.operator pos op))
          (rest.drop (op.symbolChars.length - 1))) := by
  rw [lexFrom, hblank, hbracket, hword]
  simp only [Bool.false_eq_true, if_false, hop]
  rfl

/-- **An operator is read as itself** unless it makes a longer operator with what follows it.  Behind
    which token it stands matters only for operators of one character, which may be signs. -/
theorem lexFrom_symbol {op : Operator}
    (hpair : ∀ a, op.symbolChars = [a] → ∀ c ∈ rest.head?, pairOperator? a c = none)
    (hprevious : ∀ a, op.symbolChars = [a] → unaryPosition previous = op.isUnary) :
    lexFrom pos previous (op.symbolChars ++ rest)
      = prepend [.operator pos op] (lexFrom (pos + op.symbolChars.length) (some (.operator pos op))
          rest) := by
  cases op
  case boolOr | boolAnd | eq | ne | le | ge | shiftLeft | shiftRight | increment | decrement =>
    exact lexFrom_operator pos previous _ (by decide) (by decide) (by decide) rfl
  all_goals
    have hnone : rest.head?.bind (pairOperator? _) = none := Option.bind_eq_none_iff.mpr (hpair _ rfl)
    refine lexFrom_operator pos previous rest (by decide) (by decide) (by decide) ?_
    rw [operatorAt?, hnone, hprevious _ rfl]
    rfl

end

/-! ## The tokens of a text -/

/-- A name is an identifier, and a number has a numeral. -/
def Genuine : Token → Prop
  | .name _ s => isIdentifier s.toList = true
  | .number _ _ v => v.Readable
  | _ => True

theorem ofWord_genuine {word : List Char} {pos : Nat} {t : Token} (hne : word ≠ [])
    (hword : ∀ c ∈ word, isWordChar c = true) (h : ofWord pos word = .ok t) : Genuine t := by
  unfold ofWord at h
  split at h
  · split at h
    · rename_i v hv
      cases h
      exact ⟨_, hv⟩
    · cases h
    · cases h
  · rename_i hdigit
    split at h
    · cases h
    rename_i hpoint
    cases h
    match word with
    | [] => exact absurd rfl hne
    | c :: rest =>
        rw [Genuine, String.toList_ofList, isIdentifier_cons_iff]
        refine ⟨Bool.eq_false_iff.mpr hdigit, fun d hd => ⟨hword d hd, ?_⟩⟩
        exact beq_eq_false_iff_ne.mp (List.findIdx?_eq_none_iff.mp hpoint d hd)

/-- What a mapped result holds. -/
theorem map_eq_ok {ε α β : Type} {f : α → β} {x : Except ε α} {y : β} (h : f <$> x = .ok y) :
    ∃ a, x = .ok a ∧ f a = y := by
  cases x with
  | error e => cases h
  | ok a =>
      cases h
      exact ⟨a, rfl, rfl⟩

theorem map_eq_error {ε α β : Type} {g : α → β} {x : Except ε α} {f : ε} (h : g <$> x = .error f) :
    x = .error f := by
  cases x with
  | error f' =>
      cases h
      rfl
  | ok a => cases h

/-- **The tokens of a text are genuine.** -/
theorem lexFrom_genuine {pos : Nat} {previous : Option Token} {cs : List Char} {ts : List Token}
    (h : lexFrom pos previous cs = .ok ts) : ∀ t ∈ ts, Genuine t := by
  fun_induction lexFrom pos previous cs generalizing ts with
  | case1 =>
      cases h
      intro t ht
      cases ht
  | case2 _ _ _ _ _ ih => exact ih h
  | case3 pos previous c rest =>
      rename_i ih
      obtain ⟨us, hus, rfl⟩ := map_eq_ok h
      exact List.forall_mem_cons.mpr ⟨trivial, ih hus⟩
  | case4 => cases h
  | case5 pos previous c rest _ _ hc word t ht =>
      rename_i ih
      obtain ⟨us, hus, rfl⟩ := map_eq_ok h
      refine List.forall_mem_cons.mpr ⟨ofWord_genuine (List.cons_ne_nil _ _) ?_ ht, ih hus⟩
      exact List.forall_mem_cons.mpr ⟨hc, fun d hd => List.mem_takeWhile_imp hd⟩
  | case6 => cases h
  | case7 pos previous c rest =>
      rename_i ih
      obtain ⟨us, hus, rfl⟩ := map_eq_ok h
      exact List.forall_mem_cons.mpr ⟨trivial, ih hus⟩

theorem lex_eq_ok_iff {text : String} {ts : List Token} :
    lex text = .ok ts ↔ lexFrom 0 none text.toList = .ok ts := by
  unfold lex
  cases lexFrom 0 none text.toList with
  | error f =>
      constructor
      · intro h
        cases h
      · intro h
        cases h
  | ok us => exact ⟨fun h => by cases h; rfl, fun h => by cases h; rfl⟩

/-- **A text that is one word is read as what the word denotes.** -/
theorem lex_word {text : String} (hne : text.toList ≠ [])
    (hword : ∀ c ∈ text.toList, isWordChar c = true) :
    lex text = match ofWord 0 text.toList with
      | .ok t => .ok [t]
      | .error (.located f) => .error (.rejected (.ofLocated (some text) f))
      | .error (.numeralTooLong n) => .error (.numeralTooLong n) := by
  have hread := lexFrom_word_bind 0 none [] hne hword ends_nil
  rw [List.append_nil] at hread
  rw [lex, hread]
  match ofWord 0 text.toList with
  | .ok t =>
      show Except.mapError _ (prepend [t] (lexFrom _ (some t) [])) = .ok [t]
      rw [lexFrom]
      rfl
  | .error (.located f) => rfl
  | .error (.numeralTooLong n) => rfl

end HashIf.Token
