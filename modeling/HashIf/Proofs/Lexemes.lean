import HashIf.Proofs.Lexing

/-!
# `HashIf.Proofs.Lexemes`: a text as a row of lexemes

The lexer goes through a text once.  What it takes from the head of the text at one time is a lexeme: a
blank, a bracket, a word or an operator.  Which lexeme it takes depends on two things around it, the token
before it and the character behind it, and on nothing else.  So the tokens of a text are said by a
relation that cuts the text into lexemes, and the lexer is related to it once; how texts are put together,
moved to another offset and read up to a fault are inductions on the relation.

## Contents
- `Lexeme`, `FaultAt`: what the head of a text can be.
- `Lexed`: a text cut into lexemes, and its tokens.
- `Lexed.lexFrom_append`, `lexed_or_fault`: the lexer against the relation.
- `lexFrom_eq_ok_iff`, `lexFrom_eq_error_iff`: the tokens of a text, and where reading stops.
- `Seam`, `Lexed.followed`, `Lexed.alone`: what may follow a text without changing its tokens.
- `shift`, `Lexed.shift`: the same text at another offset.
-/

namespace HashIf

/-! ## Characters of operators -/

/-- The characters of operators belong to nothing else. -/
theorem Operator.symbolChars_class (op : Operator) : ∀ c ∈ op.symbolChars,
    Text.isBlank c = false ∧ (c == '(' || c == ')') = false ∧ Token.isWordChar c = false := by
  have hall : op.symbolChars.all (fun c => !Text.isBlank c && !(c == '(' || c == ')')
      && !Token.isWordChar c) = true := by
    cases op <;> rfl
  intro c hc
  have hclass := List.all_eq_true.mp hall c hc
  simp only [Bool.and_eq_true, Bool.not_eq_true'] at hclass
  exact ⟨hclass.1.1, hclass.1.2, hclass.2⟩

namespace Token

theorem pairOperator?_symbolChars {c d : Char} {op : Operator} (h : pairOperator? c d = some op) :
    op.symbolChars = [c, d] := by
  unfold pairOperator? at h
  split at h <;> cases h <;> rfl

theorem singleOperator?_symbolChars {unary : Bool} {c : Char} {op : Operator}
    (h : singleOperator? unary c = some op) : op.symbolChars = [c] := by
  unfold singleOperator? at h
  split at h <;> cases h
  case h_1 | h_2 => cases unary <;> rfl
  all_goals rfl

/-- The operator at the head of a text is its first character or its first two. -/
theorem operatorAt?_eq_some {previous : Option Token} {c : Char} {rest : List Char} {op : Operator}
    (h : operatorAt? previous c rest = some op) :
    (∃ d rest', rest = d :: rest' ∧ pairOperator? c d = some op)
      ∨ (rest.head?.bind (pairOperator? c) = none
        ∧ singleOperator? (unaryPosition previous) c = some op) := by
  unfold operatorAt? at h
  cases hpair : rest.head?.bind (pairOperator? c) with
  | none =>
      rw [hpair, Option.none_or] at h
      exact .inr ⟨rfl, h⟩
  | some op' =>
      rw [hpair, Option.some_or] at h
      cases h
      cases rest with
      | nil => cases hpair
      | cons d rest' => exact .inl ⟨d, rest', rfl, hpair⟩

/-- Of what stands behind a symbol only the first character counts. -/
theorem operatorAt?_head? (previous : Option Token) (c : Char) (tail rest : List Char) :
    operatorAt? previous c (tail ++ rest.head?.toList) = operatorAt? previous c (tail ++ rest) := by
  rw [operatorAt?, operatorAt?, List.head?_append, List.head?_append]
  cases rest <;> rfl

/-! ## The head of a text -/

/-- `Lexeme pos previous cs next t`: behind the token `previous` and in front of the character `next`, the
    characters `cs` at offset `pos` are one lexeme, which is the token `t` or a blank. -/
inductive Lexeme (pos : Nat) (previous : Option Token) :
    List Char → Option Char → Option Token → Prop where
  | blank {c : Char} {next : Option Char} (h : Text.isBlank c = true) :
      Lexeme pos previous [c] next none
  | opening {next : Option Char} : Lexeme pos previous ['('] next (some (.bracket pos true))
  | closing {next : Option Char} : Lexeme pos previous [')'] next (some (.bracket pos false))
  | word {word : List Char} {next : Option Char} {t : Token} (hne : word ≠ [])
      (hword : ∀ c ∈ word, isWordChar c = true) (hends : ∀ c ∈ next, isWordChar c = false)
      (ht : ofWord pos word = .ok t) : Lexeme pos previous word next (some t)
  | operator {op : Operator} {c : Char} {tail : List Char} {next : Option Char}
      (hsymbol : op.symbolChars = c :: tail)
      (hop : operatorAt? previous c (tail ++ next.toList) = some op) :
      Lexeme pos previous (c :: tail) next (some (.operator pos op))

/-- The head of the text is no lexeme, for the reason `f`: it is a word that denotes nothing, or a character
    that begins nothing. -/
inductive FaultAt (pos : Nat) (previous : Option Token) : List Char → LexFault → Prop where
  | word {word rest : List Char} {f : LexFault} (hne : word ≠ [])
      (hword : ∀ c ∈ word, isWordChar c = true) (hends : Ends rest)
      (hf : ofWord pos word = .error f) : FaultAt pos previous (word ++ rest) f
  | character {c : Char} {rest : List Char} (hblank : Text.isBlank c = false)
      (hbracket : (c == '(' || c == ')') = false) (hword : isWordChar c = false)
      (hop : operatorAt? previous c rest = none) :
      FaultAt pos previous (c :: rest) (.located ⟨.invalidCharacter c, some pos⟩)

theorem Lexeme.ne_nil {pos : Nat} {previous : Option Token} {cs : List Char} {next : Option Char}
    {t : Option Token} (h : Lexeme pos previous cs next t) : cs ≠ [] := by
  cases h with
  | word hne => exact hne
  | _ => exact List.cons_ne_nil _ _

/-- The run of word characters at the head of a text ends where the word ends. -/
theorem ends_dropWhile (cs : List Char) : Ends (cs.dropWhile isWordChar) := by
  intro c hc
  have h := List.head?_dropWhile_not isWordChar cs
  rw [Option.mem_def.mp hc] at h
  exact h

/-- The head of a text is a lexeme or a fault. -/
theorem lexeme_or_fault (pos : Nat) (previous : Option Token) {cs : List Char} (hne : cs ≠ []) :
    (∃ lexeme rest t, cs = lexeme ++ rest ∧ Lexeme pos previous lexeme rest.head? t)
      ∨ ∃ f, FaultAt pos previous cs f := by
  match cs with
  | [] => exact absurd rfl hne
  | c :: rest =>
      by_cases hblank : Text.isBlank c = true
      · exact .inl ⟨[c], rest, none, rfl, .blank hblank⟩
      by_cases hopen : c = '('
      · subst hopen
        exact .inl ⟨['('], rest, _, rfl, .opening⟩
      by_cases hclose : c = ')'
      · subst hclose
        exact .inl ⟨[')'], rest, _, rfl, .closing⟩
      by_cases hword : isWordChar c = true
      · have hsplit : c :: rest = (c :: rest.takeWhile isWordChar) ++ rest.dropWhile isWordChar := by
          rw [List.cons_append, List.takeWhile_append_dropWhile]
        have hall : ∀ d ∈ c :: rest.takeWhile isWordChar, isWordChar d = true :=
          List.forall_mem_cons.mpr ⟨hword, fun d hd => List.mem_takeWhile_imp hd⟩
        cases hof : ofWord pos (c :: rest.takeWhile isWordChar) with
        | ok t =>
            exact .inl ⟨_, _, some t, hsplit, .word (List.cons_ne_nil _ _) hall (ends_dropWhile rest) hof⟩
        | error f =>
            refine .inr ⟨f, ?_⟩
            rw [hsplit]
            exact .word (List.cons_ne_nil _ _) hall (ends_dropWhile rest) hof
      -- What is left begins an operator or nothing at all.
      · cases hop : operatorAt? previous c rest with
        | none =>
            refine .inr ⟨_, .character (Bool.eq_false_iff.mpr hblank) ?_ (Bool.eq_false_iff.mpr hword) hop⟩
            rw [Bool.or_eq_false_iff, beq_eq_false_iff_ne, beq_eq_false_iff_ne]
            exact ⟨hopen, hclose⟩
        | some op =>
            rcases operatorAt?_eq_some hop with ⟨d, rest', rfl, hpair⟩ | ⟨hpair, hsingle⟩
            · refine .inl ⟨[c, d], rest', _, rfl, .operator (pairOperator?_symbolChars hpair) ?_⟩
              rw [operatorAt?, List.cons_append, List.head?_cons, Option.bind_some, hpair, Option.some_or]
            · refine .inl ⟨[c], rest, _, rfl, .operator (singleOperator?_symbolChars hsingle) ?_⟩
              have hhead : rest.head?.toList.head? = rest.head? := by cases rest <;> rfl
              rw [operatorAt?, List.nil_append, hhead, hpair, Option.none_or, hsingle]

/-- **The lexer takes a lexeme from the head of a text** and goes on with the rest. -/
theorem Lexeme.lexFrom_eq {pos : Nat} {previous : Option Token} {lexeme rest : List Char}
    {t : Option Token} (h : Lexeme pos previous lexeme rest.head? t) :
    lexFrom pos previous (lexeme ++ rest)
      = prepend t.toList (lexFrom (pos + lexeme.length) (t.or previous) rest) := by
  cases h with
  | blank h =>
      rw [List.singleton_append, lexFrom, if_pos h]
      exact (id_map _).symm
  | opening => exact lexFrom_open pos previous rest
  | closing => exact lexFrom_close pos previous rest
  | word hne hword hends ht => exact lexFrom_word pos previous rest hne hword hends ht
  | @operator op c tail _ hsymbol hop =>
      obtain ⟨hblank, hbracket, hword⟩ := op.symbolChars_class c (hsymbol ▸ List.mem_cons_self)
      rw [operatorAt?_head?] at hop
      rw [List.cons_append, lexFrom_operator pos previous _ hblank hbracket hword hop, hsymbol,
        List.length_cons, Nat.add_sub_cancel, List.drop_left]
      rfl

/-- A fault at the head of a text is what the lexer gives. -/
theorem FaultAt.lexFrom_eq {pos : Nat} {previous : Option Token} {cs : List Char} {f : LexFault}
    (h : FaultAt pos previous cs f) : lexFrom pos previous cs = .error f := by
  cases h with
  | @word word rest _ hne hword hends hf =>
      rw [lexFrom_word_bind pos previous rest hne hword hends, hf]
      rfl
  | character hblank hbracket hword hop =>
      rw [lexFrom, hblank, hbracket, hword]
      simp only [Bool.false_eq_true, if_false, hop]

/-! ## A text cut into lexemes -/

/-- `Lexed after pos previous cs ts`: at offset `pos`, behind the token `previous` and in front of the
    character `after`, the text is a row of lexemes with the tokens `ts`. -/
inductive Lexed (after : Option Char) : Nat → Option Token → List Char → List Token → Prop where
  | nil (pos : Nat) (previous : Option Token) : Lexed after pos previous [] []
  | cons {pos : Nat} {previous t : Option Token} {lexeme rest : List Char} {ts : List Token}
      (h : Lexeme pos previous lexeme (rest.head?.or after) t)
      (hrest : Lexed after (pos + lexeme.length) (t.or previous) rest ts) :
      Lexed after pos previous (lexeme ++ rest) (t.toList ++ ts)

/-- The token that stands before what follows a text: the last one of the text, if it has any. -/
theorem getLast?_toList_append (previous t : Option Token) (ts : List Token) :
    (t.toList ++ ts).getLast?.or previous = ts.getLast?.or (t.or previous) := by
  cases t with
  | none => rfl
  | some t =>
      rw [Option.toList_some, List.singleton_append, List.getLast?_cons]
      cases ts.getLast? <;> rfl

/-- **A text cut into lexemes is read as their tokens**, and reading goes on behind it. -/
theorem Lexed.lexFrom_append {pos : Nat} {previous : Option Token} {cs rest : List Char}
    {ts : List Token} (h : Lexed rest.head? pos previous cs ts) :
    lexFrom pos previous (cs ++ rest)
      = prepend ts (lexFrom (pos + cs.length) (ts.getLast?.or previous) rest) := by
  induction h with
  | nil pos previous => exact (id_map _).symm
  | @cons pos previous t lexeme cs ts h _ ih =>
      rw [← List.head?_append] at h
      rw [List.append_assoc, h.lexFrom_eq, ih, prepend_prepend, getLast?_toList_append,
        List.length_append, Nat.add_assoc]

/-- **A text is a row of lexemes, or has a fault behind one.**  The induction is on the length of the
    text. -/
theorem lexed_or_fault (pos : Nat) (previous : Option Token) (cs : List Char) :
    (∃ ts, Lexed none pos previous cs ts)
      ∨ ∃ before rest ts f, cs = before ++ rest ∧ Lexed rest.head? pos previous before ts
        ∧ FaultAt (pos + before.length) (ts.getLast?.or previous) rest f := by
  induction hn : cs.length using Nat.strong_induction_on generalizing pos previous cs with
  | _ n ih =>
      by_cases hne : cs = []
      · subst hne
        exact .inl ⟨[], .nil pos previous⟩
      rcases lexeme_or_fault pos previous hne with ⟨lexeme, rest, t, rfl, h⟩ | ⟨f, hf⟩
      · have hlen := List.length_pos_iff.mpr h.ne_nil
        rw [List.length_append] at hn
        rcases ih rest.length (by omega) (pos + lexeme.length) (t.or previous) rest rfl with
          ⟨ts, hts⟩ | ⟨before, rest, ts, f, rfl, hts, hf⟩
        · rw [← Option.or_none (o := rest.head?)] at h
          exact .inl ⟨_, .cons h hts⟩
        · rw [List.head?_append] at h
          refine .inr ⟨lexeme ++ before, rest, _, f, (List.append_assoc _ _ _).symm, .cons h hts, ?_⟩
          rw [getLast?_toList_append, List.length_append, ← Nat.add_assoc]
          exact hf
      · exact .inr ⟨[], cs, [], f, rfl, .nil pos previous, hf⟩

/-- **The tokens of a text are those of its lexemes.** -/
theorem lexFrom_eq_ok_iff {pos : Nat} {previous : Option Token} {cs : List Char} {ts : List Token} :
    lexFrom pos previous cs = .ok ts ↔ Lexed none pos previous cs ts := by
  have hread : ∀ {us}, Lexed none pos previous cs us → lexFrom pos previous cs = .ok us := by
    intro us hus
    have h := @Lexed.lexFrom_append pos previous cs [] us hus
    rw [List.append_nil, lexFrom] at h
    rw [h]
    exact congrArg Except.ok (List.append_nil us)
  refine ⟨fun h => ?_, hread⟩
  rcases lexed_or_fault pos previous cs with ⟨us, hus⟩ | ⟨before, rest, us, f, rfl, hus, hf⟩
  · rw [hread hus] at h
    cases h
    exact hus
  · rw [hus.lexFrom_append, hf.lexFrom_eq] at h
    cases h

/-- **Reading stops at the first fault**: in front of it the text is a row of lexemes. -/
theorem lexFrom_eq_error_iff {pos : Nat} {previous : Option Token} {cs : List Char} {f : LexFault} :
    lexFrom pos previous cs = .error f
      ↔ ∃ before rest ts, cs = before ++ rest ∧ Lexed rest.head? pos previous before ts
        ∧ FaultAt (pos + before.length) (ts.getLast?.or previous) rest f := by
  constructor
  · intro h
    rcases lexed_or_fault pos previous cs with ⟨us, hus⟩ | ⟨before, rest, us, f', rfl, hus, hf⟩
    · rw [lexFrom_eq_ok_iff.mpr hus] at h
      cases h
    · rw [hus.lexFrom_append, hf.lexFrom_eq] at h
      cases h
      exact ⟨before, rest, us, rfl, hus, hf⟩
  · rintro ⟨before, rest, us, rfl, hus, hf⟩
    rw [hus.lexFrom_append, hf.lexFrom_eq]
    rfl

/-! ## What follows a text -/

/-- The character `next` may follow the text: it makes no word longer and no operator. -/
def Seam (cs : List Char) (next : Char) : Prop :=
  ∀ c ∈ cs.getLast?, (isWordChar c = true → isWordChar next = false) ∧ pairOperator? c next = none

/-- A lexeme stays the same if nothing stands behind it. -/
theorem Lexeme.alone {pos : Nat} {previous : Option Token} {cs : List Char} {next : Option Char}
    {t : Option Token} (h : Lexeme pos previous cs next t) : Lexeme pos previous cs none t := by
  cases h with
  | blank h => exact .blank h
  | opening => exact .opening
  | closing => exact .closing
  | word hne hword _ ht => exact .word hne hword (fun c hc => by cases hc) ht
  | @operator op c tail _ hsymbol hop =>
      refine .operator hsymbol ?_
      cases tail with
      | cons d tail => exact hop
      | nil =>
          rcases operatorAt?_eq_some hop with ⟨d, rest, -, hpair⟩ | ⟨-, hsingle⟩
          · rw [pairOperator?_symbolChars hpair] at hsymbol
            cases hsymbol
          · exact hsingle

/-- A lexeme stays the same in front of a character that may follow it. -/
theorem Lexeme.followed {pos : Nat} {previous : Option Token} {cs : List Char} {next : Char}
    {t : Option Token} (h : Lexeme pos previous cs none t) (hseam : Seam cs next) :
    Lexeme pos previous cs (some next) t := by
  cases h with
  | blank h => exact .blank h
  | opening => exact .opening
  | closing => exact .closing
  | word hne hword _ ht =>
      refine .word hne hword (fun c hc => ?_) ht
      cases hc
      have hlast := List.getLast?_eq_some_getLast hne
      exact (hseam _ hlast).1 (hword _ (List.getLast_mem hne))
  | @operator op c tail _ hsymbol hop =>
      refine .operator hsymbol ?_
      cases tail with
      | cons d tail => exact hop
      | nil =>
          have hnone := (hseam c rfl).2
          rw [operatorAt?, List.nil_append, Option.toList_some, List.head?_cons, Option.bind_some, hnone]
          exact hop

/-- What stands behind a text cut into lexemes may be taken away. -/
theorem Lexed.alone {after : Option Char} {pos : Nat} {previous : Option Token} {cs : List Char}
    {ts : List Token} (h : Lexed after pos previous cs ts) : Lexed none pos previous cs ts := by
  induction h with
  | nil pos previous => exact .nil pos previous
  | @cons pos previous t lexeme rest ts h _ ih =>
      refine .cons ?_ ih
      cases rest with
      | nil => exact h.alone
      | cons c rest => exact h

/-- **What may follow a text leaves its lexemes alone.** -/
theorem Lexed.followed {pos : Nat} {previous : Option Token} {cs : List Char} {ts : List Token}
    (h : Lexed none pos previous cs ts) {next : Char} (hseam : Seam cs next) :
    Lexed (some next) pos previous cs ts := by
  induction h with
  | nil pos previous => exact .nil pos previous
  | @cons pos previous t lexeme rest ts h _ ih =>
      cases rest with
      | nil =>
          rw [List.append_nil] at hseam
          exact .cons (h.followed hseam) (ih fun c hc => by cases hc)
      | cons c rest =>
          refine .cons h (ih fun d hd => hseam d ?_)
          rw [List.getLast?_append, Option.mem_def.mp hd]
          rfl

/-! ## Moving a text -/

/-- The token at an offset that is greater by `k`. -/
def shift (k : Nat) : Token → Token
  | .bracket p opening => .bracket (p + k) opening
  | .name p s => .name (p + k) s
  | .operator p op => .operator (p + k) op
  | .number p n v => .number (p + k) n v

theorem opensOperand_shift (k : Nat) (t : Token) : (t.shift k).opensOperand = t.opensOperand := by
  cases t <;> rfl

theorem ofWord_shift {pos : Nat} {word : List Char} {t : Token} (h : ofWord pos word = .ok t) (k : Nat) :
    ofWord (pos + k) word = .ok (t.shift k) := by
  unfold ofWord at h ⊢
  split at h
  · rename_i hdigit
    rw [if_pos hdigit]
    split at h
    · cases h
      rfl
    · cases h
    · cases h
  · rename_i hdigit
    rw [if_neg hdigit]
    split at h
    · cases h
    · cases h
      rfl

theorem Lexeme.shift {pos : Nat} {previous previous' : Option Token} {cs : List Char}
    {next : Option Char} {t : Option Token} (h : Lexeme pos previous cs next t)
    (hsame : unaryPosition previous' = unaryPosition previous) (k : Nat) :
    Lexeme (pos + k) previous' cs next (t.map (Token.shift k)) := by
  cases h with
  | blank h => exact .blank h
  | opening => exact .opening
  | closing => exact .closing
  | word hne hword hends ht => exact .word hne hword hends (ofWord_shift ht k)
  | operator hsymbol hop =>
      refine .operator hsymbol ?_
      rw [operatorAt?, hsame]
      exact hop

/-- **A text has the same tokens at another offset**, behind any token that leaves a sign in front of the
    text what it is. -/
theorem Lexed.shift {after : Option Char} {pos : Nat} {previous previous' : Option Token}
    {cs : List Char} {ts : List Token} (h : Lexed after pos previous cs ts)
    (hsame : unaryPosition previous' = unaryPosition previous) (k : Nat) :
    Lexed after (pos + k) previous' cs (ts.map (Token.shift k)) := by
  induction h generalizing previous' with
  | nil pos previous => exact .nil _ _
  | @cons pos previous t lexeme rest ts h _ ih =>
      have hnext : unaryPosition ((t.map (Token.shift k)).or previous')
          = unaryPosition (t.or previous) := by
        cases t with
        | none => exact hsame
        | some t => exact opensOperand_shift k t
      have hrest := ih hnext
      rw [Nat.add_right_comm] at hrest
      rw [List.map_append, ← Option.toList_map]
      exact .cons (h.shift hsame k) hrest

end Token

end HashIf
