import HashIf.Proofs.Balance
import HashIf.Proofs.TextPlaces

/-!
# `HashIf.Proofs.OperatorSymbols`: brackets and operators of a text

Which operators a text has, and how many brackets, can be told from its characters without a lexer: of two
operators that fit, the longer one is taken, and everything else is skipped.  Two texts that are put
together have the operators of both unless one arises where they meet, and a bracket never makes one.

## Contents
- `Inert`: the characters that belong to no operator.
- `symbols`, `symbolsIn`: the operator symbols of tokens and of a text.
- `symbolsIn_append`: the operator symbols of two texts put together.
- `Lexed.symbolsIn_eq`, `Lexed.count_open`: tokens and characters agree on operators and brackets.
-/

namespace HashIf.Token

/-! ## Characters that belong to no operator -/

/-- The character occurs in no operator. -/
def Inert (c : Char) : Prop := ∀ op : Operator, c ∉ op.symbolChars

theorem inert_of_isBlank {c : Char} (h : Text.isBlank c = true) : Inert c := by
  intro op hc
  rw [(op.symbolChars_class c hc).1] at h
  cases h

theorem inert_of_isWordChar {c : Char} (h : isWordChar c = true) : Inert c := by
  intro op hc
  rw [(op.symbolChars_class c hc).2.2] at h
  cases h

theorem inert_open : Inert '(' := by
  intro op hc
  exact Bool.noConfusion (op.symbolChars_class '(' hc).2.1

theorem inert_close : Inert ')' := by
  intro op hc
  exact Bool.noConfusion (op.symbolChars_class ')' hc).2.1

namespace Inert

variable {c : Char}

theorem pair_left (h : Inert c) (d : Char) : pairOperator? c d = none := by
  cases hop : pairOperator? c d with
  | none => rfl
  | some op =>
      refine absurd ?_ (h op)
      rw [pairOperator?_symbolChars hop]
      exact List.mem_cons_self

theorem pair_right (h : Inert c) (d : Char) : pairOperator? d c = none := by
  cases hop : pairOperator? d c with
  | none => rfl
  | some op =>
      refine absurd ?_ (h op)
      rw [pairOperator?_symbolChars hop]
      exact List.mem_cons_of_mem _ List.mem_cons_self

theorem single (h : Inert c) (unary : Bool) : singleOperator? unary c = none := by
  cases hop : singleOperator? unary c with
  | none => rfl
  | some op =>
      refine absurd ?_ (h op)
      rw [singleOperator?_symbolChars hop]
      exact List.mem_cons_self

end Inert

/-! ## Operator symbols -/

/-- The symbol of an operator token. -/
def symbol? : Token → Option (List Char)
  | .operator _ op => some op.symbolChars
  | _ => none

/-- The symbols of the operators among the tokens. -/
def symbols (ts : List Token) : List (List Char) := ts.filterMap symbol?

theorem symbols_append (ts us : List Token) : symbols (ts ++ us) = symbols ts ++ symbols us :=
  List.filterMap_append

theorem symbols_cons (t : Token) (ts : List Token) : symbols (t :: ts) = symbols [t] ++ symbols ts :=
  symbols_append [t] ts

theorem symbols_bracketed (p q : Nat) (ts : List Token) :
    symbols (.bracket p true :: (ts ++ [.bracket q false])) = symbols ts := by
  rw [symbols_cons, symbols_append]
  exact List.append_nil _

theorem openings_bracketed (p q : Nat) (ts : List Token) :
    openings (.bracket p true :: (ts ++ [.bracket q false])) = openings ts + 1 := by
  rw [openings_cons, openings_append, Nat.add_comm]
  rfl

/-- The operator symbol that a character is on its own. -/
def singleSymbol (c : Char) : List (List Char) := if (singleOperator? true c).isSome then [[c]] else []

/-- The operator symbols of a text, the longer one of two that fit. -/
def symbolsIn : List Char → List (List Char)
  | [] => []
  | [c] => singleSymbol c
  | c :: d :: rest =>
    if (pairOperator? c d).isSome then [c, d] :: symbolsIn rest
    else singleSymbol c ++ symbolsIn (d :: rest)

theorem symbolsIn_pair {c d : Char} {op : Operator} (h : pairOperator? c d = some op) (rest : List Char) :
    symbolsIn (c :: d :: rest) = [c, d] :: symbolsIn rest := by
  rw [symbolsIn, h]
  rfl

theorem symbolsIn_single {c : Char} {rest : List Char} (h : ∀ d ∈ rest.head?, pairOperator? c d = none) :
    symbolsIn (c :: rest) = singleSymbol c ++ symbolsIn rest := by
  cases rest with
  | nil => exact (List.append_nil _).symm
  | cons d rest =>
      rw [symbolsIn, h d rfl]
      rfl

/-- A character that belongs to no operator is skipped. -/
theorem symbolsIn_inert {c : Char} (h : Inert c) (rest : List Char) :
    symbolsIn (c :: rest) = symbolsIn rest := by
  rw [symbolsIn_single fun d _ => h.pair_left d, singleSymbol, h.single]
  rfl

theorem symbolsIn_inerts {cs : List Char} (h : ∀ c ∈ cs, Inert c) (rest : List Char) :
    symbolsIn (cs ++ rest) = symbolsIn rest := by
  induction cs with
  | nil => rfl
  | cons c cs ih =>
      obtain ⟨hc, hcs⟩ := List.forall_mem_cons.mp h
      rw [List.cons_append, symbolsIn_inert hc, ih hcs]

/-- **The operator symbols of two texts put together** are those of both, unless an operator arises where
    they meet. -/
theorem symbolsIn_append {cs rest : List Char}
    (h : ∀ a ∈ cs.getLast?, ∀ b ∈ rest.head?, pairOperator? a b = none) :
    symbolsIn (cs ++ rest) = symbolsIn cs ++ symbolsIn rest := by
  fun_induction symbolsIn cs with
  | case1 => rfl
  | case2 c => exact symbolsIn_single (h c rfl)
  | case3 c d cs hpair ih =>
      obtain ⟨op, hop⟩ := Option.isSome_iff_exists.mp hpair
      rw [List.cons_append, List.cons_append, symbolsIn_pair hop, ih, List.cons_append]
      intro a ha
      refine h a ?_
      rw [List.getLast?_cons_cons, List.getLast?_cons, Option.mem_def.mp ha]
      rfl
  | case4 c d cs hpair ih =>
      rw [List.cons_append, symbolsIn_single, ih, List.append_assoc]
      · intro a ha
        refine h a ?_
        rw [List.getLast?_cons_cons]
        exact ha
      · intro b hb
        cases hb
        exact Option.not_isSome_iff_eq_none.mp hpair

/-- A character that belongs to no operator keeps the texts on both sides apart. -/
theorem symbolsIn_append_inert {c : Char} (h : Inert c) (cs rest : List Char) :
    symbolsIn (cs ++ c :: rest) = symbolsIn cs ++ symbolsIn rest := by
  rw [symbolsIn_append, symbolsIn_inert h]
  intro a _ b hb
  cases hb
  exact h.pair_right a

/-- An operator is found where it stands, unless it makes a longer one with what follows. -/
theorem symbolsIn_symbolChars (op : Operator) {rest : List Char}
    (h : ∀ a, op.symbolChars = [a] → ∀ b ∈ rest.head?, pairOperator? a b = none) :
    symbolsIn (op.symbolChars ++ rest) = op.symbolChars :: symbolsIn rest := by
  cases op
  case boolOr | boolAnd | eq | ne | le | ge | shiftLeft | shiftRight | increment | decrement =>
    exact symbolsIn_pair rfl rest
  all_goals exact symbolsIn_single (h _ rfl)

/-! ## Tokens and characters -/

/-- What a word denotes is neither an operator nor a bracket. -/
theorem ofWord_apart {pos : Nat} {word : List Char} {t : Token} (h : ofWord pos word = .ok t) :
    symbols [t] = [] ∧ openings [t] = 0 := by
  rcases ofWord_eq_ok_iff.mp h with ⟨-, v, -, rfl⟩ | ⟨-, -, rfl⟩
  · exact ⟨rfl, rfl⟩
  · exact ⟨rfl, rfl⟩

/-- An operator of one character makes no longer one with what follows it. -/
theorem pairOperator?_of_operatorAt? {previous : Option Token} {c : Char} {rest : List Char} {op : Operator}
    (h : operatorAt? previous c rest = some op) {a : Char} (ha : op.symbolChars = [a]) :
    ∀ b ∈ rest.head?, pairOperator? a b = none := by
  intro b hb
  rcases operatorAt?_eq_some h with ⟨d, rest', -, hpair⟩ | ⟨hnone, hsingle⟩
  · rw [pairOperator?_symbolChars hpair] at ha
    cases ha
  · rw [singleOperator?_symbolChars hsingle] at ha
    cases ha
    exact Option.bind_eq_none_iff.mp hnone b hb

/-- **Tokens and characters agree on the operators of a text.** -/
theorem Lexed.symbolsIn_eq {after : Option Char} {pos : Nat} {previous : Option Token} {cs : List Char}
    {ts : List Token} (h : Lexed after pos previous cs ts) : symbolsIn cs = symbols ts := by
  induction h with
  | nil pos previous => rfl
  | @cons pos previous t lexeme rest ts h _ ih =>
      rw [symbols_append, ← ih]
      cases h with
      | blank h => exact symbolsIn_inert (inert_of_isBlank h) rest
      | opening => exact symbolsIn_inert inert_open rest
      | closing => exact symbolsIn_inert inert_close rest
      | @word _ _ t hne hword hends ht =>
          rw [symbolsIn_inerts fun c hc => inert_of_isWordChar (hword c hc), Option.toList_some,
            (ofWord_apart ht).1, List.nil_append]
      | @operator op c tail _ hsymbol hop =>
          rw [← hsymbol, symbolsIn_symbolChars op]
          · rfl
          · intro a ha b hb
            have hnil : tail = [] := (List.cons.inj (hsymbol.symm.trans ha)).2
            refine pairOperator?_of_operatorAt? hop ha b ?_
            rw [hnil, Option.mem_def.mp hb]
            rfl

/-- **Tokens and characters agree on the opening brackets of a text.** -/
theorem Lexed.count_open {after : Option Char} {pos : Nat} {previous : Option Token} {cs : List Char}
    {ts : List Token} (h : Lexed after pos previous cs ts) : cs.count '(' = openings ts := by
  induction h with
  | nil pos previous => rfl
  | @cons pos previous t lexeme rest ts h _ ih =>
      rw [openings_append, ← ih, List.count_append]
      refine congrArg (· + rest.count '(') ?_
      cases h with
      | @blank c _ h =>
          refine List.count_eq_zero_of_not_mem fun hmem => ?_
          rw [← List.mem_singleton.mp hmem] at h
          cases h
      | opening => rfl
      | closing => rfl
      | @word _ _ t hne hword hends ht =>
          rw [Option.toList_some, (ofWord_apart ht).2]
          exact List.count_eq_zero_of_not_mem fun hmem => Bool.noConfusion (hword _ hmem)
      | @operator op c tail _ hsymbol hop =>
          rw [← hsymbol]
          exact List.count_eq_zero_of_not_mem (inert_open op)

end HashIf.Token
