import HashIf.Proofs.OperatorSymbols
import HashIf.Proofs.Rereading

/-!
# `HashIf.Proofs.NeededBrackets`: every bracket in the text of a formula is needed

The text of a formula has as few brackets as any text that is read as the formula: each pair in it has one
in the text that was read, around the operand that it was read from or in the test that it replaces.  So
a text with one pair less is not read as the formula.  It is not read either as a formula with other
operators in the same places: the brackets stand where no operator arises when they are gone, so the
operators of the text stay what they are, and they stand in the formula in the same order.

## Contents
- `brackets`, `symbols`: the brackets and the operators that the text of a formula has.
- `Accounted`, `ReadAs.accounted`: what a text needs to be read as a formula.
- `Neighbours`, `Laid`, `Writable.laid`: where brackets stand in the text of a formula.
- `Laid.without`: the text with two brackets less.
- `eq_of_sameAs`: formulas that differ in operators only, and have the same ones.
- `toText_brackets_needed`: no brackets can be left out.
-/

namespace HashIf

open Token Condition

namespace Formula

/-! ## Brackets and operators of a formula -/

/-- How many pairs of brackets the text of a formula has. -/
def brackets : Formula → Nat
  | const _ | var _ | lit _ | unknown _ => 0
  | emptyCall _ => 1
  | call _ f => f.brackets + 1
  | not f => f.brackets + f.bracketCost 12
  | and l r => joinBrackets .boolAnd l.brackets l r.brackets r
  | or l r => joinBrackets .boolOr l.brackets l r.brackets r
  | kept op l r => joinBrackets op l.brackets l r.brackets r
where
  /-- The brackets of an operator with operands of given brackets. -/
  joinBrackets (op : Operator) (n : Nat) (l : Formula) (n' : Nat) (r : Formula) : Nat :=
    n + l.bracketCost op.precedence + (n' + r.bracketCost (op.precedence + 1))

/-- The operator symbols in the text of a formula. -/
def symbols : Formula → List (List Char)
  | const _ | var _ | emptyCall _ | unknown _ => []
  | lit text => if text.toList.head? = some '-' then [Operator.minus.symbolChars] else []
  | not f => Operator.boolNot.symbolChars :: f.symbols
  | and l r => l.symbols ++ Operator.boolAnd.symbolChars :: r.symbols
  | or l r => l.symbols ++ Operator.boolOr.symbolChars :: r.symbols
  | kept op l r => l.symbols ++ op.symbolChars :: r.symbols
  | call _ f => f.symbols

theorem symbols_plain {v : Number} (h : v.Readable) : (lit v.plain).symbols = [] :=
  if_neg (head?_plain_ne h)

theorem symbols_negative (v : Number) : (lit ("-" ++ v.plain)).symbols = [Operator.minus.symbolChars] :=
  if_pos (head?_negative v)

/-- The operators of a binary formula stand between those of its operands. -/
theorem symbols_joinKept (op : Operator) (l r : Formula) :
    (joinKept op l r).symbols = l.symbols ++ op.symbolChars :: r.symbols := by
  cases op <;> rfl

theorem brackets_joinKept (op : Operator) (l r : Formula) :
    (joinKept op l r).brackets = brackets.joinBrackets op l.brackets l r.brackets r := by
  cases op <;> rfl

/-! ## What a text needs to be read as a formula -/

/-- Tokens at a place that asks for level `k` account for a formula: they have no operator that the formula
    has not, and all the brackets that its text needs there. -/
structure Accounted (k : Nat) (ts : List Token) (f : Formula) : Prop where
  symbols : (Token.symbols ts).Sublist f.symbols
  brackets : f.brackets + f.bracketCost k ≤ openings ts

namespace Accounted

variable {k : Nat} {ts : List Token} {f : Formula}

theorem lower {j : Nat} (h : Accounted k ts f) (hj : j ≤ k) : Accounted j ts f :=
  ⟨h.symbols, by have := h.brackets; have := f.bracketCost_mono hj; omega⟩

/-- Brackets make any operand a primary. -/
theorem bracketed (h : Accounted k ts f) (p q : Nat) :
    Accounted 12 (.bracket p true :: (ts ++ [.bracket q false])) f := by
  constructor
  · rw [symbols_bracketed]
    exact h.symbols
  · have := h.brackets
    have := f.bracketCost_le_one 12
    rw [openings_bracketed]
    omega

theorem not {p : Nat} (h : Accounted 12 ts f) : Accounted 11 (.operator p .boolNot :: ts) (.not f) :=
  ⟨h.symbols.cons_cons _, h.brackets⟩

/-- A minus belongs to the number behind it. -/
theorem negative {p : Nat} {v : Number} (hv : v.Readable) (h : Accounted 12 ts (.lit v.plain)) :
    Accounted 11 (.operator p .minus :: ts) (negativeLiteral v) := by
  have hnone := h.symbols
  rw [symbols_plain hv] at hnone
  refine ⟨?_, ?_⟩
  · unfold negativeLiteral
    rw [symbols_negative]
    exact hnone.cons_cons _
  · unfold negativeLiteral
    rw [bracketCost_eq_zero (Nat.le_of_eq (level_negative v).symm)]
    exact Nat.zero_le _

/-- A name in front changes nothing: it is neither an operator nor a bracket. -/
theorem named (h : Accounted k ts f) (p : Nat) (s : String) : Accounted k (.name p s :: ts) f :=
  ⟨h.symbols, by rw [openings_cons]; exact (Nat.zero_add _).symm ▸ h.brackets⟩

/-- The brackets of a call are its own. -/
theorem call (h : Accounted k ts f) (s : String) (p q : Nat) :
    Accounted 12 (.bracket p true :: (ts ++ [.bracket q false])) (.call s f) := by
  constructor
  · rw [symbols_bracketed]
    exact h.symbols
  · have := h.brackets
    rw [openings_bracketed]
    show f.brackets + 1 + 0 ≤ _
    omega

theorem join {op : Operator} {l r : Formula} {us : List Token} {p : Nat}
    (hl : Accounted op.precedence ts l) (hr : Accounted (op.precedence + 1) us r) :
    Accounted op.precedence (ts ++ .operator p op :: us) (joinKept op l r) := by
  constructor
  · rw [symbols_append, symbols_joinKept]
    exact hl.symbols.append (hr.symbols.cons_cons _)
  · have := hl.brackets
    have := hr.brackets
    rw [brackets_joinKept, bracketCost_eq_zero (Nat.le_of_eq (level_joinKept op l r).symm),
      brackets.joinBrackets, openings_append]
    show _ ≤ openings ts + openings us
    omega

end Accounted

end Formula

namespace Condition

open Formula (Accounted)

/-- The formula of a test has no more brackets than the test. -/
theorem ConfigTest.formula_accounted (t : ConfigTest) {x : String} {ts : List Token}
    (h : Accounted 1 ts (.var x)) (p q : Nat) :
    Accounted 12 (.bracket p true :: (ts ++ [.bracket q false])) (t.formula x) := by
  have hnone : Token.symbols ts = [] := List.sublist_nil.mp h.symbols
  constructor
  · rw [symbols_bracketed, hnone]
    exact List.nil_sublist _
  · rw [openings_bracketed]
    cases t with
    | defined | isBuiltin | isModule => exact Nat.zero_le _
    | isEnabled => exact Nat.le_add_left 1 _

/-- **A text accounts for the formula that it is read as.** -/
theorem ReadAs.accounted {linux : Bool} {k : Nat} {d : Derivation k} {f : Formula} (h : ReadAs linux d f) :
    Accounted k d.yield f := by
  induction h with
  | number p n hv =>
      refine ⟨List.nil_sublist _, ?_⟩
      rw [Formula.bracketCost_eq_zero (Nat.le_of_eq (Formula.level_plain hv).symm)]
      exact Nat.le_refl 0
  | name p hs => exact ⟨List.Sublist.refl _, Nat.le_refl 0⟩
  | brackets p q _ ih => exact ih.bracketed p q
  | emptyCall p q q' hs htest => exact ⟨List.Sublist.refl _, Nat.le_refl 1⟩
  | @call s _ _ p q q' hs htest _ ih => exact (ih.call s q q').named p s
  | @test _ s _ t p q q' htest hx _ ih => exact (t.formula_accounted ih q q').named p s
  | defined p q hs => exact ⟨List.Sublist.refl _, Nat.le_refl 0⟩
  | not p _ ih => exact ih.not
  | negative p hv _ ih => exact ih.negative hv
  | tighter hk _ ih => exact ih.lower (Nat.le_succ _)
  | join p hop _ _ _ ihl ihr => exact ihl.join ihr

end Condition

namespace Formula

/-! ## Where brackets stand in the text of a formula -/

/-- The characters may stand side by side: in front of an opening bracket there is no operator but `!`, behind
    it no `=`, and behind a closing bracket no operator. -/
structure Neighbours (a b : Char) : Prop where
  beforeOpen : b = '(' → a = '!' ∨ Inert a
  behindOpen : a = '(' → b ≠ '='
  behindClose : a = ')' → Inert b

theorem inert_blank : Inert ' ' := inert_of_isBlank (by decide)

namespace Neighbours

theorem of_ne {a b : Char} (hb : b ≠ '(') (ha : a ≠ '(') (ha' : a ≠ ')') : Neighbours a b :=
  ⟨fun h => absurd h hb, fun h => absurd h ha, fun h => absurd h ha'⟩

theorem blank_left (b : Char) : Neighbours ' ' b :=
  ⟨fun _ => .inr inert_blank, fun h => absurd h (by decide), fun h => absurd h (by decide)⟩

theorem blank_right (a : Char) : Neighbours a ' ' :=
  ⟨fun h => absurd h (by decide), fun _ => by decide, fun _ => inert_blank⟩

theorem close_right (a : Char) : Neighbours a ')' :=
  ⟨fun h => absurd h (by decide), fun _ => by decide, fun _ => inert_close⟩

theorem not_left (b : Char) : Neighbours '!' b :=
  ⟨fun _ => .inl rfl, fun h => absurd h (by decide), fun h => absurd h (by decide)⟩

/-- A word may stand in front of anything. -/
theorem word_left {a : Char} (ha : isWordChar a = true) (b : Char) : Neighbours a b := by
  refine ⟨fun _ => .inr (inert_of_isWordChar ha), ?_, ?_⟩
  · rintro rfl
    cases ha
  · rintro rfl
    cases ha

end Neighbours

/-- The text `cs` has the operator symbols `ss` and `n` pairs of brackets, which may be taken away without
    making an operator.  The bracket in front says that the text may itself stand in brackets. -/
structure Laid (cs : List Char) (ss : List (List Char)) (n : Nat) : Prop where
  chain : ('(' :: cs).IsChain Neighbours
  symbols : symbolsIn cs = ss
  brackets : cs.count '(' = n

namespace Laid

variable {cs : List Char} {ss : List (List Char)} {n : Nat}

theorem head_ne (h : Laid cs ss n) : ∀ b ∈ cs.head?, b ≠ '=' :=
  fun b hb => ((List.isChain_cons.mp h.chain).1 b hb).behindOpen rfl

/-- **Texts put together**, where no operator arises and no bracket comes to stand beside one. -/
theorem append {cs' : List Char} {ss' : List (List Char)} {n' : Nat} (h : Laid cs ss n)
    (h' : Laid cs' ss' n')
    (hseam : ∀ a ∈ cs.getLast?, ∀ b ∈ cs'.head?, Neighbours a b ∧ pairOperator? a b = none) :
    Laid (cs ++ cs') (ss ++ ss') (n + n') := by
  refine ⟨?_, ?_, ?_⟩
  · cases cs with
    | nil => exact h'.chain
    | cons c cs =>
        refine h.chain.append (List.isChain_cons.mp h'.chain).2 fun a ha b hb => ?_
        rw [List.getLast?_cons_cons] at ha
        exact (hseam a ha b hb).1
  · rw [symbolsIn_append fun a ha b hb => (hseam a ha b hb).2, h.symbols, h'.symbols]
  · rw [List.count_append, h.brackets, h'.brackets]

theorem nil : Laid [] [] 0 := ⟨List.isChain_singleton _, rfl, rfl⟩

theorem char {c : Char} (hc : c ≠ '=') : Laid [c] (singleSymbol c) ([c].count '(') := by
  refine ⟨List.isChain_pair.mpr ?_, rfl, rfl⟩
  exact ⟨fun _ => .inr inert_open, fun _ => hc, fun h => absurd h (by decide)⟩

/-- A word has neither operators nor brackets. -/
theorem word {word : List Char} (hword : ∀ c ∈ word, isWordChar c = true) : Laid word [] 0 := by
  induction word with
  | nil => exact nil
  | cons c word ih =>
      obtain ⟨hc, hrest⟩ := List.forall_mem_cons.mp hword
      have hinert := inert_of_isWordChar hc
      have hchar : Laid [c] [] 0 := by
        refine ⟨(char ?_).chain, ?_, ?_⟩
        · rintro rfl
          cases hc
        · exact symbolsIn_inert hinert []
        · refine List.count_eq_zero_of_not_mem fun hmem => ?_
          rw [← List.mem_singleton.mp hmem] at hc
          cases hc
      refine hchar.append (ih hrest) fun a ha b _ => ?_
      cases ha
      exact ⟨.word_left hc b, hinert.pair_left b⟩

/-- An operator between blanks. -/
theorem operator (op : Operator) : Laid (' ' :: (op.symbolChars ++ [' '])) [op.symbolChars] 0 := by
  have hne : ∀ a ∈ op.symbolChars, a ≠ '(' ∧ a ≠ ')' := by
    intro a ha
    constructor
    · rintro rfl
      exact inert_open op ha
    · rintro rfl
      exact inert_close op ha
  have hsymbol : op.symbolChars.IsChain Neighbours := by
    refine (List.pairwise_of_forall_mem_list fun a ha b hb => ?_).isChain
    exact .of_ne (hne b hb).1 (hne a ha).1 (hne a ha).2
  refine ⟨?_, ?_, ?_⟩
  · refine List.isChain_cons_cons.mpr ⟨.blank_right _, List.isChain_cons.mpr ⟨fun b _ => .blank_left b, ?_⟩⟩
    refine hsymbol.append (List.isChain_singleton _) fun a _ b hb => ?_
    cases hb
    exact .blank_right a
  · rw [symbolsIn_inert inert_blank, symbolsIn_symbolChars op]
    · rw [symbolsIn_inert inert_blank]
      rfl
    · intro a _ b hb
      cases hb
      exact inert_blank.pair_right a
  · rw [List.count_cons_of_ne (by decide), List.count_append,
      List.count_eq_zero_of_not_mem (inert_open op)]
    rfl

theorem bracketed (h : Laid cs ss n) : Laid ('(' :: (cs ++ [')'])) ss (n + 1) := by
  have hopen : Laid ['('] [] 1 := char (by decide)
  have hclose : Laid [')'] [] 0 := char (by decide)
  have hclosed := h.append hclose fun a _ b hb => by
    cases hb
    exact ⟨.close_right a, inert_close.pair_right a⟩
  have hboth := hopen.append hclosed fun a ha b hb => by
    cases ha
    exact ⟨(List.isChain_cons.mp hclosed.chain).1 b hb, inert_open.pair_left b⟩
  rw [List.append_nil, List.nil_append, Nat.add_comm, Nat.add_zero] at hboth
  exact hboth

/-- The brackets of a call stand behind its name. -/
theorem call {name : List Char} (hname : ∀ c ∈ name, isWordChar c = true) (h : Laid cs ss n) :
    Laid (name ++ '(' :: (cs ++ [')'])) ss (n + 1) := by
  have hcall := (word hname).append h.bracketed fun a ha b _ => by
    have hword := hname a (List.mem_of_getLast? ha)
    exact ⟨.word_left hword b, (inert_of_isWordChar hword).pair_left b⟩
  rw [List.nil_append, Nat.zero_add] at hcall
  exact hcall

theorem not (h : Laid cs ss n) : Laid ('!' :: cs) (Operator.boolNot.symbolChars :: ss) n := by
  have hsign : Laid ['!'] [Operator.boolNot.symbolChars] 0 := char (by decide)
  have hnot := hsign.append h fun a ha b hb => by
    cases ha
    exact ⟨.not_left b, pairOperator?_not (h.head_ne b hb)⟩
  rw [Nat.zero_add] at hnot
  exact hnot

/-- A minus in front of a numeral. -/
theorem negative {word : List Char} (hword : ∀ c ∈ word, isWordChar c = true) :
    Laid ('-' :: word) [Operator.minus.symbolChars] 0 := by
  have hsign : Laid ['-'] [Operator.minus.symbolChars] 0 := char (by decide)
  refine hsign.append (Laid.word hword) fun a ha b hb => ?_
  cases ha
  have hb := hword b (List.mem_of_head? hb)
  refine ⟨.of_ne ?_ (by decide) (by decide), pairOperator?_word '-' hb⟩
  rintro rfl
  cases hb

theorem join {cs' : List Char} {ss' : List (List Char)} {n' : Nat} (h : Laid cs ss n)
    (h' : Laid cs' ss' n') (op : Operator) :
    Laid (cs ++ ' ' :: (op.symbolChars ++ ' ' :: cs')) (ss ++ op.symbolChars :: ss') (n + n') := by
  have hright := (operator op).append h' fun a ha b _ => by
    rw [← List.cons_append, List.getLast?_concat] at ha
    cases ha
    exact ⟨.blank_left b, inert_blank.pair_left b⟩
  have hjoin := h.append hright fun a _ b hb => by
    cases hb
    exact ⟨.blank_right a, inert_blank.pair_right a⟩
  rw [List.cons_append, List.append_assoc, List.singleton_append, List.singleton_append, Nat.zero_add] at hjoin
  exact hjoin

end Laid

/-- An operand has the brackets that its place asks for. -/
theorem operand_laid {f : Formula} {s : String} (h : Laid s.toList f.symbols f.brackets) (m : Nat) :
    Laid (operandText m f s).toList f.symbols (f.brackets + f.bracketCost m) := by
  rw [toList_operandText]
  unfold bracketCost
  split
  · exact h.bracketed
  · exact h

/-- A binary formula has the brackets of its operands and those around them. -/
theorem laid_joint {f l r : Formula} {op : Operator} (hop : op.isUnary = false)
    (hjoint : joint? f = some (l, ⟨op.symbol, op.precedence, r⟩))
    (hl : ∃ s, l.toText = .ok s ∧ Laid s.toList l.symbols l.brackets)
    (hr : ∃ s, r.toText = .ok s ∧ Laid s.toList r.symbols r.brackets) :
    ∃ s, f.toText = .ok s ∧ Laid s.toList (l.symbols ++ op.symbolChars :: r.symbols)
      (brackets.joinBrackets op l.brackets l r.brackets r) := by
  obtain ⟨s, hs, hlaid⟩ := hl
  obtain ⟨s', hs', hlaid'⟩ := hr
  obtain ⟨t, ht, htext⟩ := toText_joint hop hjoint hs hs'
  refine ⟨t, ht, ?_⟩
  rw [htext]
  exact (operand_laid hlaid _).join (operand_laid hlaid' _) op

/-- **Brackets and operators of the text of a formula.** -/
theorem Writable.laid {linux : Bool} {f : Formula} (h : f.Writable linux) :
    ∃ s, f.toText = .ok s ∧ Laid s.toList f.symbols f.brackets := by
  induction h with
  | const b =>
      refine ⟨if b then "1" else "0", by rw [toText], Laid.word ?_⟩
      cases b with
      | true => exact List.all_eq_true.mp rfl
      | false => exact List.all_eq_true.mp rfl
  | @var name h => exact ⟨name, by rw [toText], Laid.word (isWordChar_identifier h).2⟩
  | @lit v h =>
      refine ⟨v.plain, by rw [toText], ?_⟩
      rw [symbols_plain h]
      exact Laid.word (isWordChar_plain h)
  | @negative v h =>
      refine ⟨"-" ++ v.plain, by rw [toText], ?_⟩
      rw [symbols_negative, String.toList_append]
      exact Laid.negative (isWordChar_plain h)
  | @not f hf ih =>
      obtain ⟨s, hs, hlaid⟩ := ih
      obtain ⟨t, ht, htext⟩ := toText_not (fun op l r => hf.kept_binary) hs
      refine ⟨t, ht, ?_⟩
      rw [htext]
      exact (operand_laid hlaid 12).not
  | and _ _ ihl ihr => exact @laid_joint _ _ _ .boolAnd rfl rfl ihl ihr
  | or _ _ ihl ihr => exact @laid_joint _ _ _ .boolOr rfl rfl ihl ihr
  | @kept op l r hop _ _ _ ihl ihr => exact laid_joint hop rfl ihl ihr
  | @emptyCall name h _ =>
      refine ⟨name ++ "()", by rw [toText], ?_⟩
      rw [String.toList_append]
      exact Laid.call (isWordChar_identifier h).2 Laid.nil
  | @call name f h _ _ ih =>
      obtain ⟨s, hs, hlaid⟩ := ih
      obtain ⟨t, ht, htext⟩ := toText_call name hs
      refine ⟨t, ht, ?_⟩
      rw [htext]
      exact hlaid.call (isWordChar_identifier h).2

/-! ## The text with two brackets less -/

/-- **The text without two brackets** has the same operators. -/
theorem Laid.without {x y z : List Char} {ss : List (List Char)} {n : Nat}
    (h : Laid (x ++ '(' :: (y ++ ')' :: z)) ss n) :
    symbolsIn (x ++ (y ++ z)) = ss ∧ (x ++ (y ++ z)).count '(' < n := by
  obtain ⟨-, hrest, hbefore⟩ := List.isChain_append.mp (List.isChain_cons.mp h.chain).2
  obtain ⟨hbehind, hrest⟩ := List.isChain_cons.mp hrest
  obtain ⟨hclose, -⟩ := List.isChain_cons.mp (List.isChain_append.mp hrest).2.1
  have hinert : ∀ b ∈ z.head?, Inert b := fun b hb => (hclose b hb).behindClose rfl
  constructor
  · rw [← h.symbols, symbolsIn_append_inert inert_open, symbolsIn_append_inert inert_close,
      symbolsIn_append, symbolsIn_append fun a _ b hb => (hinert b hb).pair_right a]
    -- Only `!` may stand in front of the first bracket, and what comes to stand behind it is no `=`.
    intro a ha b hb
    rcases (hbefore a ha '(' rfl).beforeOpen rfl with rfl | ha
    · cases y with
      | nil => exact (hinert b hb).pair_right '!'
      | cons c y => exact pairOperator?_not ((hbehind b hb).behindOpen rfl)
    · exact ha.pair_left b
  · rw [← h.brackets]
    simp only [List.count_append, List.count_cons_self, List.count_cons_of_ne (show ')' ≠ '(' by decide)]
    omega

/-! ## Formulas that differ in operators only -/

/-- The binary operator with the given symbol. -/
def binaryOf? : List Char → Option Operator
  | [c] => singleOperator? false c
  | [c, d] => pairOperator? c d
  | _ => none

theorem binaryOf?_symbolChars {op : Operator} (h : op.isUnary = false) :
    binaryOf? op.symbolChars = some op := by
  cases op with
  | boolNot | bitNot | plus | minus | increment | decrement => cases h
  | _ => rfl

theorem length_symbols_of_sameAs {f g : Formula} (h : f.sameAs g = true) :
    f.symbols.length = g.symbols.length := by
  fun_induction sameAs f g with
  | case1 => rfl
  | case2 => rfl
  | case3 a b => rw [beq_iff_eq.mp h]
  | case4 f g ih => exact congrArg (· + 1) (ih h)
  | case5 l r l' r' ihl ihr | case6 l r l' r' ihl ihr | case7 op l r op' l' r' ihl ihr =>
      obtain ⟨hl, hr⟩ := Bool.and_eq_true_iff.mp h
      simp only [symbols, List.length_append, List.length_cons, ihl hl, ihr hr]
  | case8 => rfl
  | case9 a f b g ih => exact ih (Bool.and_eq_true_iff.mp h).2
  | case10 => rfl
  | case11 => cases h

/-- The operators on both sides of one are told apart by how many there are. -/
theorem symbols_join_inj {l l' : Formula} (hl : l.sameAs l' = true) {ss ss' : List (List Char)}
    {s s' : List Char} (h : l.symbols ++ s :: ss = l'.symbols ++ s' :: ss') :
    l.symbols = l'.symbols ∧ s = s' ∧ ss = ss' := by
  obtain ⟨hleft, hright⟩ := List.append_inj h (length_symbols_of_sameAs hl)
  exact ⟨hleft, List.cons.inj hright⟩

/-- **Formulas that differ in kept operators only are equal if their operators are.** -/
theorem eq_of_sameAs {linux : Bool} {f g : Formula} (hf : f.Writable linux) (hg : g.Writable linux)
    (h : f.sameAs g = true) (hsymbols : f.symbols = g.symbols) : f = g := by
  fun_induction sameAs f g with
  | case1 a b => rw [beq_iff_eq.mp h]
  | case2 a b => rw [beq_iff_eq.mp h]
  | case3 a b => rw [beq_iff_eq.mp h]
  | case4 f g ih =>
      cases hf with
      | not hf =>
          cases hg with
          | not hg => rw [ih hf hg h (List.cons.inj hsymbols).2]
  | case5 l r l' r' ihl ihr =>
      obtain ⟨hl, hr⟩ := Bool.and_eq_true_iff.mp h
      obtain ⟨hleft, -, hright⟩ := symbols_join_inj hl hsymbols
      cases hf with
      | and hfl hfr =>
          cases hg with
          | and hgl hgr => rw [ihl hfl hgl hl hleft, ihr hfr hgr hr hright]
  | case6 l r l' r' ihl ihr =>
      obtain ⟨hl, hr⟩ := Bool.and_eq_true_iff.mp h
      obtain ⟨hleft, -, hright⟩ := symbols_join_inj hl hsymbols
      cases hf with
      | or hfl hfr =>
          cases hg with
          | or hgl hgr => rw [ihl hfl hgl hl hleft, ihr hfr hgr hr hright]
  | case7 op l r op' l' r' ihl ihr =>
      obtain ⟨hl, hr⟩ := Bool.and_eq_true_iff.mp h
      obtain ⟨hleft, hop, hright⟩ := symbols_join_inj hl hsymbols
      cases hf with
      | kept hbinary _ hfl hfr =>
          cases hg with
          | kept hbinary' _ hgl hgr =>
              have heq := binaryOf?_symbolChars hbinary
              rw [hop, binaryOf?_symbolChars hbinary'] at heq
              cases heq
              rw [ihl hfl hgl hl hleft, ihr hfr hgr hr hright]
  | case8 a b => rw [beq_iff_eq.mp h]
  | case9 a f b g ih =>
      obtain ⟨hname, hfg⟩ := Bool.and_eq_true_iff.mp h
      cases hf with
      | call _ _ hf =>
          cases hg with
          | call _ _ hg => rw [beq_iff_eq.mp hname, ih hf hg hfg hsymbols]
  | case10 a b => rw [beq_iff_eq.mp h]
  | case11 => cases h

end Formula

namespace Condition

/-! ## Brackets that are needed -/

/-- What a text accounts for that is read as a formula: the operators of the text are among those of the
    formula, and it has all the brackets that the text of the formula has. -/
theorem accounted_of_extendedFormula [CallStack] {linux : Bool} {text : String} {f : Formula}
    (h : extendedFormula linux text = .ok f) :
    f.Writable linux ∧ (symbolsIn text.toList).Sublist f.symbols ∧ f.brackets ≤ text.toList.count '(' := by
  obtain ⟨d, hlex, -, -, hread⟩ := exists_derivation_of_extendedFormula h
  rw [Token.lex_eq_ok_iff] at hlex
  have hgenuine := d.genuine_tree (lexFrom_genuine hlex)
  have hreadAs := readAs_of_extended d hgenuine hread
  have hlexed := lexFrom_eq_ok_iff.mp hlex
  rw [hlexed.symbolsIn_eq, hlexed.count_open]
  exact ⟨hreadAs.fits.writable, hreadAs.accounted.symbols,
    Nat.le_trans (Nat.le_add_right _ _) hreadAs.accounted.brackets⟩

/-- **Every bracket in the text of a formula is needed.**  The formula that a text is read as has a text of
    its own; if an opening bracket and a closing one behind it are taken out of that, whether they belong
    together or not, what is left is rejected or read as another formula, also if the kinds of kept
    operators are not compared. -/
theorem toText_brackets_needed [CallStack] {linux : Bool} {text : String} {f : Formula}
    (h : extendedFormula linux text = .ok f) :
    ∃ s, f.toText = .ok s ∧ ∀ x y z : String, s = x ++ "(" ++ y ++ ")" ++ z →
      ∀ g, extendedFormula linux (x ++ y ++ z) = .ok g → g ≠ f ∧ g.sameAs f = false := by
  obtain ⟨hf, -, -⟩ := accounted_of_extendedFormula h
  obtain ⟨s, hs, hlaid⟩ := hf.laid
  refine ⟨s, hs, ?_⟩
  rintro x y z rfl g hg
  have htext : (x ++ "(" ++ y ++ ")" ++ z).toList = x.toList ++ '(' :: (y.toList ++ ')' :: z.toList) := by
    simp only [String.toList_append, List.append_assoc]
    rfl
  rw [htext] at hlaid
  obtain ⟨hsymbols, hcount⟩ := hlaid.without
  obtain ⟨hwritable, hsublist, hbrackets⟩ := accounted_of_extendedFormula hg
  rw [String.toList_append, String.toList_append, List.append_assoc] at hsublist hbrackets
  -- The text has fewer brackets than the text of the formula needs.
  have hne : g ≠ f := by
    rintro rfl
    omega
  refine ⟨hne, Bool.eq_false_iff.mpr fun hsame => hne ?_⟩
  rw [hsymbols] at hsublist
  have heq := hsublist.eq_of_length (Formula.length_symbols_of_sameAs hsame).symm
  exact Formula.eq_of_sameAs hwritable hf hsame heq.symm

/-- The formula of `!(a < b) && c - (f(d) - 1)`. -/
def negatedAndNested : Formula :=
  .and (.not (.kept .lt (.var "a") (.var "b")))
    (.kept .sub (.var "c") (.kept .sub (.call "f" (.var "d")) (.lit "1")))

/-- Without the last pair of brackets the difference is taken from the left. -/
theorem toText_brackets_needed_nested :
    negatedAndNested.toText = .ok "!(a < b) && c - (f(d) - 1)"
      ∧ ∃ g, extendedFormula true ("!(a < b) && c - " ++ "f(d) - 1" ++ "") = .ok g
        ∧ g ≠ negatedAndNested ∧ g.sameAs negatedAndNested = false := by
  have hread : extendedFormula true "!(a<b) && c-(f(d)-1)" = .ok negatedAndNested := by cbv
  have htext : negatedAndNested.toText = .ok "!(a < b) && c - (f(d) - 1)" := by cbv
  have hsplit : "!(a < b) && c - (f(d) - 1)"
      = "!(a < b) && c - " ++ "(" ++ "f(d) - 1" ++ ")" ++ "" := by cbv
  have hless : extendedFormula true ("!(a < b) && c - " ++ "f(d) - 1" ++ "")
      = .ok (.and (.not (.kept .lt (.var "a") (.var "b")))
        (.kept .sub (.kept .sub (.var "c") (.call "f" (.var "d"))) (.lit "1"))) := by cbv
  obtain ⟨s, hs, hneeded⟩ := toText_brackets_needed hread
  rw [htext] at hs
  cases hs
  exact ⟨htext, _, hless, hneeded _ _ _ hsplit _ hless⟩

end Condition

end HashIf
