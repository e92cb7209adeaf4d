import HashIf.Proofs.Costs
import HashIf.Proofs.Lexing

/-!
# `HashIf.Proofs.Phrases`: texts that are read as one operand

`Phrase k cs κ P` says of a piece of text that wherever an operand is expected it is read as a derivation
from level `k`, with the cost `κ`, whose tree satisfies `P`.  Nothing is said about tokens or
offsets, so phrases can be put together: there is one rule for each rule of the grammar, and none of them
looks at a token again.

Between brackets less is needed of a text: it may end with an operator that stands behind its operand,
which no phrase does, because a sign behind such an operator is a unary one.

## Contents
- `Phrase`: a text with its level, its cost and what is known of its tree.
- `Enclosed`: the same for a text between brackets.
- `Phrase.lex`, `Phrase.imp`: a phrase on its own, and with less known of it.
- `Phrase.number`, `Phrase.name`, `Phrase.emptyCall`: the phrases without parts.
- `Enclosed.brackets`, `Enclosed.call`: the phrases that end with a bracket.
- `Phrase.lower`, `Phrase.brackets`, `Phrase.call`, `Phrase.prefixed`, `Phrase.joinAdjacent`,
  `Phrase.join`: how phrases are put together.
-/

namespace HashIf

open Token

/-- The text `cs` is read as a derivation from level `k`, with the cost `κ` and a tree with the property
    `P`.  The token `last` is the last one of the text; a sign behind it is a binary
    operator. -/
structure Phrase (k : Nat) (cs : List Char) (κ : Cost) (P : Expr → Prop) : Prop where
  head : ∃ c tail, cs = c :: tail ∧ c ≠ '='
  reads : ∀ (pos : Nat) (previous : Option Token) (rest : List Char),
    unaryPosition previous = true → Ends rest →
      ∃ (d : Derivation k) (last : Token), d.cost = κ ∧ P d.tree ∧ last.opensOperand = false
        ∧ lexFrom pos previous (cs ++ rest)
          = prepend d.yield (lexFrom (pos + cs.length) (some last) rest)

/-- Between brackets the text `cs` is read as a derivation from the loosest level, with the cost `κ` and a
    tree with the property `P`. -/
def Enclosed (cs : List Char) (κ : Cost) (P : Expr → Prop) : Prop :=
  ∀ (pos q : Nat) (rest : List Char),
    ∃ (d : Derivation 1) (last : Option Token), d.cost = κ ∧ P d.tree
      ∧ lexFrom pos (some (.bracket q true)) (cs ++ ')' :: rest)
        = prepend d.yield (lexFrom (pos + cs.length) last (')' :: rest))

/-! ## Words -/

/-- A word starts with a character of words, which `=` is not. -/
theorem word_head {word : List Char} (hne : word ≠ []) (hword : ∀ c ∈ word, isWordChar c = true) :
    ∃ c tail, word = c :: tail ∧ c ≠ '=' := by
  match word with
  | [] => exact absurd rfl hne
  | c :: tail =>
      refine ⟨c, tail, rfl, ?_⟩
      rintro rfl
      exact absurd (hword '=' List.mem_cons_self) (by decide)

theorem isWordChar_plain {v : Number} (h : v.Readable) : ∀ c ∈ v.plain.toList, isWordChar c = true := by
  intro c hc
  rcases h.plain_chars.2 c hc with hd | rfl
  · exact isWordChar_iff.mpr (.inr (.inl hd))
  · decide

theorem plain_ne_nil {v : Number} (h : v.Readable) : v.plain.toList ≠ [] := by
  obtain ⟨⟨c, cs, heq, -⟩, -⟩ := h.plain_chars
  rw [heq]
  exact List.cons_ne_nil _ _

theorem isWordChar_identifier {cs : List Char} (h : isIdentifier cs = true) :
    cs ≠ [] ∧ ∀ c ∈ cs, isWordChar c = true := by
  match cs with
  | [] => cases h
  | c :: rest =>
      exact ⟨List.cons_ne_nil _ _, fun d hd => ((isIdentifier_cons_iff.mp h).2 d hd).1⟩

/-- An identifier is read as a name, whatever stands in front of it. -/
theorem lexFrom_identifier {s : String} (h : isIdentifier s.toList = true) (pos : Nat)
    (previous : Option Token) {rest : List Char} (hends : Ends rest) :
    lexFrom pos previous (s.toList ++ rest)
      = prepend [.name pos s] (lexFrom (pos + s.toList.length) (some (.name pos s)) rest) := by
  obtain ⟨hne, hword⟩ := isWordChar_identifier h
  refine lexFrom_word pos previous rest hne hword hends ?_
  rw [ofWord_identifier h, String.ofList_toList]

namespace Phrase

variable {k : Nat} {κ : Cost} {cs : List Char} {P Q : Expr → Prop}

/-- **A phrase on its own** has the tokens of its derivation. -/
theorem lex (h : Phrase k cs κ P) :
    ∃ d : Derivation k, d.cost = κ ∧ P d.tree ∧ Token.lex (String.ofList cs) = .ok d.yield := by
  obtain ⟨d, last, hcost, hP, -, hlex⟩ := h.reads 0 none [] rfl ends_nil
  refine ⟨d, hcost, hP, Token.lex_eq_ok_iff.mpr ?_⟩
  rw [String.toList_ofList, ← List.append_nil cs, hlex, lexFrom]
  exact congrArg Except.ok (List.append_nil d.yield)

/-- Less may be known of a phrase; its tree is that of a derivation. -/
theorem imp (h : Phrase k cs κ P) (himp : ∀ d : Derivation k, P d.tree → Q d.tree) :
    Phrase k cs κ Q := by
  refine ⟨h.head, fun pos previous rest hprevious hends => ?_⟩
  obtain ⟨d, last, hcost, hP, hlast, hlex⟩ := h.reads pos previous rest hprevious hends
  exact ⟨d, last, hcost, himp d hP, hlast, hlex⟩

/-- A phrase stands at every level below its own. -/
theorem lower {j : Nat} (h : Phrase k cs κ P) (hj : j ≤ k) (hk : k ≤ 12) : Phrase j cs κ P := by
  refine ⟨h.head, fun pos previous rest hprevious hends => ?_⟩
  obtain ⟨d, last, hcost, hP, hlast, hlex⟩ := h.reads pos previous rest hprevious hends
  refine ⟨d.lower j hj hk, last, ?_, ?_, hlast, ?_⟩
  · rw [Derivation.cost_lower, hcost]
  · rw [Derivation.tree_lower]
    exact hP
  · rw [Derivation.yield_lower, hlex]

/-! ## Phrases without parts -/

/-- The text of a number. -/
theorem number {v : Number} (h : v.Readable) :
    Phrase 12 v.plain.toList .atom (fun e => ∃ p, e = .num v p) := by
  refine ⟨word_head (plain_ne_nil h) (isWordChar_plain h), fun pos previous rest _ hends => ?_⟩
  refine ⟨.number pos v.plain.toList.length v, .number pos v.plain.toList.length v, rfl, ⟨_, rfl⟩, rfl,
    ?_⟩
  exact lexFrom_word pos previous rest (plain_ne_nil h) (isWordChar_plain h) hends (ofWord_plain h pos)

/-- The text of a variable. -/
theorem name {s : String} (h : isIdentifier s.toList = true) :
    Phrase 12 s.toList .atom (fun e => ∃ p, e = .var s p) := by
  obtain ⟨hne, hword⟩ := isWordChar_identifier h
  refine ⟨word_head hne hword, fun pos previous rest _ hends => ?_⟩
  exact ⟨.name pos s, .name pos s, rfl, ⟨_, rfl⟩, rfl, lexFrom_identifier h pos previous hends⟩

/-- A call with empty brackets. -/
theorem emptyCall {s : String} (h : isIdentifier s.toList = true) :
    Phrase 12 (s.toList ++ ['(', ')']) .emptyCall (fun e => ∃ p, e = .emptyCall s p) := by
  obtain ⟨hne, hword⟩ := isWordChar_identifier h
  obtain ⟨c, tail, heq, hc⟩ := word_head hne hword
  refine ⟨⟨c, tail ++ ['(', ')'], by rw [heq]; rfl, hc⟩, fun pos previous rest _ hends => ?_⟩
  refine ⟨.emptyCall pos s (pos + s.toList.length) (pos + s.toList.length + 1),
    .bracket (pos + s.toList.length + 1) false, rfl, ⟨_, rfl⟩, rfl, ?_⟩
  rw [List.append_assoc, List.cons_append, List.cons_append, List.nil_append,
    lexFrom_identifier h pos previous (ends_cons (by decide) _), lexFrom_open, lexFrom_close,
    prepend_prepend, prepend_prepend, List.length_append]
  rfl

end Phrase

/-! ## Texts between brackets -/

/-- A phrase may stand between brackets. -/
theorem Phrase.enclosed {κ : Cost} {cs : List Char} {P : Expr → Prop} (h : Phrase 1 cs κ P) :
    Enclosed cs κ P := by
  intro pos q rest
  obtain ⟨d, last, hcost, hP, -, hlex⟩ := h.reads pos (some (.bracket q true)) (')' :: rest) rfl
    (ends_cons (by decide) rest)
  exact ⟨d, some last, hcost, hP, hlex⟩

namespace Enclosed

variable {κ : Cost} {cs : List Char} {P : Expr → Prop}

/-- A text in brackets. -/
theorem brackets (h : Enclosed cs κ P) : Phrase 12 ('(' :: (cs ++ [')'])) κ.brackets P := by
  refine ⟨⟨'(', _, rfl, by decide⟩, fun pos previous rest _ _ => ?_⟩
  obtain ⟨d, last, hcost, hP, hlex⟩ := h (pos + 1) pos rest
  refine ⟨.brackets pos d (pos + 1 + cs.length), .bracket (pos + 1 + cs.length) false,
    by rw [Derivation.cost, hcost], hP, rfl, ?_⟩
  have hlen : pos + ('(' :: (cs ++ [')'])).length = pos + 1 + cs.length + 1 := by
    simp only [List.length_cons, List.length_append, List.length_nil]
    omega
  rw [hlen, List.cons_append, List.append_assoc, lexFrom_open, List.singleton_append, hlex,
    lexFrom_close, prepend_prepend, prepend_prepend]
  rfl

/-- A call with an argument. -/
theorem call {s : String} (hs : isIdentifier s.toList = true) (h : Enclosed cs κ P) :
    Phrase 12 (s.toList ++ '(' :: (cs ++ [')'])) κ.call (fun e => ∃ a p, e = .call s a p ∧ P a) := by
  obtain ⟨hne, hword⟩ := isWordChar_identifier hs
  obtain ⟨c, tail, heq, hc⟩ := word_head hne hword
  refine ⟨⟨c, tail ++ '(' :: (cs ++ [')']), by rw [heq]; rfl, hc⟩, fun pos previous rest _ _ => ?_⟩
  obtain ⟨q, hq⟩ : ∃ q, q = pos + s.toList.length := ⟨_, rfl⟩
  obtain ⟨d, last, hcost, hP, hlex⟩ := h (q + 1) q rest
  refine ⟨.call pos s q d (q + 1 + cs.length), .bracket (q + 1 + cs.length) false,
    by rw [Derivation.cost, hcost], ⟨_, _, rfl, hP⟩, rfl, ?_⟩
  have hlen : pos + (s.toList ++ '(' :: (cs ++ [')'])).length = q + 1 + cs.length + 1 := by
    simp only [List.length_cons, List.length_append, List.length_nil]
    omega
  rw [hlen, List.append_assoc, List.cons_append, List.append_assoc,
    lexFrom_identifier hs pos previous (ends_cons (by decide) _), ← hq, lexFrom_open,
    List.singleton_append, hlex, lexFrom_close, prepend_prepend, prepend_prepend,
    prepend_prepend]
  rfl

end Enclosed

namespace Phrase

variable {k : Nat} {κ : Cost} {cs : List Char} {P Q : Expr → Prop}

/-! ## Phrases made of phrases -/

/-- A phrase in brackets. -/
theorem brackets (h : Phrase 1 cs κ P) : Phrase 12 ('(' :: (cs ++ [')'])) κ.brackets P :=
  h.enclosed.brackets

/-- A call with a phrase as its argument. -/
theorem call {s : String} (hs : isIdentifier s.toList = true) (h : Phrase 1 cs κ P) :
    Phrase 12 (s.toList ++ '(' :: (cs ++ [')'])) κ.call (fun e => ∃ a p, e = .call s a p ∧ P a) :=
  h.enclosed.call hs

/-- A phrase behind a blank. -/
theorem behindBlank (h : Phrase k cs κ P) : Phrase k (' ' :: cs) κ P := by
  refine ⟨⟨' ', cs, rfl, by decide⟩, fun pos previous rest hprevious hends => ?_⟩
  obtain ⟨d, last, hcost, hP, hlast, hlex⟩ := h.reads (pos + 1) previous rest hprevious hends
  refine ⟨d, last, hcost, hP, hlast, ?_⟩
  rw [List.cons_append, lexFrom_blank, hlex, List.length_cons, Nat.add_right_comm, Nat.add_assoc]

/-- A phrase in front of a blank. -/
theorem beforeBlank (h : Phrase k cs κ P) : Phrase k (cs ++ [' ']) κ P := by
  obtain ⟨c, tail, heq, hc⟩ := h.head
  refine ⟨⟨c, tail ++ [' '], by rw [heq]; rfl, hc⟩, fun pos previous rest hprevious _ => ?_⟩
  obtain ⟨d, last, hcost, hP, hlast, hlex⟩ := h.reads pos previous (' ' :: rest) hprevious
    (ends_cons (by decide) rest)
  refine ⟨d, last, hcost, hP, hlast, ?_⟩
  rw [List.append_assoc, List.singleton_append, hlex, lexFrom_blank, List.length_append]
  rfl

/-- The head of a phrase is the head of whatever text begins with it. -/
theorem head?_append (h : Phrase k cs κ P) (rest : List Char) : (cs ++ rest).head? = cs.head? := by
  obtain ⟨c, tail, rfl, -⟩ := h.head
  rfl

/-- A unary operator in front of a primary with which it makes no longer operator. -/
theorem prefixed {op : Operator} (hop : op.isUnary = true) (h : Phrase 12 cs κ P)
    (hpair : ∀ a, op.symbolChars = [a] → ∀ c ∈ cs.head?, pairOperator? a c = none) :
    Phrase 11 (op.symbolChars ++ cs) κ.unary (fun e => ∃ a p, e = .unary op a p ∧ P a) := by
  have hhead : ∃ c tail, op.symbolChars ++ cs = c :: tail ∧ c ≠ '=' := by
    cases op
    case boolNot | bitNot | plus | minus | increment | decrement =>
      exact ⟨_, _, rfl, by decide⟩
    all_goals cases hop
  refine ⟨hhead, fun pos previous rest hprevious hends => ?_⟩
  -- What stands behind an operator is in the place of an operand again.
  obtain ⟨d, last, hcost, hP, hlast, hlex⟩ := h.reads (pos + op.symbolChars.length)
    (some (.operator pos op)) rest rfl hends
  refine ⟨.prefixed pos op hop d, last, congrArg Cost.unary hcost, ⟨_, _, rfl, hP⟩, hlast, ?_⟩
  have hlen : pos + (op.symbolChars ++ cs).length = pos + op.symbolChars.length + cs.length := by
    rw [List.length_append]
    omega
  rw [← h.head?_append rest] at hpair
  rw [hlen, List.append_assoc,
    lexFrom_symbol pos previous _ hpair (fun _ _ => hprevious.trans hop.symm), hlex, prepend_prepend]
  rfl

/-- **A binary operator between its operands**, the right one standing at a tighter level and making no
    longer operator with it. -/
theorem joinAdjacent {op : Operator} {ls rs : List Char} {κl κr : Cost} (hop : op.isUnary = false)
    (hl : Phrase op.precedence ls κl P) (hr : Phrase (op.precedence + 1) rs κr Q)
    (hpair : ∀ a, op.symbolChars = [a] → ∀ c ∈ rs.head?, pairOperator? a c = none) :
    Phrase op.precedence (ls ++ (op.symbolChars ++ rs)) (Cost.join op.precedence κl κr)
      (fun e => ∃ l r p, e = .binary op l r p ∧ P l ∧ Q r) := by
  obtain ⟨c, tail, heq, hc⟩ := hl.head
  refine ⟨⟨c, tail ++ (op.symbolChars ++ rs), by rw [heq]; rfl, hc⟩, ?_⟩
  intro pos previous rest hprevious hends
  have hends' : Ends (op.symbolChars ++ (rs ++ rest)) := by
    cases op <;> exact ends_cons (by decide) _
  obtain ⟨dl, last, hcostl, hP, hlast, hlexl⟩ := hl.reads pos previous
    (op.symbolChars ++ (rs ++ rest)) hprevious hends'
  -- The right operand stands behind the operator, so that a sign in front of it is a unary one.
  obtain ⟨q, hq⟩ : ∃ q, q = pos + ls.length := ⟨_, rfl⟩
  obtain ⟨dr, last', hcostr, hQ, hlast', hlexr⟩ := hr.reads (q + op.symbolChars.length)
    (some (.operator q op)) rest rfl hends
  refine ⟨.join dl q op hop rfl dr, last', by rw [Derivation.cost, hcostl, hcostr],
    ⟨_, _, _, rfl, hP, hQ⟩, hlast', ?_⟩
  have hlen : pos + (ls ++ (op.symbolChars ++ rs)).length
      = q + op.symbolChars.length + rs.length := by
    simp only [List.length_append]
    omega
  rw [← hr.head?_append rest] at hpair
  rw [hlen, List.append_assoc, List.append_assoc, hlexl, ← hq,
    lexFrom_symbol q (some last) _ hpair (fun _ _ => hlast.trans hop.symm), hlexr,
    prepend_prepend, prepend_prepend, Derivation.yield, List.append_assoc, List.singleton_append]

/-- **A binary operator between blanks and its operands**, the right one standing at a tighter level. -/
theorem join {op : Operator} {ls rs : List Char} {κl κr : Cost} (hop : op.isUnary = false)
    (hl : Phrase op.precedence ls κl P) (hr : Phrase (op.precedence + 1) rs κr Q) :
    Phrase op.precedence (ls ++ ' ' :: (op.symbolChars ++ ' ' :: rs)) (Cost.join op.precedence κl κr)
      (fun e => ∃ l r p, e = .binary op l r p ∧ P l ∧ Q r) := by
  have hpair : ∀ a, op.symbolChars = [a] → ∀ c ∈ (' ' :: rs).head?, pairOperator? a c = none := by
    intro a _ c hc
    cases hc
    exact pairOperator?_eq_none a (by decide)
  have hjoin := joinAdjacent hop hl.beforeBlank hr.behindBlank hpair
  rw [List.append_assoc, List.singleton_append] at hjoin
  exact hjoin

end Phrase

end HashIf
