import HashIf.Condition.Frames
import HashIf.Proofs.ExtendedTree
import HashIf.Proofs.Phrases
import HashIf.Proofs.Rendering

/-!
# `HashIf.Proofs.Spelling`: texts that are read as a given formula

`Spells linux k cs κ f` says of a piece of text that wherever an operand is expected it is read as a
derivation from level `k` whose cost is `κ` and whose tree is read as the formula `f`, with the frames of
`f`.
Such a text is a phrase with a known formula, so texts are put together as phrases are, and what is left
to say is the formula of the tree.

## Contents
- `ReadExactly`: a tree with its formula and the frames of the formula, rule by rule.
- `Spells`: a text with its level, its cost and its formula.
- `Spells.phrase`, `Spells.of_phrase`: spelling a formula is being a phrase for it.
- `Spells.lex`: a text on its own.
- `Spells.number`, `Spells.negative`, `Spells.name`, `Spells.emptyCall`: the texts without parts.
- `Spells.lower`, `Spells.brackets`, `Spells.call`, `Spells.not`, `Spells.join`: how texts are put
  together.
-/

namespace HashIf

open Token Condition

/-! ## Trees that are read exactly -/

namespace Formula

/-- The text of a number has no minus in front. -/
theorem head?_plain_ne {v : Number} (h : v.Readable) : ¬ v.plain.toList.head? = some '-' := by
  obtain ⟨⟨c, cs, heq, hdigit⟩, -⟩ := h.plain_chars
  rw [heq, List.head?_cons, Option.some.injEq]
  rintro rfl
  cases hdigit

theorem head?_negative (v : Number) : ("-" ++ v.plain).toList.head? = some '-' := by
  rw [String.toList_append]
  rfl

end Formula

/-- The tree is read as the formula, with exactly the frames that the formula needs. -/
structure ReadExactly (linux : Bool) (e : Expr) (f : Formula) : Prop where
  extended_eq : extended linux e = .ok f
  frames_eq : extendedFrames linux e = f.readFrames
  edge_eq : ∀ n, Condition.edgeFrames (fun _ => true) e n = f.edgeFrames n

namespace ReadExactly

variable {linux : Bool} {e : Expr} {f : Formula}

theorem var (s : String) (p : Option Int) : ReadExactly linux (.var s p) (.var s) :=
  ⟨by rw [extended], rfl, fun _ => rfl⟩

theorem number {v : Number} (h : v.Readable) (p : Option Int) :
    ReadExactly linux (.num v p) (.lit v.plain) :=
  ⟨by rw [extended], (if_neg (Formula.head?_plain_ne h)).symm, fun _ => rfl⟩

/-- A minus joins the number behind it. -/
theorem negative (v : Number) (p q : Option Int) :
    ReadExactly linux (.unary .minus (.num v q) p) (negativeLiteral v) where
  extended_eq := by
    rw [extended, if_neg (by decide)]
    rfl
  frames_eq := (if_pos (Formula.head?_negative v)).symm
  edge_eq _ := rfl

theorem emptyCall {s : String} (htest : ConfigTest.ofName? linux s = none) (p : Option Int) :
    ReadExactly linux (.emptyCall s p) (.emptyCall s) :=
  ⟨by rw [extended, htest], rfl, fun _ => rfl⟩

theorem call (h : ReadExactly linux e f) {s : String} (htest : ConfigTest.ofName? linux s = none)
    (p : Option Int) : ReadExactly linux (.call s e p) (.call s f) where
  extended_eq := by
    rw [extended, htest, h.extended_eq]
    rfl
  frames_eq := by
    rw [extendedFrames, htest, h.frames_eq]
    rfl
  edge_eq _ := rfl

theorem not (h : ReadExactly linux e f) (p : Option Int) :
    ReadExactly linux (.unary .boolNot e p) (.not f) where
  extended_eq := by
    rw [extended, if_pos rfl, h.extended_eq]
    rfl
  frames_eq := by
    rw [extendedFrames, if_pos rfl, h.frames_eq]
    rfl
  edge_eq _ := rfl

/-- **A binary node** is read as its operands are, and a chain on its left goes on with the same loop. -/
theorem join {l r : Expr} {g : Formula} {op : Operator} (hl : ReadExactly linux l f)
    (hedge : LeftEdge l) (hop : op.isUnary = false) (hr : ReadExactly linux r g) (p : Option Int) :
    ReadExactly linux (.binary op l r p) (joinKept op f g) where
  extended_eq := by
    rw [extended_binary linux hop hedge, hl.extended_eq, hr.extended_eq]
    rfl
  frames_eq := by
    have hframes : (joinKept op f g).readFrames = max (f.edgeFrames f.readFrames) (3 + g.readFrames) := by
      cases op <;> rfl
    rw [extendedFrames, hl.extended_eq, hframes, hl.edge_eq, hl.frames_eq, hr.frames_eq]
    rfl
  edge_eq n := by cases op <;> rfl

end ReadExactly

/-! ## Texts with a formula -/

/-- The text `cs` is read as a derivation from level `k`, with the cost `κ`, for the formula `f`.  The token
    `last` is the last one of the text; a sign behind it is a binary operator. -/
structure Spells (linux : Bool) (k : Nat) (cs : List Char) (κ : Cost) (f : Formula) : Prop where
  head : ∃ c tail, cs = c :: tail ∧ c ≠ '='
  reads : ∀ (pos : Nat) (previous : Option Token) (rest : List Char),
    unaryPosition previous = true → Ends rest →
      ∃ (d : Derivation k) (last : Token), d.cost = κ ∧ ReadExactly linux d.tree f
        ∧ last.opensOperand = false
        ∧ lexFrom pos previous (cs ++ rest)
          = prepend d.yield (lexFrom (pos + cs.length) (some last) rest)

namespace Spells

variable {linux : Bool} {k : Nat} {κ : Cost} {cs : List Char} {f : Formula} {P : Expr → Prop}

/-- A text that spells a formula is a phrase for it. -/
theorem phrase (h : Spells linux k cs κ f) :
    Phrase k cs κ (fun e => ReadExactly linux e f) :=
  ⟨h.head, h.reads⟩

/-- A phrase spells the formula that its tree is read as. -/
theorem of_phrase (h : Phrase k cs κ P)
    (hf : ∀ d : Derivation k, P d.tree → ReadExactly linux d.tree f) : Spells linux k cs κ f := by
  have h' := h.imp (Q := fun e => ReadExactly linux e f) hf
  exact ⟨h'.head, h'.reads⟩

/-- **A text on its own** has the tokens of its derivation. -/
theorem lex (h : Spells linux k cs κ f) :
    ∃ d : Derivation k, d.cost = κ ∧ ReadExactly linux d.tree f
      ∧ Token.lex (String.ofList cs) = .ok d.yield :=
  h.phrase.lex

/-- A text stands at every level below its own. -/
theorem lower {j : Nat} (h : Spells linux k cs κ f) (hj : j ≤ k) (hk : k ≤ 12) :
    Spells linux j cs κ f :=
  of_phrase (h.phrase.lower hj hk) (fun _ hd => hd)

/-! ## Texts without parts -/

/-- The text of a number. -/
theorem number {v : Number} (h : v.Readable) :
    Spells linux 12 v.plain.toList .atom (.lit v.plain) := by
  refine of_phrase (Phrase.number h) ?_
  rintro d ⟨p, hd⟩
  rw [hd]
  exact .number h p

/-- The text of a number with a minus in front. -/
theorem negative {v : Number} (h : v.Readable) :
    Spells linux 11 ('-' :: v.plain.toList) Cost.atom.unary (negativeLiteral v) := by
  have hpair : ∀ a, Operator.minus.symbolChars = [a] →
      ∀ c ∈ v.plain.toList.head?, pairOperator? a c = none := by
    intro a _ c hc
    exact pairOperator?_word a (isWordChar_plain h c (List.mem_of_head? hc))
  refine of_phrase (Phrase.prefixed (show Operator.minus.isUnary = true from rfl) (Phrase.number h) hpair) ?_
  rintro d ⟨a, p, hd, q, rfl⟩
  rw [hd]
  exact .negative v p q

/-- The text of a variable. -/
theorem name {s : String} (h : isIdentifier s.toList = true) :
    Spells linux 12 s.toList .atom (.var s) := by
  refine of_phrase (Phrase.name h) ?_
  rintro d ⟨p, hd⟩
  rw [hd]
  exact .var s p

/-- A call with empty brackets, of a name that is no test. -/
theorem emptyCall {s : String} (h : isIdentifier s.toList = true)
    (htest : ConfigTest.ofName? linux s = none) :
    Spells linux 12 (s.toList ++ ['(', ')']) .emptyCall (.emptyCall s) := by
  refine of_phrase (Phrase.emptyCall h) ?_
  rintro d ⟨p, hd⟩
  rw [hd]
  exact .emptyCall htest p

/-! ## Texts made of texts -/

/-- A text in brackets. -/
theorem brackets (h : Spells linux 1 cs κ f) : Spells linux 12 ('(' :: (cs ++ [')'])) κ.brackets f :=
  of_phrase h.phrase.brackets (fun _ hd => hd)

/-- A call with an argument, of a name that is no test. -/
theorem call {s : String} (hs : isIdentifier s.toList = true)
    (htest : ConfigTest.ofName? linux s = none) (h : Spells linux 1 cs κ f) :
    Spells linux 12 (s.toList ++ '(' :: (cs ++ [')'])) κ.call (.call s f) := by
  refine of_phrase (Phrase.call hs h.phrase) ?_
  rintro d ⟨a, p, hd, ha⟩
  rw [hd]
  exact ha.call htest p

/-- A negation. -/
theorem not (h : Spells linux 12 cs κ f) : Spells linux 11 ('!' :: cs) κ.unary (.not f) := by
  have hpair : ∀ a, Operator.boolNot.symbolChars = [a] →
      ∀ c ∈ cs.head?, pairOperator? a c = none := by
    intro a ha c hc
    obtain ⟨c', tail, heq, hne⟩ := h.head
    rw [heq] at hc
    cases hc
    cases ha
    exact pairOperator?_not hne
  refine of_phrase (Phrase.prefixed (show Operator.boolNot.isUnary = true from rfl) h.phrase hpair) ?_
  rintro d ⟨a, p, hd, ha⟩
  rw [hd]
  exact ha.not p

/-- **A binary operator between its operands**, the right one standing at a tighter level. -/
theorem join {op : Operator} {ls rs : List Char} {κl κr : Cost} {l r : Formula}
    (hop : op.isUnary = false) (hl : Spells linux op.precedence ls κl l)
    (hr : Spells linux (op.precedence + 1) rs κr r) :
    Spells linux op.precedence (ls ++ ' ' :: (op.symbolChars ++ ' ' :: rs)) (Cost.join op.precedence κl κr)
      (joinKept op l r) := by
  refine of_phrase (Phrase.join hop hl.phrase hr.phrase) ?_
  rintro d ⟨a, b, p, hd, ha, hb⟩
  -- The left operand is part of the tree of a derivation, so its own left edge is in order.
  have hedge := d.leftEdge_tree
  rw [hd] at hedge
  rw [hd]
  exact ha.join hedge.2 hop hb p

end Spells

end HashIf
