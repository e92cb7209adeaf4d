import HashIf.Proofs.Lexemes
import HashIf.Proofs.Phrases
import HashIf.Proofs.ResolvedTrees

/-!
# `HashIf.Proofs.Composition`: parsing is compositional over brackets

Any text that is parsed can be put between brackets and used as an operand, or as the argument of a call:
it contributes the tree that it has on its own.  The text is arbitrary, so its tokens are only known to be
those of some derivation.  Between brackets they are the same ones, moved: the first one stands behind an
opening bracket, which leaves a sign what it is at the start of a text, and the closing bracket neither
makes a word longer nor an operator.  What is put around the text takes a few frames more.

## Contents
- `Derivation.relocate`: a derivation at other offsets.
- `Cost.frames_brackets_le` and others: the frames of brackets, operators and calls around a text.
- `enclosed_of_parse`: a parsed text between brackets.
- `parse_of_phrase`, `parse_postfixed`: the trees of texts put together from phrases.
- `ParsedAs`, `parsedAs_binary` and others: the tree of a text that is put together from parsed ones.
- `parse_compositional`: brackets, operators and calls around parsed texts.
-/

namespace HashIf

open Token

/-! ## Moving a derivation -/

/-- The token at the offset that `g` gives for its own. -/
def Token.relocate (g : Nat → Nat) : Token → Token
  | .bracket p opening => .bracket (g p) opening
  | .name p s => .name (g p) s
  | .operator p op => .operator (g p) op
  | .number p n v => .number (g p) n v

theorem Token.shift_eq_relocate (m : Nat) : Token.shift m = Token.relocate (· + m) := by
  funext t
  cases t <;> rfl

namespace Derivation

/-- The derivation with all its offsets replaced by what `g` gives for them. -/
def relocate (g : Nat → Nat) {k : Nat} : Derivation k → Derivation k
  | number p n v => number (g p) n v
  | name p s => name (g p) s
  | brackets p d q => brackets (g p) (d.relocate g) (g q)
  | emptyCall p s q q' => emptyCall (g p) s (g q) (g q')
  | call p s q d q' => call (g p) s (g q) (d.relocate g) (g q')
  | defined p q s => defined (g p) (g q) s
  | prefixed p op hop d => prefixed (g p) op hop (d.relocate g)
  | postfixed d p op hop => postfixed (d.relocate g) (g p) op hop
  | tighter hk d => tighter hk (d.relocate g)
  | join l p op hop hk r => join (l.relocate g) (g p) op hop hk (r.relocate g)

theorem yield_relocate (g : Nat → Nat) {k : Nat} (d : Derivation k) :
    (d.relocate g).yield = d.yield.map (Token.relocate g) := by
  induction d with
  | number | name | emptyCall | defined => rfl
  | brackets p d q ih =>
      simp only [relocate, yield, ih, List.map_cons, List.map_append]
      rfl
  | call p s q d q' ih =>
      simp only [relocate, yield, ih, List.map_cons, List.map_append]
      rfl
  | prefixed p op hop d ih =>
      simp only [relocate, yield, ih, List.map_cons]
      rfl
  | postfixed d p op hop ih =>
      simp only [relocate, yield, ih, List.map_append]
      rfl
  | tighter hk d ih => exact ih
  | join l p op hop hk r ihl ihr =>
      simp only [relocate, yield, ihl, ihr, List.map_append, List.map_cons]
      rfl

theorem cost_relocate (g : Nat → Nat) {k : Nat} (d : Derivation k) : (d.relocate g).cost = d.cost := by
  induction d with
  | number | name | emptyCall | defined => rfl
  | brackets p d q ih => simp only [relocate, cost, ih]
  | call p s q d q' ih => simp only [relocate, cost, ih]
  | prefixed p op hop d ih => simp only [relocate, cost, ih]
  | postfixed d p op hop ih => simp only [relocate, cost, ih]
  | tighter hk d ih => exact ih
  | join l p op hop hk r ihl ihr => simp only [relocate, cost, ihl, ihr]

theorem unplaced_tree_relocate (g : Nat → Nat) {k : Nat} (d : Derivation k) :
    (d.relocate g).tree.unplaced = d.tree.unplaced := by
  induction d with
  | number | name | emptyCall | defined => rfl
  | brackets p d q ih => exact ih
  | call p s q d q' ih => simp only [relocate, tree, Expr.unplaced, ih]
  | prefixed p op hop d ih => simp only [relocate, tree, Expr.unplaced, ih]
  | postfixed d p op hop ih => simp only [relocate, tree, Expr.unplaced, ih]
  | tighter hk d ih => exact ih
  | join l p op hop hk r ihl ihr => simp only [relocate, tree, Expr.unplaced, ihl, ihr]

end Derivation

/-! ## Frames around a text -/

namespace Cost

theorem frames_brackets_le (c : Cost) : c.brackets.frames ≤ c.frames + 2 := by
  have hframes := c.le_frames
  show max (c.joins + 2 + 1) (c.binds + 2) ≤ _
  omega

theorem frames_unary_le (c : Cost) : c.brackets.unary.frames ≤ c.frames + 6 := by
  have hframes := c.le_frames
  show max (c.joins + 2 + 3) (c.binds + 2 + 2 + 2) ≤ _
  omega

theorem frames_join_le (k : Nat) (c c' : Cost) :
    (join k c.brackets c'.brackets).frames ≤ max c.frames c'.frames + 6 := by
  have hframes := c.le_frames
  have hframes' := c'.le_frames
  show max (max (c.joins + 2) (c'.joins + 2) + 3) (max (c.binds + 2 + 2) (c'.binds + 2 + 2) + 2) ≤ _
  omega

/-- An argument that is no single item stands in its brackets, as it does on its own. -/
theorem frames_call_le (c : Cost) : c.call.frames ≤ c.frames + 4 := by
  have hbinds : c.singleBinds + 3 ≤ c.frames + 4 := by
    unfold singleBinds
    split
    · have hframes := c.le_frames
      omega
    · rename_i hsingle
      have hform : c.form ≠ .bare := by
        intro h
        rw [h] at hsingle
        exact hsingle rfl
      rw [frames_of_ne_bare hform]
      omega
  have hframes := c.le_frames
  show max (c.joins + 2 + 3) (c.singleBinds + 1 + 2) ≤ _
  omega

end Cost

namespace Expr

/-! ## Parsed texts between brackets -/

/-- A closing bracket may follow any text. -/
theorem seam_close (cs : List Char) : Seam cs ')' :=
  fun c _ => ⟨fun _ => by decide, pairOperator?_eq_none c (by decide)⟩

/-- **A parsed text between brackets** contributes the tree that it has on its own. -/
theorem enclosed_of_parse [S : CallStack] {t : String} {e : Expr} (h : parse t = .ok e) :
    ∃ κ : Cost, κ.frames ≤ S.frames ∧ Enclosed t.toList κ (fun e' => e'.unplaced = e.unplaced) := by
  obtain ⟨d, hlex, hframes, rfl⟩ := parse_eq_ok_iff.mp h
  refine ⟨d.cost, hframes, fun pos q rest => ?_⟩
  have hlexed : Lexed none 0 none t.toList d.yield :=
    lexFrom_eq_ok_iff.mp (lex_eq_ok_iff.mp hlex)
  -- The text is moved behind the opening bracket, and then the closing one is put behind it.
  have hmoved : Lexed none (0 + pos) (some (.bracket q true)) t.toList (d.yield.map (Token.shift pos)) := by
    refine hlexed.shift ?_ pos
    rfl
  rw [Nat.zero_add, Token.shift_eq_relocate, ← d.yield_relocate] at hmoved
  have hclosed : Lexed (')' :: rest).head? pos (some (.bracket q true)) t.toList
      (d.relocate (· + pos)).yield := hmoved.followed (seam_close _)
  have hread := hclosed.lexFrom_append
  exact ⟨d.relocate (· + pos), _, d.cost_relocate _, d.unplaced_tree_relocate _, hread⟩

/-! ## Texts put together -/

/-- A phrase is parsed as its tree if there are enough frames. -/
theorem parse_of_phrase [S : CallStack] {k : Nat} {κ : Cost} {text : String} {P : Expr → Prop}
    (h : Phrase k text.toList κ P) (hk : 1 ≤ k) (hk' : k ≤ 12) (hframes : κ.frames ≤ S.frames) :
    ∃ e, parse text = .ok e ∧ P e := by
  obtain ⟨d, hcost, hP, hlex⟩ := (h.lower hk hk').lex
  rw [String.ofList_toList] at hlex
  have hroom : d.frames ≤ S.frames := by
    rw [Derivation.frames, hcost]
    exact hframes
  exact ⟨d.tree, parse_eq_ok_iff.mpr ⟨d, hlex, hroom, rfl⟩, hP⟩

/-- **An operator behind a primary.**  The text is no phrase, because a sign behind it would be unary. -/
theorem parse_postfixed [S : CallStack] {κ : Cost} {text : String} {cs : List Char} {P : Expr → Prop}
    (h : Phrase 12 cs κ P) {op : Operator} (hop : op.followsOperand = true)
    (htext : text.toList = cs ++ op.symbolChars) (hframes : κ.unary.frames ≤ S.frames) :
    ∃ e p, parse text = .ok (.unary op e p) ∧ P e := by
  have htwo : ∀ a, op.symbolChars ≠ [a] := by
    intro a ha
    cases op <;> simp_all [Operator.followsOperand, Operator.symbolChars]
  have hends : Ends op.symbolChars := by
    cases op <;> exact ends_cons (by decide) _
  obtain ⟨d, last, hcost, hP, -, hread⟩ := h.reads 0 none op.symbolChars rfl hends
  obtain ⟨q, hq⟩ : ∃ q, q = 0 + cs.length := ⟨_, rfl⟩
  have hsymbol := @lexFrom_symbol q (some last) [] op (fun a ha => absurd ha (htwo a))
    (fun a ha => absurd ha (htwo a))
  have hlex : Token.lex text = .ok (d.yield ++ [.operator q op]) := by
    rw [lex_eq_ok_iff, htext, hread, ← hq, ← List.append_nil op.symbolChars, hsymbol,
      prepend_prepend, lexFrom]
    exact congrArg Except.ok (List.append_nil _)
  let d' : Derivation 1 :=
    ((d.lower 11 (by decide) (by decide)).postfixed q op hop).lower 1 (by decide) (by decide)
  have hyield : d'.yield = d.yield ++ [.operator q op] := by
    rw [Derivation.yield_lower, Derivation.yield, Derivation.yield_lower]
  have htree : d'.tree = .unary op d.tree (some q) := by
    rw [Derivation.tree_lower, Derivation.tree, Derivation.tree_lower]
  have hroom : d'.frames ≤ S.frames := by
    rw [Derivation.frames, Derivation.cost_lower, Derivation.cost, Derivation.cost_lower, hcost]
    exact hframes
  exact ⟨d.tree, some q, parse_eq_ok_iff.mpr ⟨d', hyield ▸ hlex, hroom, htree⟩, hP⟩

/-- The text is parsed as the tree, offsets apart. -/
def ParsedAs [S : CallStack] (text : String) (e : Expr) : Prop :=
  ∃ e', parse text = .ok e' ∧ e'.unplaced = e.unplaced

theorem toList_brackets (t : String) : ("(" ++ t ++ ")").toList = '(' :: (t.toList ++ [')']) := by
  simp only [String.toList_append, List.append_assoc]
  rfl

/-- No operator makes a longer one with an opening bracket. -/
theorem pairOperator?_open (op : Operator) (cs : List Char) :
    ∀ a, op.symbolChars = [a] → ∀ c ∈ ('(' :: cs).head?, pairOperator? a c = none := by
  intro a _ c hc
  cases hc
  exact pairOperator?_eq_none a (by decide)

section

variable [S : CallStack] {t u : String} {a b : Expr}

theorem parsedAs_brackets (ht : parse t = .ok a) : ParsedAs (S := S.grown 2) ("(" ++ t ++ ")") a := by
  obtain ⟨κ, hκ, henclosed⟩ := enclosed_of_parse ht
  have hroom : κ.brackets.frames ≤ S.frames + 2 :=
    Nat.le_trans κ.frames_brackets_le (Nat.add_le_add_right hκ 2)
  have hphrase := henclosed.brackets
  rw [← toList_brackets] at hphrase
  exact parse_of_phrase (S := S.grown 2) hphrase (by decide) (by decide) hroom

theorem parsedAs_binary (ht : parse t = .ok a) (hu : parse u = .ok b) {op : Operator}
    (hop : op.isUnary = false) :
    ParsedAs (S := S.grown 6) ("(" ++ t ++ ")" ++ op.symbol ++ "(" ++ u ++ ")") (.binary op a b none) := by
  have hprec := Operator.precedence_of_binary hop
  obtain ⟨κ, hκ, henclosed⟩ := enclosed_of_parse ht
  obtain ⟨κ', hκ', henclosed'⟩ := enclosed_of_parse hu
  have hroom : (Cost.join op.precedence κ.brackets κ'.brackets).frames ≤ S.frames + 6 :=
    Nat.le_trans (Cost.frames_join_le _ κ κ') (Nat.add_le_add_right (max_le hκ hκ') 6)
  -- Brackets are primaries, so they may stand on both sides of every operator.
  have hleft := henclosed.brackets.lower (show op.precedence ≤ 12 by omega) (le_refl 12)
  have hright := henclosed'.brackets.lower (show op.precedence + 1 ≤ 12 by omega) (le_refl 12)
  have hjoin := Phrase.joinAdjacent hop hleft hright (pairOperator?_open op _)
  have htext : ("(" ++ t ++ ")" ++ op.symbol ++ "(" ++ u ++ ")").toList
      = '(' :: (t.toList ++ [')']) ++ (op.symbolChars ++ '(' :: (u.toList ++ [')'])) := by
    simp only [Operator.symbol, String.toList_append, String.toList_ofList, List.append_assoc,
      List.cons_append]
    rfl
  rw [← htext] at hjoin
  obtain ⟨e, he, l, r, p, rfl, hl, hr⟩ :=
    parse_of_phrase (S := S.grown 6) hjoin op.precedence_pos (by omega) hroom
  refine ⟨_, he, ?_⟩
  simp only [unplaced, hl, hr]

theorem parsedAs_prefixed (ht : parse t = .ok a) {op : Operator} (hop : op.isUnary = true) :
    ParsedAs (S := S.grown 6) (op.symbol ++ "(" ++ t ++ ")") (.unary op a none) := by
  obtain ⟨κ, hκ, henclosed⟩ := enclosed_of_parse ht
  have hroom : κ.brackets.unary.frames ≤ S.frames + 6 :=
    Nat.le_trans κ.frames_unary_le (Nat.add_le_add_right hκ 6)
  have hunary := Phrase.prefixed hop henclosed.brackets (pairOperator?_open op _)
  have htext : (op.symbol ++ "(" ++ t ++ ")").toList
      = op.symbolChars ++ '(' :: (t.toList ++ [')']) := by
    simp only [Operator.symbol, String.toList_append, String.toList_ofList, List.append_assoc]
    rfl
  rw [← htext] at hunary
  obtain ⟨e, he, operand, p, rfl, hoperand⟩ :=
    parse_of_phrase (S := S.grown 6) hunary (by decide) (by decide) hroom
  refine ⟨_, he, ?_⟩
  simp only [unplaced, hoperand]

theorem parsedAs_postfixed (ht : parse t = .ok a) {op : Operator} (hop : op.followsOperand = true) :
    ParsedAs (S := S.grown 6) ("(" ++ t ++ ")" ++ op.symbol) (.unary op a none) := by
  obtain ⟨κ, hκ, henclosed⟩ := enclosed_of_parse ht
  have hroom : κ.brackets.unary.frames ≤ S.frames + 6 :=
    Nat.le_trans κ.frames_unary_le (Nat.add_le_add_right hκ 6)
  have htext : ("(" ++ t ++ ")" ++ op.symbol).toList
      = '(' :: (t.toList ++ [')']) ++ op.symbolChars := by
    rw [String.toList_append, toList_brackets, Operator.symbol, String.toList_ofList]
  obtain ⟨operand, p, he, hoperand⟩ :=
    parse_postfixed (S := S.grown 6) henclosed.brackets hop htext hroom
  refine ⟨_, he, ?_⟩
  simp only [unplaced, hoperand]

theorem parsedAs_call (ht : parse t = .ok a) {name : String} (hname : isIdentifier name.toList = true) :
    ParsedAs (S := S.grown 4) (name ++ "(" ++ t ++ ")") (.call name a none) := by
  obtain ⟨κ, hκ, henclosed⟩ := enclosed_of_parse ht
  have hroom : κ.call.frames ≤ S.frames + 4 :=
    Nat.le_trans κ.frames_call_le (Nat.add_le_add_right hκ 4)
  have hcall := henclosed.call hname
  have htext : (name ++ "(" ++ t ++ ")").toList = name.toList ++ '(' :: (t.toList ++ [')']) := by
    simp only [String.toList_append, List.append_assoc]
    rfl
  rw [← htext] at hcall
  obtain ⟨e, he, argument, p, rfl, hargument⟩ :=
    parse_of_phrase (S := S.grown 4) hcall (by decide) (by decide) hroom
  refine ⟨_, he, ?_⟩
  simp only [unplaced, hargument]

end

/-- **Parsing is compositional over brackets.**  Two parsed texts can be put in brackets, joined by any
    binary operator, put behind any unary operator and in front of `++` and `--`, and handed to any
    function: the tree is made of the trees that the texts have on their own.  What is put around them
    takes two frames more for brackets, four for a call and six for brackets with an operator. -/
theorem parse_compositional [S : CallStack] {t u : String} {a b : Expr} (ht : parse t = .ok a)
    (hu : parse u = .ok b) :
    ParsedAs (S := S.grown 2) ("(" ++ t ++ ")") a
      ∧ (∀ op : Operator, op.isUnary = false →
          ParsedAs (S := S.grown 6) ("(" ++ t ++ ")" ++ op.symbol ++ "(" ++ u ++ ")") (.binary op a b none))
      ∧ (∀ op : Operator, op.isUnary = true →
          ParsedAs (S := S.grown 6) (op.symbol ++ "(" ++ t ++ ")") (.unary op a none))
      ∧ (∀ op : Operator, op.followsOperand = true →
          ParsedAs (S := S.grown 6) ("(" ++ t ++ ")" ++ op.symbol) (.unary op a none))
      ∧ ∀ name : String, isIdentifier name.toList = true →
          ParsedAs (S := S.grown 4) (name ++ "(" ++ t ++ ")") (.call name a none) := by
  refine ⟨parsedAs_brackets ht, ?_, ?_, ?_, ?_⟩
  · intro op hop
    exact parsedAs_binary ht hu hop
  · intro op hop
    exact parsedAs_prefixed ht hop
  · intro op hop
    exact parsedAs_postfixed ht hop
  · intro name hname
    exact parsedAs_call ht hname

/-- Both texts have a sign in front and an end that would swallow what stands behind them: an operator
    behind its operand, and a name. -/
theorem parse_compositional_signs :
    ParsedAs (S := CallStack.standard.grown 6) "(-a++)-(+b || defined c)"
        (.binary .sub (.unary .increment (.unary .minus (.var "a" none) none) none)
          (.binary .boolOr (.unary .plus (.var "b" none) none)
            (.call "defined" (.var "c" none) none) none) none)
      ∧ ParsedAs (S := CallStack.standard.grown 4) "defined(-a++)"
        (.call "defined" (.unary .increment (.unary .minus (.var "a" none) none) none) none) := by
  have ht : parse "-a++" = .ok (.unary .increment (.unary .minus (.var "a" (some 1)) (some 0))
      (some 2)) := by cbv
  have hu : parse "+b || defined c" = .ok (.binary .boolOr (.unary .plus (.var "b" (some 1)) (some 0))
      (.call "defined" (.var "c" (some 14)) (some 6)) (some 3)) := by cbv
  obtain ⟨-, hbinary, -, -, hcall⟩ := parse_compositional ht hu
  exact ⟨hbinary .sub rfl, hcall "defined" (by decide)⟩

end Expr

end HashIf
