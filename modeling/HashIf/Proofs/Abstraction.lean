import HashIf.Proofs.ComparisonNames
import HashIf.Proofs.Meaning
import HashIf.Proofs.ResolvedTrees

/-!
# `HashIf.Proofs.Abstraction`: encoded comparisons are a sound abstraction

With comparisons and bare variables encoded as variables, a condition over numbers becomes a propositional
formula.  For every valuation of the variables by numbers there is one assignment of truth values to names
under which all such formulas say what the conditions say.  It reads a name back as the comparison that it
stands for, and compares; the names of comparisons never meet those of configuration tests.

## Contents
- `Number.value`, `compares`: the value of a number, and comparing values.
- `Atoms.valued`: the atoms of a condition under a valuation.
- `encodedAssignment`: the assignment that belongs to a valuation.
- `Expr.subtrees`, `Encodable`: the conditions whose comparisons have a number on one side.
- `StrictOf.holds_valued`, `exists_encodedAssignment`: the formula of a condition says what it says.
-/

namespace HashIf

open Token Condition

/-! ## Values -/

/-- The rational number that a finite double is. -/
def Binary64.value : Binary64 → ℚ
  | finite s m e => if s then -(m * 2 ^ e) else m * 2 ^ e
  | infinite _ | nan => 0

/-- The rational number that a number is. -/
def Number.value : Number → ℚ
  | int n => n
  | float x => x.value

/-- A number that some numeral denotes is zero exactly if its value is. -/
theorem Number.Readable.isZero_eq {v : Number} (h : v.Readable) : v.isZero = decide (v.value = 0) := by
  rcases h.cases with ⟨n, -, rfl⟩ | ⟨m, e, -, hm, -, rfl⟩
  · simp [Number.isZero, Number.value]
  · have hpow : (2 : ℚ) ^ e ≠ 0 := zpow_ne_zero e (by norm_num)
    simp [Number.isZero, Number.value, Binary64.isZero, Binary64.value, hpow]

/-- What a comparison says of two values. -/
def compares (op : Operator) (a b : ℚ) : Bool :=
  match op with
  | .eq => a = b
  | .ne => a ≠ b
  | .lt => a < b
  | .le => a ≤ b
  | .gt => a > b
  | .ge => a ≥ b
  | _ => false

/-- A comparison says the same with its sides exchanged. -/
theorem compares_swapped (op : Operator) (a b : ℚ) : compares (swapped op) b a = compares op a b := by
  cases op with
  | eq => simp only [swapped, compares, eq_comm]
  | ne => simp only [swapped, compares, ne_comm]
  | _ => rfl

/-- What a comparison of two sides says if one of them is a variable and the other one a number. -/
def sidesCompare (ρ : String → ℚ) (op : Operator) : Expr → Expr → Bool
  | .var x _, .num v _ => compares op (ρ x) v.value
  | .num v _, .var x _ => compares op v.value (ρ x)
  | _, _ => false

/-- The atoms of a condition where variables have values: `defined` asks for `δ`, a bare variable is true
    if it is not zero, and comparisons compare. -/
def Atoms.valued (ρ : String → ℚ) (δ : String → Bool) : Atoms where
  number v := v.value ≠ 0
  bare x := ρ x ≠ 0
  test name x := name = Expr.definedName && δ x
  comparison := sidesCompare ρ

/-! ## The assignment of a valuation -/

namespace Condition

/-- What a comparison with a number says under a valuation. -/
def LiteralComparison.holds (ρ : String → ℚ) (c : LiteralComparison) : Bool :=
  compares c.op (ρ c.variableName) c.number.value

/-- The assignment that belongs to a valuation: a name that stands for a comparison has its value, and
    every other name has the value of `δ`. -/
def encodedAssignment (ρ : String → ℚ) (δ : String → Bool) (name : String) : Bool :=
  match LiteralComparison.decode? name with
  | some c => c.holds ρ
  | none => δ name

variable (ρ : String → ℚ) (δ : String → Bool)

theorem encodedAssignment_encoded {c : LiteralComparison} (h : c.Proper) :
    encodedAssignment ρ δ c.encoded = c.holds ρ := by
  rw [encodedAssignment, LiteralComparison.decode?_encoded h]

/-- A name that does not have the form of a comparison stands for none. -/
theorem encodedAssignment_of_not_spells {x : String} (h : ¬ SpellsComparison x) :
    encodedAssignment ρ δ x = δ x := by
  unfold encodedAssignment
  cases hdecode : LiteralComparison.decode? x with
  | none => rfl
  | some c =>
      obtain ⟨hproper, hname⟩ := LiteralComparison.proper_of_decode? hdecode
      have hspells := hproper.spellsComparison
      rw [hname] at hspells
      exact absurd hspells h

/-- A bare variable is encoded as the comparison with zero. -/
theorem encodedAssignment_bare {x : String} (h : isIdentifier x.toList = true) :
    encodedAssignment ρ δ (x ++ "_ne_0") = decide (ρ x ≠ 0) := by
  have hproper : LiteralComparison.Proper ⟨x, .ne, .int 0⟩ := ⟨h, rfl, ⟨['0'], rfl⟩⟩
  have hencoded : LiteralComparison.encoded ⟨x, .ne, .int 0⟩ = x ++ "_ne_0" := by
    have hname : relation .ne ++ valueSuffix (.int 0) = "_ne_0" := by cbv
    rw [LiteralComparison.encoded, String.append_assoc, hname]
  rw [← hencoded, encodedAssignment_encoded ρ δ hproper]
  simp [LiteralComparison.holds, compares, Number.value]

namespace LiteralComparison

variable {op : Operator} {l r : Expr} {c : LiteralComparison}

/-- What a comparison with a number says, whichever side the number stands on. -/
theorem holds_ofSides? (h : ofSides? op l r = some c) : c.holds ρ = sidesCompare ρ op l r := by
  rcases ofSides?_eq_some h with ⟨p, q, rfl, rfl, hop⟩ | ⟨p, q, rfl, rfl, hop⟩
  · rw [holds, sidesCompare, hop]
  · rw [holds, sidesCompare, hop, compares_swapped]

/-- A comparison of genuine sides has a name that can be read back. -/
theorem proper_ofSides? (h : ofSides? op l r = some c) (hop : op.isComparison = true) (hl : l.Genuine)
    (hr : r.Genuine) : c.Proper := by
  rcases ofSides?_eq_some h with ⟨p, q, rfl, rfl, hc⟩ | ⟨p, q, rfl, rfl, hc⟩
  · refine ⟨hl, ?_, hr⟩
    rw [hc]
    exact hop
  · refine ⟨hr, ?_, hl⟩
    rw [hc]
    exact isComparison_swapped hop

end LiteralComparison

end Condition

/-! ## Conditions with encodable comparisons -/

namespace Expr

/-- The tree and all trees below it, outside of groups. -/
def subtrees : Expr → List Expr
  | .unary op a p => .unary op a p :: a.subtrees
  | .binary op l r p => .binary op l r p :: (l.subtrees ++ r.subtrees)
  | .call s a p => .call s a p :: a.subtrees
  | e => [e]

/-- Whether the tree is a number. -/
def isNumber : Expr → Bool
  | .num _ _ => true
  | _ => false

end Expr

namespace Condition

/-- Every comparison has a number on one side, and no `defined` is about a name with the form of a
    comparison. -/
structure Encodable (e : Expr) : Prop where
  numbers : ∀ op l r p, Expr.binary op l r p ∈ e.subtrees → op.isComparison = true →
    l.isNumber = true ∨ r.isNumber = true
  names : ∀ x q p, Expr.call Expr.definedName (.var x q) p ∈ e.subtrees → ¬ SpellsComparison x

theorem Encodable.of_subset {e e' : Expr} (h : Encodable e) (hsub : e'.subtrees ⊆ e.subtrees) :
    Encodable e' :=
  ⟨fun op l r p hmem => h.numbers op l r p (hsub hmem), fun x q p hmem => h.names x q p (hsub hmem)⟩

/-- The operand of a node is below it. -/
theorem subtrees_subset_of_firstOperand? {e a : Expr} {op : Operator}
    (h : e.firstOperand? = some (op, a)) : a.subtrees ⊆ e.subtrees := by
  intro x hx
  rcases Expr.firstOperand?_eq_some h with ⟨p, rfl⟩ | ⟨r, p, rfl⟩
  · exact List.mem_cons_of_mem _ hx
  · exact List.mem_cons_of_mem _ (List.mem_append_left _ hx)

theorem genuine_of_firstOperand? {e a : Expr} {op : Operator} (h : e.firstOperand? = some (op, a))
    (he : e.Genuine) : a.Genuine := by
  rcases Expr.firstOperand?_eq_some h with ⟨p, rfl⟩ | ⟨r, p, rfl⟩
  · exact he
  · exact he.1

/-- An encoded comparison with a number on one side has a variable on the other one. -/
theorem exists_ofSides? {op : Operator} {l r : Expr} {name : String}
    (h : comparisonName? op (some l) (some r) = some name)
    (hnumber : l.isNumber = true ∨ r.isNumber = true) :
    ∃ c, LiteralComparison.ofSides? op l r = some c ∧ c.encoded = name := by
  cases l with
  | var x p =>
      cases r with
      | num v q =>
          cases h
          exact ⟨_, rfl, rfl⟩
      | _ => rcases hnumber with hnumber | hnumber <;> cases hnumber
  | num v p =>
      cases r with
      | var x q =>
          cases h
          exact ⟨_, rfl, rfl⟩
      | _ => cases h
  | _ => cases h

theorem ofName?_false {name : String} {t : ConfigTest} (h : ConfigTest.ofName? false name = some t) :
    name = Expr.definedName := by
  unfold ConfigTest.ofName? at h
  split at h
  · rename_i hname
    exact beq_iff_eq.mp hname
  · cases h

/-- **Encoding is sound.**  Under the assignment of a valuation a condition has the truth value that it has
    under the valuation. -/
theorem StrictOf.holds_valued {o : Options} {e : Expr} {f : Formula} (h : StrictOf o e f)
    (hlinux : o.linux = false) (hgenuine : e.Genuine) (hencodable : Encodable e) (ρ : String → ℚ)
    (δ : String → Bool) : e.holds (.named (encodedAssignment ρ δ)) = e.holds (.valued ρ δ) := by
  have hnumber : ∀ {v : Number}, v.Readable →
      (Atoms.named (encodedAssignment ρ δ)).number v = (Atoms.valued ρ δ).number v := by
    intro v hv
    show (!v.isZero) = decide (v.value ≠ 0)
    rw [hv.isZero_eq, decide_not]
  induction h with
  | number v p =>
      rw [Expr.holds, Expr.holds]
      exact hnumber hgenuine
  | negative h =>
      have hv := genuine_of_firstOperand? h hgenuine
      rcases Expr.firstOperand?_eq_some h with ⟨p, rfl⟩ | ⟨r, p, rfl⟩
      · exact hnumber hv
      · exact hnumber hv
  | @test name x t p q ht =>
      rw [hlinux] at ht
      have hname := ofName?_false ht
      subst hname
      have hspells := hencodable.names x q p List.mem_cons_self
      rw [Expr.holds, Expr.holds]
      exact encodedAssignment_of_not_spells ρ δ hspells
  | bare x p hfuzzy =>
      rw [Expr.holds, Expr.holds]
      exact encodedAssignment_bare ρ δ hgenuine
  | @comparison op l r name p hfuzzy hop h =>
      have hsides := hencodable.numbers op l r p List.mem_cons_self hop
      obtain ⟨c, hc, hname⟩ := exists_ofSides? h hsides
      have hproper := LiteralComparison.proper_ofSides? hc hop hgenuine.1 hgenuine.2
      rw [Expr.holds_comparison _ hop, Expr.holds_comparison _ hop]
      show comparisonHolds _ op l r = sidesCompare ρ op l r
      rw [comparisonHolds, h]
      show encodedAssignment ρ δ name = _
      rw [← hname, encodedAssignment_encoded ρ δ hproper, LiteralComparison.holds_ofSides? ρ hc]
  | @not e a f h _ ih =>
      have ha := ih (genuine_of_firstOperand? h hgenuine)
        (hencodable.of_subset (subtrees_subset_of_firstOperand? h))
      rcases Expr.firstOperand?_eq_some h with ⟨p, rfl⟩ | ⟨r, p, rfl⟩
      · rw [Expr.holds, Expr.holds, ha]
      · rw [Expr.holds, Expr.holds, ha]
  | @connective op l r f g p hop _ _ ihl ihr =>
      have hl := ihl hgenuine.1 (hencodable.of_subset fun x hx =>
        List.mem_cons_of_mem _ (List.mem_append_left _ hx))
      have hr := ihr hgenuine.2 (hencodable.of_subset fun x hx =>
        List.mem_cons_of_mem _ (List.mem_append_right _ hx))
      cases op with
      | boolAnd => rw [Expr.holds, Expr.holds, hl, hr]
      | boolOr => rw [Expr.holds, Expr.holds, hl, hr]
      | _ => cases hop

/-! ## Comparisons with the same name -/

/-- A comparison with a number on one side. -/
def IsLiteralComparison : Expr → Prop
  | .binary op l r _ => op.isComparison = true ∧ (l.isNumber = true ∨ r.isNumber = true)
  | _ => False

/-- A comparison with its sides exchanged. -/
def mirrored : Expr → Expr
  | .binary op l r p => .binary (swapped op) r l p
  | e => e

/-- Sides that make the same comparison are equal or exchanged. -/
theorem unplaced_of_ofSides? {op op' : Operator} {l r l' r' : Expr} {c : LiteralComparison}
    (h : LiteralComparison.ofSides? op l r = some c) (h' : LiteralComparison.ofSides? op' l' r' = some c)
    (p p' : Option Int) :
    (Expr.binary op' l' r' p').unplaced = (Expr.binary op l r p).unplaced
      ∨ (Expr.binary op' l' r' p').unplaced = (mirrored (.binary op l r p)).unplaced := by
  have hswapped : ∀ {a b : Operator}, c.op = swapped a → c.op = b → a = swapped b := by
    intro a b ha hb
    rw [← hb, ha, LiteralComparison.swapped_swapped]
  rcases LiteralComparison.ofSides?_eq_some h with ⟨q, s, rfl, rfl, hop⟩ | ⟨q, s, rfl, rfl, hop⟩
  · rcases LiteralComparison.ofSides?_eq_some h' with ⟨q', s', rfl, rfl, hop'⟩ | ⟨q', s', rfl, rfl, hop'⟩
    · left
      rw [← hop, ← hop']
      rfl
    · right
      rw [hswapped hop' hop]
      rfl
  · rcases LiteralComparison.ofSides?_eq_some h' with ⟨q', s', rfl, rfl, hop'⟩ | ⟨q', s', rfl, rfl, hop'⟩
    · right
      rw [hswapped hop hop', mirrored, LiteralComparison.swapped_swapped]
      rfl
    · left
      have hsame : op' = op := by
        rw [← LiteralComparison.swapped_swapped op', ← hop', hop, LiteralComparison.swapped_swapped]
      rw [hsame]
      rfl

/-- The comparison that an encoded tree makes, with the name that it is encoded as. -/
theorem exists_comparison_of_strict {o : Options} {e : Expr} {name : String} (he : e.WellFormed)
    (hlit : IsLiteralComparison e) (h : strict o e = .ok (.var name)) :
    ∃ op l r p c, e = .binary op l r p ∧ LiteralComparison.ofSides? op l r = some c ∧ c.Proper
      ∧ c.encoded = name := by
  cases e with
  | binary op l r p =>
      obtain ⟨hop, hnumber⟩ := hlit
      rw [strict_comparison o hop] at h
      obtain ⟨name', -, hname, heq⟩ := encodeComparison_eq_ok h
      cases heq
      obtain ⟨c, hc, hencoded⟩ := exists_ofSides? hname hnumber
      have hproper := LiteralComparison.proper_ofSides? hc hop he.genuine.1 he.genuine.2
      exact ⟨op, l, r, p, c, rfl, hc, hproper, hencoded⟩
  | _ => exact hlit.elim

/-- **Only the same comparison has the same name**, up to an exchange of the sides. -/
theorem unplaced_of_strict_eq {o : Options} {e e' : Expr} {name : String} (he : e.WellFormed)
    (he' : e'.WellFormed) (hlit : IsLiteralComparison e) (hlit' : IsLiteralComparison e')
    (h : strict o e = .ok (.var name)) (h' : strict o e' = .ok (.var name)) :
    e'.unplaced = e.unplaced ∨ e'.unplaced = (mirrored e).unplaced := by
  obtain ⟨op, l, r, p, c, rfl, hc, hproper, hname⟩ := exists_comparison_of_strict he hlit h
  obtain ⟨op', l', r', p', c', rfl, hc', hproper', hname'⟩ := exists_comparison_of_strict he' hlit' h'
  have hsame := LiteralComparison.encoded_injective hproper hproper' (hname.trans hname'.symm)
  subst hsame
  exact unplaced_of_ofSides? hc hc' p p'

/-! ## Texts -/

/-- **One assignment is right for all conditions.**  For every valuation there is an assignment under which
    the formula of every condition with encodable comparisons has the truth value of the condition.  Two
    comparisons with a number are encoded as the same variable only if they are the same comparison, up
    to an exchange of their sides. -/
theorem exists_encodedAssignment [CallStack] :
    (∀ (ρ : String → ℚ) (δ : String → Bool), ∃ σ : String → Bool,
        ∀ (text : String) (e : Expr) (f : Formula), Expr.parse text = .ok e →
          (interpretStrict ⟨false, true, .refuse⟩ text).result = .ok f → Encodable e →
            f.evaluate σ = .ok (e.holds (.valued ρ δ)))
      ∧ ∀ (e e' : Expr) (name : String), e.WellFormed → e'.WellFormed → IsLiteralComparison e →
          IsLiteralComparison e' → strict ⟨false, true, .refuse⟩ e = .ok (.var name) →
            strict ⟨false, true, .refuse⟩ e' = .ok (.var name) →
              e'.unplaced = e.unplaced ∨ e'.unplaced = (mirrored e).unplaced := by
  refine ⟨fun ρ δ => ⟨encodedAssignment ρ δ, ?_⟩, fun e e' name he he' hlit hlit' h h' =>
    unplaced_of_strict_eq he he' hlit hlit' h h'⟩
  intro text e f hparse hread hencodable
  rw [interpretStrict_refuse rfl] at hread
  obtain ⟨e', hparse', -, hstrict⟩ := strictFormula_eq_ok_iff.mp hread
  rw [hparse] at hparse'
  cases hparse'
  have hof := strict_eq_ok_iff.mp hstrict
  have hgenuine := (Expr.wellFormed_of_parse hparse).genuine
  rw [Formula.evaluate_propositional _ hof.propositional, hof.holds_eq,
    hof.holds_valued rfl hgenuine hencodable ρ δ]

/-- The tree of `2>A_eq_1&&!defined(B)`. -/
def boundedAndUndefined : Expr :=
  .binary .boolAnd (.binary .gt (.num (.int 2) (some 0)) (.var "A_eq_1" (some 2)) (some 1))
    (.unary .boolNot (.call "defined" (.var "B" (some 19)) (some 11)) (some 10)) (some 8)

theorem boundedAndUndefined_encodable : Encodable boundedAndUndefined := by
  constructor
  · intro op l r p hmem hop
    simp only [boundedAndUndefined, Expr.subtrees, List.cons_append, List.nil_append, List.mem_cons,
      Expr.binary.injEq, reduceCtorEq, List.not_mem_nil, or_false] at hmem
    rcases hmem with ⟨rfl, -⟩ | ⟨-, rfl, -⟩
    · cases hop
    · exact .inl rfl
  · intro x q p hmem hspells
    simp only [boundedAndUndefined, Expr.subtrees, List.cons_append, List.nil_append, List.mem_cons,
      Expr.call.injEq, Expr.var.injEq, reduceCtorEq, List.not_mem_nil, or_false, false_or] at hmem
    obtain ⟨-, ⟨rfl, -⟩, -⟩ := hmem
    exact absurd hspells.mem (by decide)

theorem exists_encodedAssignment_bounded :
    (interpretStrict ⟨false, true, .refuse⟩ "2>A_eq_1&&!defined(B)").result
        = .ok (.and (.var "A_eq_1_lt_2") (.not (.var "B")))
      ∧ (∃ σ : String → Bool,
          (Formula.and (.var "A_eq_1_lt_2") (.not (.var "B"))).evaluate σ = .ok true)
      ∧ (Expr.binary .lt (.var "A_eq_1" none) (.num (.int 2) none) none).unplaced
        = (mirrored (.binary .gt (.num (.int 2) none) (.var "A_eq_1" none) none)).unplaced := by
  have hparse : Expr.parse "2>A_eq_1&&!defined(B)" = .ok boundedAndUndefined := by cbv
  have hread : (interpretStrict ⟨false, true, .refuse⟩ "2>A_eq_1&&!defined(B)").result
      = .ok (.and (.var "A_eq_1_lt_2") (.not (.var "B"))) := by cbv
  obtain ⟨σ, hσ⟩ := exists_encodedAssignment.1 (fun _ => 1) (fun _ => false)
  have heval := hσ _ _ _ hparse hread boundedAndUndefined_encodable
  have htrue : boundedAndUndefined.holds (.valued (fun _ => 1) (fun _ => false)) = true := by
    simp [boundedAndUndefined, Expr.holds, Atoms.valued, sidesCompare, compares, Number.value]
  rw [htrue] at heval
  refine ⟨hread, ⟨σ, heval⟩, ?_⟩
  have hidentifier : isIdentifier "A_eq_1".toList = true := by decide
  have htwo : Number.Readable (.int 2) := ⟨['2'], rfl⟩
  have hsame := exists_encodedAssignment.2
    (.binary .gt (.num (.int 2) none) (.var "A_eq_1" none) none)
    (.binary .lt (.var "A_eq_1" none) (.num (.int 2) none) none) "A_eq_1_lt_2"
    ⟨⟨htwo, hidentifier⟩, rfl, trivial, trivial⟩ ⟨⟨hidentifier, htwo⟩, rfl, trivial, trivial⟩
    ⟨rfl, .inl rfl⟩ ⟨rfl, .inr rfl⟩ (by cbv) (by cbv)
  refine hsame.resolve_left fun h => ?_
  simp [Expr.unplaced] at h

end Condition

end HashIf
