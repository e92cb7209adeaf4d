import HashIf.Proofs.Composition
import HashIf.Proofs.OperatorSymbols
import HashIf.Proofs.PlainReadings

/-!
# `HashIf.Proofs.Spacing`: white space between tokens

White space may be put anywhere into a text but into a token.  The tokens stay what they are, and those
behind the place move.  The text in front of the place is a row of lexemes of its own, and so is the text
behind it: white space neither makes a word longer nor an operator, and it leaves the token in front of a
sign in its place.  Offsets are all that changes in the tree, and no reading looks at them.

## Contents
- `Lexed.split`: a row of lexemes, cut where no token is.
- `pushed`, `lexFrom_insert_blanks`: the tokens of a text with white space put in.
- `parsedAs_of_relocated`: the same tokens at other offsets.
- `unlocated_strictPlain`, `unlocated_extendedPlain`: readings do not look at offsets.
- `strictFrames_unplaced`, `extendedFrames_unplaced`: nor do the frames that they need.
- `SameTree`, `interpretStrict_eq_ok_iff`: the readings of texts with the same tree.
- `blanks_ignored`: tokens, trees and formulas of a text with white space put in.
-/

namespace HashIf

namespace Token

/-! ## Cutting a row of lexemes -/

/-- A token stands where its lexeme stands, and it is as long. -/
theorem Lexeme.span {pos : Nat} {previous : Option Token} {cs : List Char} {next : Option Char} {t : Token}
    (h : Lexeme pos previous cs next (some t)) : t.pos = pos ∧ t.length = cs.length := by
  cases h with
  | opening => exact ⟨rfl, rfl⟩
  | closing => exact ⟨rfl, rfl⟩
  | word hne hword hends ht =>
      rcases ofWord_eq_ok_iff.mp ht with ⟨-, v, -, rfl⟩ | ⟨-, -, rfl⟩
      · exact ⟨rfl, rfl⟩
      · exact ⟨rfl, String.length_ofList⟩
  | operator hsymbol hop => exact ⟨rfl, congrArg List.length hsymbol⟩

/-- White space is taken one character at a time. -/
theorem Lexeme.length_blank {pos : Nat} {previous : Option Token} {cs : List Char} {next : Option Char}
    (h : Lexeme pos previous cs next none) : cs.length = 1 := by
  cases h
  rfl

/-- The tokens of a row of lexemes start in its text. -/
theorem Lexed.pos_range {after : Option Char} {pos : Nat} {previous : Option Token} {cs : List Char}
    {ts : List Token} (h : Lexed after pos previous cs ts) :
    ∀ t ∈ ts, pos ≤ t.pos ∧ t.pos < pos + cs.length := by
  induction h with
  | nil pos previous => simp
  | @cons pos previous t lexeme rest ts h _ ih =>
      have hlen := List.length_pos_iff.mpr h.ne_nil
      intro u hu
      rw [List.length_append]
      rcases List.mem_append.mp hu with hu | hu
      · obtain rfl := Option.mem_toList.mp hu
        have := h.span.1
        omega
      · have := ih u hu
        omega

/-- A lexeme that reaches over a place has its token around the place. -/
theorem Lexeme.around {pos : Nat} {previous t : Option Token} {before after : List Char}
    {next : Option Char} (h : Lexeme pos previous (before ++ after) next t) (hbefore : before ≠ [])
    (hafter : after ≠ []) :
    ∃ u ∈ t, u.pos < pos + before.length ∧ pos + before.length < u.endPos := by
  have hb := List.length_pos_iff.mpr hbefore
  have ha := List.length_pos_iff.mpr hafter
  cases t with
  | none =>
      have hlen := h.length_blank
      rw [List.length_append] at hlen
      omega
  | some u =>
      obtain ⟨hpos, hlen⟩ := h.span
      rw [List.length_append] at hlen
      refine ⟨u, rfl, by omega, ?_⟩
      rw [endPos]
      omega

/-- A lexeme is a row of its own. -/
theorem Lexeme.lexed {pos : Nat} {previous t : Option Token} {cs : List Char} {next : Option Char}
    (h : Lexeme pos previous cs next t) : Lexed next pos previous cs t.toList := by
  have hrow : Lexed next pos previous (cs ++ []) (t.toList ++ []) := .cons h (.nil _ _)
  rw [List.append_nil, List.append_nil] at hrow
  exact hrow

/-- **A row of lexemes can be cut where no token is**: both parts are rows of lexemes. -/
theorem Lexed.split {next : Option Char} {pos : Nat} {previous : Option Token} {cs : List Char}
    {ts : List Token} (h : Lexed next pos previous cs ts) {before after : List Char}
    (hcs : cs = before ++ after)
    (hcut : ∀ t ∈ ts, ¬ (t.pos < pos + before.length ∧ pos + before.length < t.endPos)) :
    ∃ us vs, ts = us ++ vs ∧ Lexed (after.head?.or next) pos previous before us
      ∧ Lexed next (pos + before.length) (us.getLast?.or previous) after vs := by
  induction h generalizing before with
  | nil pos previous =>
      obtain ⟨rfl, rfl⟩ := List.append_eq_nil_iff.mp hcs.symm
      exact ⟨[], [], rfl, .nil _ _, .nil _ _⟩
  | @cons pos previous t lexeme rest ts h hrest ih =>
      by_cases hbefore : before = []
      · subst hbefore
        rw [List.nil_append] at hcs
        subst hcs
        exact ⟨[], _, rfl, .nil _ _, .cons h hrest⟩
      rcases List.append_eq_append_iff.mp hcs with ⟨before', rfl, rfl⟩ | ⟨tail, rfl, rfl⟩
      · -- The place is behind the lexeme.
        rw [List.length_append, ← Nat.add_assoc] at hcut ⊢
        obtain ⟨us, vs, rfl, hus, hvs⟩ := ih rfl fun u hu => hcut u (List.mem_append_right _ hu)
        rw [List.head?_append, Option.or_assoc] at h
        refine ⟨t.toList ++ us, vs, (List.append_assoc _ _ _).symm, .cons h hus, ?_⟩
        rw [getLast?_toList_append]
        exact hvs
      · by_cases htail : tail = []
        · -- The lexeme ends at the place.
          subst htail
          rw [List.append_nil] at h hrest
          refine ⟨t.toList, ts, rfl, h.lexed, ?_⟩
          have hlast := getLast?_toList_append previous t []
          rw [List.append_nil] at hlast
          rw [hlast]
          exact hrest
        · -- A lexeme that reaches over the place would have a token around it.
          obtain ⟨u, hu, haround⟩ := h.around hbefore htail
          have hmem : u ∈ t.toList ++ ts := List.mem_append_left _ (Option.mem_toList.mpr hu)
          exact absurd haround (hcut u hmem)

/-! ## White space put in -/

/-- Where an offset goes if `n` characters are put in at the offset `cut`. -/
def pushed (cut n p : Nat) : Nat := if p < cut then p else p + n

/-- Only its own offset decides where a token goes. -/
theorem relocate_congr {g g' : Nat → Nat} {t : Token} (h : g t.pos = g' t.pos) :
    t.relocate g = t.relocate g' := by
  cases t with
  | bracket p opening => exact congrArg (Token.bracket · opening) h
  | name p s => exact congrArg (Token.name · s) h
  | operator p op => exact congrArg (Token.operator · op) h
  | number p n v => exact congrArg (Token.number · n v) h

theorem relocate_id (t : Token) : t.relocate id = t := by
  cases t <;> rfl

/-- White space may follow any text. -/
theorem seam_blank {c : Char} (hc : Text.isBlank c = true) (cs : List Char) : Seam cs c := by
  intro a _
  refine ⟨fun _ => ?_, ?_⟩
  · by_contra hword
    rw [Bool.not_eq_false] at hword
    rw [(isWordChar_first hword).1] at hc
    cases hc
  · exact (inert_of_isBlank hc).pair_right a

theorem lexFrom_blanks {blanks : List Char} (h : ∀ c ∈ blanks, Text.isBlank c = true) (pos : Nat)
    (previous : Option Token) (rest : List Char) :
    lexFrom pos previous (blanks ++ rest) = lexFrom (pos + blanks.length) previous rest := by
  induction blanks generalizing pos with
  | nil => rfl
  | cons c blanks ih =>
      obtain ⟨hc, hblanks⟩ := List.forall_mem_cons.mp h
      rw [List.cons_append, lexFrom, if_pos hc, ih hblanks, List.length_cons, Nat.add_right_comm,
        Nat.add_assoc]

/-- **White space between tokens moves the tokens behind it**, and changes nothing else. -/
theorem lexFrom_insert_blanks {before after blanks : List Char} {ts : List Token}
    (h : lexFrom 0 none (before ++ after) = .ok ts)
    (hcut : ∀ t ∈ ts, ¬ (t.pos < before.length ∧ before.length < t.endPos))
    (hblanks : ∀ c ∈ blanks, Text.isBlank c = true) :
    lexFrom 0 none (before ++ (blanks ++ after))
      = .ok (ts.map (relocate (pushed before.length blanks.length))) := by
  obtain ⟨us, vs, rfl, hus, hvs⟩ := (lexFrom_eq_ok_iff.mp h).split rfl (by simpa using hcut)
  rw [Nat.zero_add] at hvs
  have hfront : Lexed (blanks ++ after).head? 0 none before us := by
    cases blanks with
    | nil => simpa using hus
    | cons c blanks => exact hus.alone.followed (seam_blank (hblanks c List.mem_cons_self) before)
  have hback := lexFrom_eq_ok_iff.mpr (hvs.shift rfl blanks.length)
  have hunmoved : us.map (relocate (pushed before.length blanks.length)) = us := by
    refine (List.map_congr_left fun t ht => ?_).trans (List.map_id us)
    have hlt := (hus.pos_range t ht).2
    rw [Nat.zero_add] at hlt
    have hstays : pushed before.length blanks.length t.pos = id t.pos := if_pos hlt
    exact (relocate_congr hstays).trans t.relocate_id
  have hmoved : vs.map (relocate (pushed before.length blanks.length))
      = vs.map (Token.shift blanks.length) := by
    refine List.map_congr_left fun t ht => ?_
    have hle := (hvs.pos_range t ht).1
    rw [shift_eq_relocate]
    have hmoves : pushed before.length blanks.length t.pos = t.pos + blanks.length :=
      if_neg (Nat.not_lt.mpr hle)
    exact relocate_congr hmoves
  rw [hfront.lexFrom_append, lexFrom_blanks hblanks, Nat.zero_add, hback, List.map_append, hunmoved, hmoved]
  rfl

/-- Where a pushed offset came from. -/
def pulled (cut n p : Nat) : Nat := if p < cut then p else p - n

theorem pulled_pushed (cut n p : Nat) : pulled cut n (pushed cut n p) = p := by
  unfold pulled pushed
  split
  · rfl
  · rw [if_neg (by omega), Nat.add_sub_cancel]

theorem relocate_relocate (g g' : Nat → Nat) (t : Token) :
    (t.relocate g).relocate g' = t.relocate (g' ∘ g) := by
  cases t <;> rfl

theorem map_relocate_pulled (cut n : Nat) (ts : List Token) :
    (ts.map (relocate (pushed cut n))).map (relocate (pulled cut n)) = ts := by
  rw [List.map_map]
  refine (List.map_congr_left fun t _ => ?_).trans (List.map_id ts)
  rw [Function.comp_apply, relocate_relocate]
  exact (relocate_congr (pulled_pushed cut n t.pos)).trans t.relocate_id

end Token

/-! ## Trees -/

/-- The same tokens at other offsets have the same tree. -/
theorem Expr.parsedAs_of_relocated [CallStack] {s t : String} {ts : List Token} {g : Nat → Nat}
    (hs : Token.lex s = .ok ts) (ht : Token.lex t = .ok (ts.map (Token.relocate g))) {e : Expr}
    (h : ParsedAs s e) : ParsedAs t e := by
  obtain ⟨e', hparse, heq⟩ := h
  obtain ⟨d, hlex, hframes, rfl⟩ := parse_eq_ok_iff.mp hparse
  rw [hs] at hlex
  cases hlex
  refine ⟨(d.relocate g).tree, parse_eq_ok_iff.mpr ⟨d.relocate g, ?_, ?_, rfl⟩, ?_⟩
  · rw [ht, d.yield_relocate]
  · rw [Derivation.frames, d.cost_relocate]
    exact hframes
  · rw [d.unplaced_tree_relocate]
    exact heq

namespace Condition

/-! ## Readings and offsets -/

/-- A result without the offset of its fault. -/
def unlocated {α : Type} (r : Except LocatedFault α) : Except Fault α := r.mapError (·.fault)

theorem unlocated_eq_ok_iff {α : Type} {r : Except LocatedFault α} {a : α} :
    unlocated r = .ok a ↔ r = .ok a := by
  cases r with
  | error f =>
      constructor
      · intro h
        cases h
      · intro h
        cases h
  | ok b => exact ⟨fun h => by cases h; rfl, fun h => by cases h; rfl⟩

theorem unlocated_map {α β : Type} (g : α → β) (r : Except LocatedFault α) :
    unlocated (g <$> r) = g <$> unlocated r := by
  cases r <;> rfl

theorem unlocated_join {α β γ : Type} (x : Except LocatedFault α) (y : Except LocatedFault β)
    (g : α → β → γ) :
    unlocated (do let a ← x; let b ← y; return g a b)
      = (do let a ← unlocated x; let b ← unlocated y; return g a b) := by
  cases x with
  | error f => rfl
  | ok a => cases y <;> rfl

theorem unlocated_testedVariable (name : String) (a : Option Expr) (p : Option Int) :
    unlocated (testedVariable name (a.map Expr.unplaced) none) = unlocated (testedVariable name a p) := by
  cases a with
  | none => rfl
  | some a => cases a <;> rfl

theorem unlocated_strictCall (o : Options) (name : String) (a : Option Expr) (p : Option Int) :
    unlocated (strictCall o name (a.map Expr.unplaced) none) = unlocated (strictCall o name a p) := by
  unfold strictCall testFormula
  cases ConfigTest.ofName? o.linux name with
  | none => rfl
  | some t =>
      cases a with
      | none => rfl
      | some a => cases a <;> rfl

theorem comparisonName?_unplaced (op : Operator) (l r : Expr) :
    comparisonName? op (some l.unplaced) (some r.unplaced) = comparisonName? op (some l) (some r) := by
  cases l with
  | var x p => cases r <;> rfl
  | num v p => cases r <;> rfl
  | _ => rfl

theorem negatedNumber?_unplaced (op : Operator) (e : Expr) :
    negatedNumber? op e.unplaced = negatedNumber? op e := by
  cases op with
  | minus => cases e <;> rfl
  | _ => rfl

/-- **The strict reading does not look at offsets.** -/
theorem unlocated_strictPlain (o : Options) {e : Expr} (he : e.Bound) :
    unlocated (strictPlain o e.unplaced) = unlocated (strictPlain o e) := by
  induction e with
  | var x p =>
      simp only [Expr.unplaced, strictPlain]
      split <;> rfl
  | num v p => rfl
  | emptyCall name p => exact unlocated_strictCall o name none p
  | unary op a p ih =>
      simp only [Expr.unplaced, strictPlain, negatedNumber?_unplaced]
      split
      · rw [unlocated_map, unlocated_map, ih he.2]
      · cases negatedNumber? op a <;> rfl
  | binary op l r p ihl ihr =>
      obtain ⟨-, hl, hr⟩ := he
      simp only [Expr.unplaced, strictPlain]
      split
      · rw [unlocated_join, unlocated_join, ihl hl, ihr hr]
      · split
        · unfold encodeComparison
          rw [comparisonName?_unplaced]
          cases o.fuzzy with
          | false => rfl
          | true => cases comparisonName? op (some l) (some r) <;> rfl
        · rfl
  | call name a p ih => exact unlocated_strictCall o name (some a) p
  | mark | group => exact he.elim

/-- **The extended reading does not look at offsets.** -/
theorem unlocated_extendedPlain (linux : Bool) {e : Expr} (he : e.Bound) :
    unlocated (extendedPlain linux e.unplaced) = unlocated (extendedPlain linux e) := by
  induction e with
  | var x p => rfl
  | num v p => rfl
  | emptyCall name p =>
      simp only [Expr.unplaced, extendedPlain]
      cases ConfigTest.ofName? linux name <;> rfl
  | unary op a p ih =>
      simp only [Expr.unplaced, extendedPlain, negatedNumber?_unplaced]
      split
      · rw [unlocated_map, unlocated_map, ih he.2]
      · cases negatedNumber? op a <;> rfl
  | binary op l r p ihl ihr =>
      obtain ⟨-, hl, hr⟩ := he
      simp only [Expr.unplaced, extendedPlain]
      rw [unlocated_join, unlocated_join, ihl hl, ihr hr]
  | call name a p ih =>
      simp only [Expr.unplaced, extendedPlain]
      cases ConfigTest.ofName? linux name with
      | none =>
          simp only [unlocated_map]
          rw [ih he]
      | some t =>
          simp only [unlocated_map]
          rw [← unlocated_testedVariable name (some a) p]
          rfl
  | mark | group => exact he.elim

/-! ## Frames and offsets -/

theorem bound_unplaced {e : Expr} (he : e.Bound) : e.unplaced.Bound := by
  induction e with
  | var | num | emptyCall => trivial
  | unary op a p ih => exact ⟨he.1, ih he.2⟩
  | binary op l r p ihl ihr => exact ⟨he.1, ihl he.2.1, ihr he.2.2⟩
  | call name a p ih => exact ih he
  | mark | group => exact he.elim

theorem framesInTurn_unlocated {α : Type} (r : Except LocatedFault α) (first second : Nat) :
    framesInTurn (unlocated r) first second = framesInTurn r first second := by
  cases r <;> rfl

theorem edgeFrames_unplaced (joins : Operator → Bool) (e : Expr) (n : Nat) :
    edgeFrames joins e.unplaced n = edgeFrames joins e n := by
  cases e <;> rfl

/-- The frames of the strict reading do not depend on offsets. -/
theorem strictFrames_unplaced (o : Options) {e : Expr} (he : e.Bound) :
    strictFrames o e.unplaced = strictFrames o e := by
  induction e with
  | var | num | emptyCall | call => rfl
  | unary op a p ih => simp only [Expr.unplaced, strictFrames, ih he.2]
  | binary op l r p ihl ihr =>
      obtain ⟨-, hl, hr⟩ := he
      have hstrict : unlocated (strict o l.unplaced) = unlocated (strict o l) := by
        rw [strict_eq_plain o hl, strict_eq_plain o (bound_unplaced hl), unlocated_strictPlain o hl]
      rw [Expr.unplaced, strictFrames, strictFrames, ← framesInTurn_unlocated, hstrict,
        framesInTurn_unlocated, edgeFrames_unplaced, ihl hl, ihr hr]
  | mark | group => exact he.elim

/-- The frames of the extended reading do not depend on offsets. -/
theorem extendedFrames_unplaced (linux : Bool) {e : Expr} (he : e.Bound) :
    extendedFrames linux e.unplaced = extendedFrames linux e := by
  induction e with
  | var | num | emptyCall => rfl
  | unary op a p ih => simp only [Expr.unplaced, extendedFrames, ih he.2]
  | binary op l r p ihl ihr =>
      obtain ⟨-, hl, hr⟩ := he
      have hextended : unlocated (extended linux l.unplaced) = unlocated (extended linux l) := by
        rw [extended_eq_plain linux hl, extended_eq_plain linux (bound_unplaced hl),
          unlocated_extendedPlain linux hl]
      rw [Expr.unplaced, extendedFrames, extendedFrames, ← framesInTurn_unlocated, hextended,
        framesInTurn_unlocated, edgeFrames_unplaced, ihl hl, ihr hr]
  | call name a p ih => simp only [Expr.unplaced, extendedFrames, ih he]
  | mark | group => exact he.elim

/-! ## Texts with the same tree -/

/-- Texts that have the same tree, offsets apart, or have none. -/
def SameTree [CallStack] (s t : String) : Prop := ∀ e, Expr.ParsedAs s e ↔ Expr.ParsedAs t e

theorem SameTree.symm [CallStack] {s t : String} (h : SameTree s t) : SameTree t s := fun e => (h e).symm

theorem SameTree.exists_parse [CallStack] {s t : String} (h : SameTree s t) {e : Expr}
    (he : Expr.parse s = .ok e) : ∃ e', Expr.parse t = .ok e' ∧ e'.unplaced = e.unplaced :=
  (h e).mp ⟨e, he, rfl⟩

theorem SameTree.strictFormula_of [CallStack] {s t : String} (h : SameTree s t) {o : Options} {f : Formula}
    (hf : strictFormula o s = .ok f) : strictFormula o t = .ok f := by
  obtain ⟨e, he, hroom, hstrict⟩ := strictFormula_eq_ok_iff.mp hf
  obtain ⟨e', he', heq⟩ := h.exists_parse he
  have hbound := (Expr.wellFormed_of_parse he).bound
  have hbound' := (Expr.wellFormed_of_parse he').bound
  rw [← strictFrames_unplaced o hbound, ← heq, strictFrames_unplaced o hbound'] at hroom
  refine strictFormula_eq_ok_iff.mpr ⟨e', he', hroom, ?_⟩
  rw [strict_eq_plain o hbound, ← unlocated_eq_ok_iff, ← unlocated_strictPlain o hbound] at hstrict
  rw [strict_eq_plain o hbound', ← unlocated_eq_ok_iff, ← unlocated_strictPlain o hbound', heq]
  exact hstrict

theorem SameTree.extendedFormula_of [CallStack] {s t : String} (h : SameTree s t) {linux : Bool} {f : Formula}
    (hf : extendedFormula linux s = .ok f) : extendedFormula linux t = .ok f := by
  obtain ⟨e, he, hroom, hextended⟩ := extendedFormula_eq_ok_iff.mp hf
  obtain ⟨e', he', heq⟩ := h.exists_parse he
  have hbound := (Expr.wellFormed_of_parse he).bound
  have hbound' := (Expr.wellFormed_of_parse he').bound
  rw [← extendedFrames_unplaced linux hbound, ← heq, extendedFrames_unplaced linux hbound'] at hroom
  refine extendedFormula_eq_ok_iff.mpr ⟨e', he', hroom, ?_⟩
  rw [extended_eq_plain linux hbound, ← unlocated_eq_ok_iff, ← unlocated_extendedPlain linux hbound]
    at hextended
  rw [extended_eq_plain linux hbound', ← unlocated_eq_ok_iff, ← unlocated_extendedPlain linux hbound', heq]
  exact hextended

/-- A text with tokens fails to have a formula only by a rejection. -/
theorem strictFormula_rejected_of_lex [CallStack] {o : Options} {text : String} {ts : List Token}
    (hlex : Token.lex text = .ok ts) {failure : Failure} (h : strictFormula o text = .error failure) :
    ∃ r, failure = .rejected r := by
  rcases strictFormula_eq_error_iff.mp h with hparse | ⟨e, fault, -, rfl, -⟩
  · rw [Expr.parse_of_lex hlex] at hparse
    cases hres : Expr.resolveTokens ts with
    | error f =>
        rw [hres] at hparse
        cases hparse
        exact ⟨_, rfl⟩
    | ok e =>
        rw [hres] at hparse
        cases hparse
  · exact ⟨_, rfl⟩

/-- What a policy puts in place of an invalid condition. -/
def replacement? : InvalidPolicy → Option Formula
  | .refuse => none
  | .assumeTrue => some (.const true)
  | .errorVariable => some (.var errorVariableName)

/-- **A text with tokens is read as its formula, or as what the policy puts in its place.** -/
theorem interpretStrict_eq_ok_iff [CallStack] {o : Options} {text : String} {ts : List Token}
    (hlex : Token.lex text = .ok ts) {f : Formula} :
    (interpretStrict o text).result = .ok f
      ↔ strictFormula o text = .ok f
        ∨ (∀ g, strictFormula o text ≠ .ok g) ∧ replacement? o.invalid = some f := by
  unfold interpretStrict
  cases hstrict : strictFormula o text with
  | ok g => simp [underPolicy]
  | error failure =>
      obtain ⟨r, rfl⟩ := strictFormula_rejected_of_lex hlex hstrict
      cases o.invalid <;> simp [underPolicy, applyPolicy, replacement?]

theorem SameTree.interpretStrict_iff [CallStack] {s t : String} (h : SameTree s t) {ts us : List Token}
    (hs : Token.lex s = .ok ts) (ht : Token.lex t = .ok us) (o : Options) (f : Formula) :
    (interpretStrict o s).result = .ok f ↔ (interpretStrict o t).result = .ok f := by
  have hformula : ∀ g, strictFormula o s = .ok g ↔ strictFormula o t = .ok g :=
    fun g => ⟨h.strictFormula_of, h.symm.strictFormula_of⟩
  rw [interpretStrict_eq_ok_iff hs, interpretStrict_eq_ok_iff ht]
  simp only [ne_eq, hformula]

/-! ## White space in a condition -/

/-- **White space between tokens is ignored.**  It may be put into any text that has tokens, anywhere but
    inside of a token.  The tokens stay the same, and those at the place and behind it move by the length of
    what was put in.  Both texts have a tree or none has, and the trees differ in offsets only; and both have
    the same formula in each reading, whatever the options, or none has. -/
theorem blanks_ignored [CallStack] {before after blanks : String} {ts : List Token}
    (hlex : Token.lex (before ++ after) = .ok ts)
    (hcut : ∀ t ∈ ts, ¬ (t.pos < before.length ∧ before.length < t.endPos))
    (hblanks : ∀ c ∈ blanks.toList, Text.isBlank c = true) :
    Token.lex (before ++ blanks ++ after)
        = .ok (ts.map (Token.relocate fun p => if p < before.length then p else p + blanks.length))
      ∧ (∀ e, Expr.ParsedAs (before ++ after) e ↔ Expr.ParsedAs (before ++ blanks ++ after) e)
      ∧ (∀ o f, (interpretStrict o (before ++ after)).result = .ok f
          ↔ (interpretStrict o (before ++ blanks ++ after)).result = .ok f)
      ∧ ∀ linux f, (interpretExtended linux (before ++ after)).result = .ok f
          ↔ (interpretExtended linux (before ++ blanks ++ after)).result = .ok f := by
  have hspaced : Token.lex (before ++ blanks ++ after)
      = .ok (ts.map (Token.relocate (Token.pushed before.length blanks.length))) := by
    rw [Token.lex_eq_ok_iff, String.toList_append] at hlex
    rw [← String.length_toList] at hcut
    rw [Token.lex_eq_ok_iff, String.toList_append, String.toList_append, List.append_assoc,
      ← String.length_toList, ← String.length_toList]
    exact Token.lexFrom_insert_blanks hlex hcut hblanks
  have hsame : SameTree (before ++ after) (before ++ blanks ++ after) := by
    intro e
    constructor
    · exact Expr.parsedAs_of_relocated hlex hspaced
    · refine Expr.parsedAs_of_relocated hspaced ?_ (g := Token.pulled before.length blanks.length)
      rw [Token.map_relocate_pulled]
      exact hlex
  refine ⟨hspaced, hsame, hsame.interpretStrict_iff hlex hspaced, fun linux f => ?_⟩
  exact ⟨hsame.extendedFormula_of, hsame.symm.extendedFormula_of⟩

/-- The sign in front of the number stays unary, and the bracket stays that of the call. -/
theorem blanks_ignored_call :
    Token.lex ("defined" ++ " \t" ++ "(A)&&-1<B")
        = .ok [.name 0 "defined", .bracket 9 true, .name 10 "A", .bracket 11 false, .operator 12 .boolAnd,
          .operator 14 .minus, .number 15 1 (.int 1), .operator 16 .lt, .name 17 "B"]
      ∧ Expr.ParsedAs ("defined" ++ " \t" ++ "(A)&&-1<B")
          (.binary .boolAnd (.call "defined" (.var "A" none) none)
            (.binary .lt (.unary .minus (.num (.int 1) none) none) (.var "B" none) none) none)
      ∧ (interpretExtended false ("defined" ++ " \t" ++ "(A)&&-1<B")).result
          = .ok (.and (.var "A") (.kept .lt (.lit "-1") (.var "B"))) := by
  have hlex : Token.lex ("defined" ++ "(A)&&-1<B")
      = .ok [.name 0 "defined", .bracket 7 true, .name 8 "A", .bracket 9 false, .operator 10 .boolAnd,
        .operator 12 .minus, .number 13 1 (.int 1), .operator 14 .lt, .name 15 "B"] := by cbv
  have hparsed : Expr.ParsedAs ("defined" ++ "(A)&&-1<B")
      (.binary .boolAnd (.call "defined" (.var "A" none) none)
        (.binary .lt (.unary .minus (.num (.int 1) none) none) (.var "B" none) none) none) := by
    refine ⟨.binary .boolAnd (.call "defined" (.var "A" (some 8)) (some 0))
      (.binary .lt (.unary .minus (.num (.int 1) (some 13)) (some 12)) (.var "B" (some 15)) (some 14))
      (some 10), ?_, rfl⟩
    cbv
  have hextended : (interpretExtended false ("defined" ++ "(A)&&-1<B")).result
      = .ok (.and (.var "A") (.kept .lt (.lit "-1") (.var "B"))) := by cbv
  have hblanks : ∀ c ∈ " \t".toList, Text.isBlank c = true := by
    have hchars : " \t".toList = [' ', '\t'] := by cbv
    rw [hchars]
    exact List.all_eq_true.mp rfl
  obtain ⟨htokens, htree, -, hformula⟩ := blanks_ignored hlex (by decide +kernel) hblanks
  exact ⟨htokens, (htree _).mp hparsed, (hformula false _).mp hextended⟩

end Condition

end HashIf
