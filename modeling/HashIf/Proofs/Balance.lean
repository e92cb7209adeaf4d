import HashIf.Proofs.Bracketing

/-!
# `HashIf.Proofs.Balance`: which tokens have matching brackets

Brackets match if no prefix of the tokens closes more of them than it opens and all of them together close
as many as they open.  Nothing of this mentions a stack; the loop that matches brackets with one accepts
exactly these tokens, because the number of frames around the innermost one is what the tokens so far have
opened and not closed.

## Contents
- `openings`, `closings`, `Covered`, `Balanced`: brackets by their number.
- `nest_cons`: the frames after one more token.
- `nest_cases`: the loop comes to the end, or to the first closing bracket without a partner.
- `Imbalance`: what is wrong with brackets that do not match, and where.
- `ofTokens_cases`: the tokens are accepted exactly if their brackets match.
-/

namespace HashIf

namespace Token

/-- Whether the token is a bracket of the given kind. -/
def isBracket (opening : Bool) : Token → Bool
  | .bracket _ o => o == opening
  | _ => false

/-- How many opening brackets there are among the tokens. -/
def openings (ts : List Token) : Nat := ts.countP (isBracket true)

/-- How many closing brackets there are among the tokens. -/
def closings (ts : List Token) : Nat := ts.countP (isBracket false)

theorem openings_append (ts us : List Token) : openings (ts ++ us) = openings ts + openings us :=
  List.countP_append

theorem closings_append (ts us : List Token) : closings (ts ++ us) = closings ts + closings us :=
  List.countP_append

theorem openings_cons (t : Token) (ts : List Token) : openings (t :: ts) = openings [t] + openings ts :=
  openings_append [t] ts

theorem closings_cons (t : Token) (ts : List Token) : closings (t :: ts) = closings [t] + closings ts :=
  closings_append [t] ts

/-- With `n` brackets open in front of the tokens, no bracket is closed that was not opened. -/
def Covered (n : Nat) (ts : List Token) : Prop := ∀ us, us <+: ts → closings us ≤ openings us + n

theorem covered_nil (n : Nat) : Covered n [] := by
  intro us hus
  rw [List.prefix_nil.mp hus]
  exact Nat.zero_le _

/-- One more token in front, which takes `n` open brackets to `m`. -/
theorem Covered.cons {m n : Nat} {t : Token} {ts : List Token} (h : Covered m ts)
    (hm : m + closings [t] = n + openings [t]) : Covered n (t :: ts) := by
  intro us hus
  rcases List.prefix_cons_iff.mp hus with rfl | ⟨us, rfl, hus'⟩
  · exact Nat.zero_le _
  · have hle := h us hus'
    rw [closings_cons, openings_cons]
    omega

/-- The brackets of the tokens match. -/
structure Balanced (ts : List Token) : Prop where
  /-- No prefix closes more brackets than it opens. -/
  covered : ∀ us, us <+: ts → closings us ≤ openings us
  /-- All brackets that are opened are closed. -/
  complete : closings ts = openings ts

end Token

namespace Expr

open Token

/-- **The frames after one more token**: a bracket that opens adds a frame and one that closes takes it
    away, unless there is none. -/
theorem nest_cons (frame : Frame) (outer : List Frame) (t : Token) :
    (∃ frame' outer', (∀ ts, nest frame outer (t :: ts) = nest frame' outer' ts)
        ∧ outer'.length + closings [t] = outer.length + openings [t])
      ∨ ∃ p, t = .bracket p false ∧ outer = [] := by
  match t, outer with
  | .name p s, outer => exact .inl ⟨_, outer, fun ts => rfl, rfl⟩
  | .number p n v, outer => exact .inl ⟨_, outer, fun ts => rfl, rfl⟩
  | .operator p op, outer => exact .inl ⟨_, outer, fun ts => rfl, rfl⟩
  | .bracket p true, outer => exact .inl ⟨_, frame :: outer, fun ts => rfl, rfl⟩
  | .bracket p false, up :: outer => exact .inl ⟨_, outer, fun ts => rfl, rfl⟩
  | .bracket p false, [] => exact .inr ⟨p, rfl, rfl⟩

/-- **What the loop over the tokens comes to.**  It ends with one frame for each bracket that is still
    open, or at the first closing bracket that has no partner. -/
theorem nest_cases (frame : Frame) (outer : List Frame) (ts : List Token) :
    (∃ frame' outer', nest frame outer ts = .ok (frame', outer')
        ∧ outer'.length + closings ts = outer.length + openings ts ∧ Covered outer.length ts)
      ∨ ∃ (us : List Token) (p : Nat), us ++ [.bracket p false] <+: ts
        ∧ nest frame outer ts = .error ⟨.tooManyClosing, some (p : Int)⟩
        ∧ closings us = openings us + outer.length ∧ Covered outer.length us := by
  induction ts generalizing frame outer with
  | nil => exact .inl ⟨frame, outer, rfl, rfl, covered_nil _⟩
  | cons t ts ih =>
      rcases nest_cons frame outer t with ⟨frame', outer', hstep, hlen⟩ | ⟨p, rfl, rfl⟩
      · rw [hstep]
        rcases ih frame' outer' with
          ⟨frame'', outer'', hrun, hlen', hcovered⟩ | ⟨us, p, hpre, hrun, heq, hcovered⟩
        · refine .inl ⟨frame'', outer'', hrun, ?_, hcovered.cons hlen⟩
          rw [closings_cons, openings_cons]
          omega
        · refine .inr ⟨t :: us, p, List.cons_prefix_cons.mpr ⟨rfl, hpre⟩, hrun, ?_, hcovered.cons hlen⟩
          rw [closings_cons, openings_cons]
          omega
      · exact .inr ⟨[], p, List.cons_prefix_cons.mpr ⟨rfl, List.nil_prefix⟩, rfl, rfl, covered_nil _⟩

/-- The brackets do not match: `fault` says what is wrong with them and `k` is where. -/
inductive Imbalance (ts : List Token) : Fault → Nat → Prop where
  /-- The first closing bracket without a partner. -/
  | closing {us : List Token} {k : Nat} (hpre : us ++ [.bracket k false] <+: ts) (hus : Balanced us) :
      Imbalance ts .tooManyClosing k
  /-- There is none, but brackets are open behind the last token. -/
  | opening {last : Token} (hlast : ts.getLast? = some last) (hcovered : Covered 0 ts)
      (hopen : closings ts < openings ts) : Imbalance ts .missingClosing last.endPos

namespace Imbalance

variable {ts : List Token} {fault : Fault} {k : Nat}

theorem not_balanced (h : Imbalance ts fault k) : ¬ Balanced ts := by
  intro hb
  cases h with
  | @closing us _ hpre hus =>
      -- With the closing bracket itself, more are closed than opened.
      have hle := hb.covered _ hpre
      have hcomplete := hus.complete
      have hone : closings [.bracket k false] = 1 ∧ openings [.bracket k false] = 0 := ⟨rfl, rfl⟩
      rw [closings_append, openings_append] at hle
      omega
  | opening _ _ hopen =>
      have := hb.complete
      omega

theorem stage (h : Imbalance ts fault k) : fault.stage = .structural := by
  cases h <;> rfl

end Imbalance

/-- **The tokens are accepted exactly if their brackets match**, and otherwise the fault is where they
    do not. -/
theorem ofTokens_cases (ts : List Token) :
    (Balanced ts ∧ ∃ e, ofTokens ts = .ok e)
      ∨ ∃ fault k, Imbalance ts fault k ∧ ofTokens ts = .error ⟨fault, some (k : Int)⟩ := by
  unfold ofTokens
  rcases nest_cases ⟨0, []⟩ [] ts with
    ⟨frame, outer, hrun, hlen, hcovered⟩ | ⟨us, p, hpre, hrun, heq, hcovered⟩
  · rw [List.length_nil, Nat.zero_add] at hlen
    cases outer with
    | nil =>
        rw [List.length_nil, Nat.zero_add] at hlen
        refine .inl ⟨⟨hcovered, hlen⟩, ?_⟩
        rw [hrun]
        exact ⟨_, rfl⟩
    | cons up outer =>
        rw [List.length_cons] at hlen
        have hne : ts ≠ [] := by
          rintro rfl
          exact absurd hlen (Nat.succ_ne_zero _)
        have hlast := List.getLast?_eq_some_getLast hne
        refine .inr ⟨_, _, .opening hlast hcovered (by omega), ?_⟩
        rw [hrun, hlast]
        rfl
  · exact .inr ⟨_, p, .closing hpre ⟨hcovered, heq⟩, by rw [hrun]⟩

end Expr

end HashIf
