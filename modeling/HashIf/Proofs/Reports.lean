import HashIf.Proofs.FaultPlaces
import HashIf.Proofs.Policies
import HashIf.Proofs.Tokenization

/-!
# `HashIf.Proofs.Reports`: what the report on a rejected condition points at

However a condition is read, the report on a rejection shows that condition and points at one of its
characters: the start of a token, the character or word that the lexer could not read, or the end of the last
token.  The offset comes from the stage that found the fault, so it is enough to know where each stage finds
its faults and that all of these places are in the text.

On the screen the caret stands under the character, because the line of the condition and the line of the
caret are indented by the same width.

## Contents
- `Refused`: a condition with the report on it, whichever way it was read.
- `MarkedAt`: the places that a report can point at.
- `Refused.marked`: every report points at such a place, unless the nesting is too deep.
- `caretLine_singleton`, `lines_render`: the three lines of a report.
- `refused_marks_text`: the report on a condition.
-/

namespace HashIf

open Condition Token

/-! ## Reports and their places -/

/-- The text is rejected with the report `r`, by the parser or by one of the two readings. -/
inductive Refused [CallStack] (text : String) (r : Rejection) : Prop where
  | tree (h : Expr.parse text = .error (.rejected r))
  | strict (linux fuzzy : Bool)
      (h : (interpretStrict ⟨linux, fuzzy, .refuse⟩ text).result = .error (.rejected r))
  | extended (linux : Bool) (h : (interpretExtended linux text).result = .error (.rejected r))

/-- The report on a fault points at offset `k` of the text. -/
inductive MarkedAt (text : String) : Fault → Nat → Prop where
  /-- At a word or character that is no token, behind a piece of the text that is made of tokens. -/
  | lexical {fault : Fault} {n k : Nat} {us : List Token} (hfront : Tokenization text.toList n us)
      (hbad : BadAt text.toList n fault k) : MarkedAt text fault k
  /-- At the start of a token. -/
  | token {fault : Fault} {ts : List Token} {t : Token} (hlex : lex text = .ok ts)
      (hfault : fault.isAtToken = true) (ht : t ∈ ts) : MarkedAt text fault t.pos
  /-- At the end of the last token, where a bracket is not closed. -/
  | behind {ts : List Token} {last : Token} (hlex : lex text = .ok ts) (hlast : ts.getLast? = some last) :
      MarkedAt text .missingClosing last.endPos
  /-- At the start of a text without tokens. -/
  | start (hlex : lex text = .ok []) : MarkedAt text .expectedExpression 0

namespace MarkedAt

variable {text : String} {fault : Fault} {k : Nat}

/-- The marked place is in the text or right behind it. -/
theorem le_length (h : MarkedAt text fault k) : k ≤ text.length := by
  cases h with
  | lexical _ hbad =>
      have hlt := hbad.marker.2
      rw [String.length_toList] at hlt
      exact hlt.le
  | @token _ _ t hlex _ ht =>
      have hend := (lex_eq_ok_iff_tokenization.mp hlex).within t ht
      exact (Nat.le_add_right _ _).trans hend
  | behind hlex hlast =>
      exact (lex_eq_ok_iff_tokenization.mp hlex).within _ (List.mem_of_getLast? hlast)
  | start => exact Nat.zero_le _

/-- Too deep a nesting has no place. -/
theorem isTooDeep_eq (h : MarkedAt text fault k) : fault.isTooDeep = false := by
  cases h with
  | lexical _ hbad => cases hbad <;> rfl
  | token _ hfault _ =>
      cases fault with
      | nestedTooDeeply | conditionTooDeep => cases hfault
      | _ => rfl
  | behind => rfl
  | start => rfl

end MarkedAt

/-- What a report says of its place: there is one, or the fault is too deep a nesting. -/
def Marked (text : String) (r : Rejection) : Prop :=
  r.condition = some text ∧ (r.fault.isTooDeep = true ∧ r.markers = []
    ∨ ∃ k : Nat, r.markers = [(k : Int)] ∧ MarkedAt text r.fault k)

/-- A fault in the tokens of a text is marked in the text. -/
theorem PlaceIn.marked {text : String} {ts : List Token} {f : LocatedFault} (hlex : lex text = .ok ts)
    (h : PlaceIn ts f) : Marked text (.ofLocated (some text) f) := by
  refine ⟨rfl, ?_⟩
  cases h with
  | nowhere => exact .inl ⟨rfl, rfl⟩
  | @token _ t hfault ht => exact .inr ⟨t.pos, rfl, .token hlex hfault ht⟩
  | @behind last hlast => exact .inr ⟨last.endPos, rfl, .behind hlex hlast⟩
  | start hnil =>
      subst hnil
      exact .inr ⟨0, rfl, .start hlex⟩

theorem marked_of_parse [CallStack] {text : String} {r : Rejection}
    (h : Expr.parse text = .error (.rejected r)) : Marked text r := by
  cases hlex : lex text with
  | error f =>
      rw [Expr.parse_of_lex_error hlex] at h
      cases h
      obtain ⟨n, us, fault, k, hfront, hbad, rfl⟩ := lex_eq_rejected_iff_tokenization.mp hlex
      exact ⟨rfl, .inr ⟨k, rfl, .lexical hfront hbad⟩⟩
  | ok ts =>
      rw [Expr.parse_of_lex hlex] at h
      cases hres : Expr.resolveTokens ts with
      | error f =>
          rw [hres] at h
          cases h
          exact (Expr.placeIn_of_resolveTokens hres).marked hlex
      | ok e =>
          rw [hres] at h
          cases h

/-- A fault in the tree of a text is marked in the text, if a tree blames the tokens it was made from.  A
    tree that is too deep to be read blames none. -/
theorem marked_of_reading [CallStack] {text : String} {r : Rejection} {frames : Expr → Nat}
    {reading : Expr → Except LocatedFault Formula}
    (hreading : ∀ d : Derivation 1, FaultsAt (StartsToken d.yield) (reading d.tree))
    (h : (match Expr.parse text with
      | .error f => .error f
      | .ok e => withinStack (frames e) text (shownIn (some text) (reading e)))
        = Except.error (.rejected r)) : Marked text r := by
  cases hparse : Expr.parse text with
  | error f =>
      rw [hparse] at h
      cases h
      exact marked_of_parse hparse
  | ok e =>
      rw [hparse] at h
      rcases CallStack.within_eq_error h with hr | h
      · cases hr
        exact ⟨rfl, .inl ⟨rfl, rfl⟩⟩
      · obtain ⟨f, hf, hr⟩ := shownIn_eq_error_iff.mp h
        cases hr
        obtain ⟨d, hlex, -, rfl⟩ := Expr.parse_eq_ok_iff.mp hparse
        exact (PlaceIn.of_faultsAt (hreading d) hf).marked hlex

/-- **Every report points at a place in the text**, unless the nesting is too deep. -/
theorem Refused.marked [CallStack] {text : String} {r : Rejection} (h : Refused text r) : Marked text r := by
  cases h with
  | tree h => exact marked_of_parse h
  | strict linux fuzzy h =>
      have hformula : strictFormula ⟨linux, fuzzy, .refuse⟩ text = .error (.rejected r) := by
        rw [← shownUnder_refuse]
        exact h
      exact marked_of_reading (fun d => d.faultsAt_strict (fun t ht => ⟨t, ht, rfl⟩) _) hformula
  | extended linux h =>
      exact marked_of_reading (fun d => d.faultsAt_extended (fun t ht => ⟨t, ht, rfl⟩) linux) h

/-! ## The lines of a report -/

/-- One marker gives one caret, with the width of the text in front of it. -/
theorem carets_singleton (k : Nat) : carets [(k : Int)] = List.replicate k ' ' ++ ['^'] := by
  have hwidth : (([(k : Int)].getLast?.getD (-1)) + 1).toNat = k + 1 := by
    show ((k : Int) + 1).toNat = k + 1
    omega
  have hblanks : (List.range k).map (fun i : Nat => if [(k : Int)].contains (i : Int) then '^' else ' ')
      = List.replicate k ' ' := by
    rw [List.eq_replicate_iff]
    refine ⟨by simp, fun c hc => ?_⟩
    obtain ⟨i, hi, rfl⟩ := List.mem_map.mp hc
    have hne : (i : Int) ≠ k := by
      have := List.mem_range.mp hi
      omega
    simp [hne]
  unfold carets
  simp only [hwidth, List.range_succ, List.map_append, hblanks]
  simp

/-- The line under the condition. -/
theorem caretLine_singleton (k : Nat) :
    (caretLine [(k : Int)]).toList = List.replicate (conditionLabel.length + k) ' ' ++ ['^'] := by
  unfold caretLine
  rw [carets_singleton, String.toList_ofList, ← List.append_assoc, List.replicate_append_replicate]

/-- **A report with one marker has three lines**: the message, the condition behind its label, and a caret
    in the column of the marked character. -/
theorem lines_render {r : Rejection} {text : String} {k : Nat} (hshown : r.condition = some text)
    (hmarkers : r.markers = [(k : Int)]) (htext : '\n' ∉ text.toList)
    (hmessage : '\n' ∉ r.fault.message.toList) :
    r.render.toList.splitOn '\n'
      = [r.fault.message.toList, conditionLabel.toList ++ text.toList,
         List.replicate (conditionLabel.length + k) ' ' ++ ['^']] := by
  have hrender : r.render.toList
      = ['\n'].intercalate [r.fault.message.toList, conditionLabel.toList ++ text.toList,
          List.replicate (conditionLabel.length + k) ' ' ++ ['^']] := by
    unfold Rejection.render renderReport
    rw [hshown, hmarkers]
    simp [caretLine_singleton, List.intercalate]
  rw [hrender]
  refine List.splitOn_intercalate _ ?_ (List.cons_ne_nil _ _)
  intro line hline
  simp only [List.mem_cons, List.not_mem_nil, or_false] at hline
  rcases hline with rfl | rfl | rfl
  · exact hmessage
  · have hlabel : '\n' ∉ conditionLabel.toList := by decide
    simp [hlabel, htext]
  · simp

/-! ## The report on a condition -/

/-- **The report on a rejected condition**, for every text and however it is read.  It shows the text; it has
    no marker exactly if the nesting is too deep, for the parser or for the reading, and else a single one,
    which is in the text or right behind it, at a place that goes with the fault.  Without line feeds it is
    three lines, and the caret stands under the marked character. -/
theorem refused_marks_text [CallStack] {text : String} {r : Rejection} (h : Refused text r) :
    r.condition = some text
      ∧ (r.markers = [] ↔ r.fault = .nestedTooDeeply ∨ r.fault = .conditionTooDeep)
      ∧ (r.fault ≠ .nestedTooDeeply → r.fault ≠ .conditionTooDeep →
          ∃ k : Nat, r.markers = [(k : Int)] ∧ k ≤ text.length
          ∧ MarkedAt text r.fault k
          ∧ ('\n' ∉ text.toList → '\n' ∉ r.fault.message.toList →
              r.render.toList.splitOn '\n'
                = [r.fault.message.toList, conditionLabel.toList ++ text.toList,
                   List.replicate (conditionLabel.length + k) ' ' ++ ['^']])) := by
  obtain ⟨hshown, ⟨hdeep, hnone⟩ | ⟨k, hmarkers, hplace⟩⟩ := h.marked
  · have hcause := Fault.isTooDeep_iff.mp hdeep
    exact ⟨hshown, ⟨fun _ => hcause, fun _ => hnone⟩, fun hne hne' => absurd hcause (not_or.mpr ⟨hne, hne'⟩)⟩
  · refine ⟨hshown, ⟨fun hnil => ?_, fun hdeep => ?_⟩, fun _ _ => ?_⟩
    · rw [hmarkers] at hnil
      cases hnil
    · have hmarked := hplace.isTooDeep_eq
      rw [Fault.isTooDeep_iff.mpr hdeep] at hmarked
      cases hmarked
    · exact ⟨k, hmarkers, hplace.le_length, hplace, lines_render hshown hmarkers⟩

/-- The variable in `!(defined(A) && B)` has no truth value, and the caret stands under it. -/
theorem refused_marks_text_bareVariable :
    Refused "!(defined(A) && B)" ⟨.bareVariable "B", some "!(defined(A) && B)", [16]⟩
      ∧ MarkedAt "!(defined(A) && B)" (.bareVariable "B") 16
      ∧ (Rejection.render ⟨.bareVariable "B", some "!(defined(A) && B)", [16]⟩).toList.splitOn '\n'
        = ["Found variable outside of defined() call: B".toList, "In formula: !(defined(A) && B)".toList,
           "                            ^".toList] := by
  have hrefused : Refused "!(defined(A) && B)" ⟨.bareVariable "B", some "!(defined(A) && B)", [16]⟩ := by
    refine .strict false false ?_
    cbv
  obtain ⟨-, -, hmarked⟩ := refused_marks_text hrefused
  obtain ⟨k, hmarkers, -, hplace, hlines⟩ := hmarked (by decide) (by decide)
  obtain rfl : k = 16 := by
    have hk := (List.cons.inj hmarkers).1
    omega
  refine ⟨hrefused, hplace, ?_⟩
  rw [hlines (by decide) (by decide)]
  decide

end HashIf
