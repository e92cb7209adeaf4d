import HashIf.Condition.Strict
import HashIf.Proofs.PlainNumbers

/-!
# `HashIf.Proofs.ComparisonNames`: the name of a comparison can be read back

A comparison of a variable with a number is encoded as a variable whose name is made of the variable, the
relation and the number.  The variable may itself hold relations, digits and underscores, and the point of
the number is written as an underscore; the name can be read back all the same.  Behind the letters of the
relation there are digits and underscores only, so reading from the end the first letter tells where the
number starts, and the relation is the two letters in front of it.

## Contents
- `LiteralComparison`, `LiteralComparison.ofSides?`, `LiteralComparison.encoded`: comparisons with a number
  and their names.
- `splitName?`, `LiteralComparison.decode?`: reading a name from its end.
- `LiteralComparison.decode?_encoded`, `LiteralComparison.encoded_injective`: the comparison is read back.
- `SpellsComparison`: the form that the names of comparisons have.
-/

namespace HashIf

open Token

namespace Condition

/-! ## Comparisons with a number -/

/-- A comparison of a variable, on the left, with a number. -/
structure LiteralComparison where
  variableName : String
  op : Operator
  number : Number
  deriving DecidableEq, Repr

namespace LiteralComparison

/-- The comparison of two sides, one of which is a variable and the other one a number; it is turned round
    if the number stands on the left. -/
def ofSides? (op : Operator) : Expr → Expr → Option LiteralComparison
  | .var x _, .num v _ => some ⟨x, op, v⟩
  | .num v _, .var x _ => some ⟨x, swapped op, v⟩
  | _, _ => none

/-- The name of the variable that stands for the comparison. -/
def encoded (c : LiteralComparison) : String := c.variableName ++ relation c.op ++ valueSuffix c.number

/-- The variable is an identifier, the operator a comparison, and the number has a numeral. -/
structure Proper (c : LiteralComparison) : Prop where
  identifier : isIdentifier c.variableName.toList = true
  comparison : c.op.isComparison = true
  readable : c.number.Readable

theorem isComparison_swapped {op : Operator} (h : op.isComparison = true) :
    (swapped op).isComparison = true := by
  cases op with
  | eq | ne | lt | le | gt | ge => rfl
  | _ => cases h

theorem swapped_swapped (op : Operator) : swapped (swapped op) = op := by
  cases op <;> rfl

/-- The sides of a comparison, the variable on the left or on the right. -/
theorem ofSides?_eq_some {op : Operator} {l r : Expr} {c : LiteralComparison}
    (h : ofSides? op l r = some c) :
    (∃ p q, l = .var c.variableName p ∧ r = .num c.number q ∧ c.op = op)
      ∨ ∃ p q, l = .num c.number p ∧ r = .var c.variableName q ∧ c.op = swapped op := by
  unfold ofSides? at h
  split at h
  · cases h
    exact .inl ⟨_, _, rfl, rfl, rfl⟩
  · cases h
    exact .inr ⟨_, _, rfl, rfl, rfl⟩
  · cases h

end LiteralComparison

/-! ## Numbers in names -/

/-- The characters of numbers in names. -/
def isSuffixChar (c : Char) : Bool := c.isDigit || c == '_'

theorem valueSuffix_toList (v : Number) :
    (valueSuffix v).toList = v.plain.toList.map fun c => if c == '.' then '_' else c := by
  rw [valueSuffix, String.toList_ofList]

theorem isSuffixChar_valueSuffix {v : Number} (h : v.Readable) :
    ∀ c ∈ (valueSuffix v).toList, isSuffixChar c = true := by
  intro c hc
  rw [valueSuffix_toList, List.mem_map] at hc
  obtain ⟨d, hd, rfl⟩ := hc
  rcases h.plain_chars.2 d hd with hdigit | rfl
  · have hne : ¬ (d == '.') = true := by
      rw [beq_iff_eq]
      rintro rfl
      cases hdigit
    rw [if_neg hne, isSuffixChar, hdigit, Bool.true_or]
  · rfl

/-- The underscore of a number in a name stands for its point. -/
def withPoint (suffix : List Char) : List Char := suffix.map fun c => if c == '_' then '.' else c

theorem withPoint_valueSuffix {v : Number} (h : v.Readable) :
    withPoint (valueSuffix v).toList = v.plain.toList := by
  have hback : ∀ c ∈ v.plain.toList,
      (if (if c == '.' then '_' else c) == '_' then '.' else if c == '.' then '_' else c) = c := by
    intro c hc
    rcases h.plain_chars.2 c hc with hdigit | rfl
    · have hpoint : (c == '.') = false := by
        rw [beq_eq_false_iff_ne]
        rintro rfl
        cases hdigit
      have hscore : (c == '_') = false := by
        rw [beq_eq_false_iff_ne]
        rintro rfl
        cases hdigit
      simp [hpoint, hscore]
    · rfl
  rw [withPoint, valueSuffix_toList, List.map_map]
  exact (List.map_congr_left hback).trans (List.map_id' _)

/-- A row of digits. -/
def IsDigits (cs : List Char) : Prop := cs ≠ [] ∧ ∀ c ∈ cs, c.isDigit = true

/-- Digits have no point that would be replaced. -/
theorem IsDigits.map_point {ds : List Char} (h : ∀ c ∈ ds, c.isDigit = true) :
    (ds.map fun c => if c == '.' then '_' else c) = ds := by
  have hsame : ∀ c ∈ ds, (if c == '.' then '_' else c) = c := by
    intro c hc
    have hne : ¬ (c == '.') = true := by
      rw [beq_iff_eq]
      rintro rfl
      cases h _ hc
    exact if_neg hne
  exact (List.map_congr_left hsame).trans (List.map_id' _)

/-- **A number in a name** is a row of digits, or two of them with an underscore between them. -/
theorem valueSuffix_form {v : Number} (h : v.Readable) :
    IsDigits (valueSuffix v).toList
      ∨ ∃ ds ds', IsDigits ds ∧ IsDigits ds' ∧ (valueSuffix v).toList = ds ++ '_' :: ds' := by
  rw [valueSuffix_toList]
  rcases h.plain_cases with
    ⟨n, -, hne, hdigits⟩ | ⟨x, whole, fraction, -, -, heq, hwhole, hfraction, hw, hf⟩
  · left
    rw [IsDigits.map_point hdigits]
    exact ⟨hne, hdigits⟩
  · right
    refine ⟨whole, fraction, ⟨hwhole, hw⟩, ⟨hfraction, hf⟩, ?_⟩
    rw [heq, List.map_append, List.map_cons, IsDigits.map_point hw, IsDigits.map_point hf]
    rfl

/-! ## Reading a name from its end -/

/-- The comparison that two letters stand for. -/
def relationOperator? : Char → Char → Option Operator
  | 'e', 'q' => some .eq
  | 'n', 'e' => some .ne
  | 'l', 't' => some .lt
  | 'l', 'e' => some .le
  | 'g', 't' => some .gt
  | 'g', 'e' => some .ge
  | _, _ => none

/-- The letters of a relation stand for it, and are no part of a number. -/
theorem relation_letters {op : Operator} (h : op.isComparison = true) :
    ∃ a b, (relation op).toList = ['_', a, b, '_'] ∧ relationOperator? a b = some op
      ∧ isSuffixChar b = false := by
  cases op with
  | eq => exact ⟨'e', 'q', by decide, rfl, by decide⟩
  | ne => exact ⟨'n', 'e', by decide, rfl, by decide⟩
  | lt => exact ⟨'l', 't', by decide, rfl, by decide⟩
  | le => exact ⟨'l', 'e', by decide, rfl, by decide⟩
  | gt => exact ⟨'g', 't', by decide, rfl, by decide⟩
  | ge => exact ⟨'g', 'e', by decide, rfl, by decide⟩
  | _ => cases h

theorem isComparison_of_relationOperator? {a b : Char} {op : Operator}
    (h : relationOperator? a b = some op) : op.isComparison = true := by
  unfold relationOperator? at h
  split at h
  case h_7 => cases h
  all_goals
    cases h
    rfl

/-- The variable, the relation and the number in a name. -/
def splitName? (cs : List Char) : Option (List Char × Operator × List Char) :=
  match (cs.reverse.takeWhile isSuffixChar).reverse, cs.reverse.dropWhile isSuffixChar with
  | '_' :: suffix, b :: a :: '_' :: front =>
    (relationOperator? a b).map fun op => (front.reverse, op, suffix)
  | _, _ => none

/-- **A name falls into its parts**, whatever the variable is. -/
theorem splitName?_append {op : Operator} (hop : op.isComparison = true) (front : List Char)
    {suffix : List Char} (hsuffix : ∀ c ∈ suffix, isSuffixChar c = true) :
    splitName? (front ++ (relation op).toList ++ suffix) = some (front, op, suffix) := by
  obtain ⟨a, b, hletters, hop', hb⟩ := relation_letters hop
  have hreverse : (front ++ (relation op).toList ++ suffix).reverse
      = (suffix.reverse ++ ['_']) ++ b :: a :: '_' :: front.reverse := by
    rw [hletters]
    simp
  have hscore : ∀ c ∈ suffix.reverse ++ ['_'], isSuffixChar c = true := by
    intro c hc
    rcases List.mem_append.mp hc with hc | hc
    · exact hsuffix c (List.mem_reverse.mp hc)
    · rw [List.mem_singleton.mp hc]
      rfl
  have hb' : ¬ isSuffixChar b = true := by
    rw [hb]
    exact Bool.false_ne_true
  -- Going backwards, the number and one underscore are passed before the first letter.
  have htake : (front ++ (relation op).toList ++ suffix).reverse.takeWhile isSuffixChar
      = suffix.reverse ++ ['_'] := by
    rw [hreverse, List.takeWhile_append_of_pos hscore, List.takeWhile_cons_of_neg hb', List.append_nil]
  have hdrop : (front ++ (relation op).toList ++ suffix).reverse.dropWhile isSuffixChar
      = b :: a :: '_' :: front.reverse := by
    rw [hreverse, List.dropWhile_append_of_pos hscore, List.dropWhile_cons_of_neg hb']
  unfold splitName?
  rw [htake, hdrop, List.reverse_append, List.reverse_reverse]
  show (relationOperator? a b).map _ = _
  rw [hop', Option.map_some, List.reverse_reverse]
  rfl

namespace LiteralComparison

/-- The comparison that a name stands for, if it is the name of one. -/
def decode? (name : String) : Option LiteralComparison :=
  match splitName? name.toList with
  | none => none
  | some (front, op, suffix) =>
    match Number.ofNumeral (withPoint suffix) with
    | .error _ => none
    | .ok v =>
      let c : LiteralComparison := ⟨String.ofList front, op, v⟩
      if isIdentifier front && c.encoded == name then some c else none

/-- **The name of a comparison is read back as the comparison.** -/
theorem decode?_encoded {c : LiteralComparison} (h : c.Proper) : decode? c.encoded = some c := by
  have hsplit : splitName? c.encoded.toList
      = some (c.variableName.toList, c.op, (valueSuffix c.number).toList) := by
    rw [encoded, String.toList_append, String.toList_append]
    exact splitName?_append h.comparison _ (isSuffixChar_valueSuffix h.readable)
  unfold decode?
  rw [hsplit]
  dsimp only
  rw [withPoint_valueSuffix h.readable, h.readable.ofNumeral_plain]
  dsimp only
  rw [String.ofList_toList, h.identifier, Bool.true_and, beq_self_eq_true, if_pos rfl]

/-- **Different comparisons have different names.** -/
theorem encoded_injective {c c' : LiteralComparison} (h : c.Proper) (h' : c'.Proper)
    (heq : c.encoded = c'.encoded) : c = c' := by
  have hdecode := decode?_encoded h
  rw [heq, decode?_encoded h'] at hdecode
  exact (Option.some.inj hdecode).symm

theorem splitName?_comparison {cs front suffix : List Char} {op : Operator}
    (h : splitName? cs = some (front, op, suffix)) : op.isComparison = true := by
  unfold splitName? at h
  split at h
  · obtain ⟨op', hop', heq⟩ := Option.map_eq_some_iff.mp h
    cases heq
    exact isComparison_of_relationOperator? hop'
  · cases h

/-- What is read back is a comparison with that name. -/
theorem proper_of_decode? {name : String} {c : LiteralComparison} (h : decode? name = some c) :
    c.Proper ∧ c.encoded = name := by
  unfold decode? at h
  split at h
  · cases h
  rename_i front op suffix hsplit
  split at h
  · cases h
  rename_i v hv
  dsimp only at h
  split at h
  · rename_i hcheck
    cases h
    obtain ⟨hidentifier, hname⟩ := Bool.and_eq_true_iff.mp hcheck
    refine ⟨⟨?_, splitName?_comparison hsplit, ⟨_, hv⟩⟩, beq_iff_eq.mp hname⟩
    rw [String.toList_ofList]
    exact hidentifier
  · cases h

end LiteralComparison

/-! ## The form of names -/

/-- The names of the relations. -/
def relationNames : List String := ["eq", "ne", "lt", "le", "gt", "ge"]

/-- The name has the form `V_R_digits` or `V_R_digits_digits`, where `V` is an identifier and `R` the name
    of a relation. -/
def SpellsComparison (name : String) : Prop :=
  ∃ v r ds, isIdentifier v.toList = true ∧ r ∈ relationNames ∧ IsDigits ds
    ∧ (name = v ++ "_" ++ r ++ "_" ++ String.ofList ds
      ∨ ∃ ds', IsDigits ds'
        ∧ name = v ++ "_" ++ r ++ "_" ++ String.ofList ds ++ "_" ++ String.ofList ds')

/-- A name of this form has an underscore. -/
theorem SpellsComparison.mem {name : String} (h : SpellsComparison name) : '_' ∈ name.toList := by
  obtain ⟨v, r, ds, -, -, -, rfl | ⟨ds', -, rfl⟩⟩ := h
  · simp
  · simp

theorem relation_eq {op : Operator} (h : op.isComparison = true) :
    ∃ r ∈ relationNames, relation op = "_" ++ r ++ "_" := by
  cases op with
  | eq => exact ⟨"eq", by decide, rfl⟩
  | ne => exact ⟨"ne", by decide, rfl⟩
  | lt => exact ⟨"lt", by decide, rfl⟩
  | le => exact ⟨"le", by decide, rfl⟩
  | gt => exact ⟨"gt", by decide, rfl⟩
  | ge => exact ⟨"ge", by decide, rfl⟩
  | _ => cases h

/-- **The names of comparisons have this form.** -/
theorem LiteralComparison.Proper.spellsComparison {c : LiteralComparison} (h : c.Proper) :
    SpellsComparison c.encoded := by
  obtain ⟨r, hr, hrelation⟩ := relation_eq h.comparison
  have hencoded : c.encoded = c.variableName ++ "_" ++ r ++ "_" ++ valueSuffix c.number := by
    simp only [LiteralComparison.encoded, hrelation, String.append_assoc]
  rcases valueSuffix_form h.readable with hdigits | ⟨ds, ds', hds, hds', hsuffix⟩
  · refine ⟨c.variableName, r, _, h.identifier, hr, hdigits, .inl ?_⟩
    rw [hencoded, String.ofList_toList]
  · refine ⟨c.variableName, r, ds, h.identifier, hr, hds, .inr ⟨ds', hds', ?_⟩⟩
    have hvalue : valueSuffix c.number = String.ofList ds ++ ("_" ++ String.ofList ds') := by
      rw [← String.toList_inj, hsuffix]
      simp
    rw [hencoded, hvalue]
    simp only [String.append_assoc]

end Condition

end HashIf
