import HashIf.Proofs.Phrases

/-!
# `HashIf.Proofs.PlainNumbers`: how numbers are written and read again

A number is written without exponent: an integer as a row of digits, any other number as two rows of digits
around a point.  Neither row is empty, so what is written is itself a numeral, and it is one word for the
lexer.  Reading it gives back the number and its kind, whichever numeral the number came from: an integer of
any length that can be converted, an integer that was written as a double, or a double between two integers.

## Contents
- `PlainText`: digits with at most one point among them, neither first nor last.
- `plainText_digits`, `plainText_point`: rows of digits are such texts.
- `Decimal.positional_last`: no point at the end.
- `Number.Readable.plain_cases`: what is written for the two kinds of numbers.
- `lex_plain`: the text of a number is one token.
- `plain_faithful`: numbers survive being written.
-/

namespace HashIf

/-! ## Digits around a point -/

/-- Digits, and at most one point among them, which is neither first nor last. -/
structure PlainText (cs : List Char) : Prop where
  ne_nil : cs ≠ []
  chars : ∀ c ∈ cs, c.isDigit = true ∨ c = '.'
  one_point : cs.count '.' ≤ 1
  first : cs.head? ≠ some '.'
  last : cs.getLast? ≠ some '.'

theorem point_not_mem {ds : List Char} (h : ∀ c ∈ ds, c.isDigit = true) : '.' ∉ ds :=
  fun hmem => absurd (h _ hmem) (by decide)

/-- A row of digits. -/
theorem plainText_digits {ds : List Char} (hne : ds ≠ []) (hds : ∀ c ∈ ds, c.isDigit = true) :
    PlainText ds where
  ne_nil := hne
  chars c hc := .inl (hds c hc)
  one_point := by
    rw [List.count_eq_zero.mpr (point_not_mem hds)]
    exact Nat.zero_le 1
  first h := point_not_mem hds (List.mem_of_head? h)
  last h := point_not_mem hds (List.mem_of_getLast? h)

/-- Two rows of digits around a point. -/
theorem plainText_point {whole fraction : List Char} (hwhole : whole ≠ []) (hfraction : fraction ≠ [])
    (hw : ∀ c ∈ whole, c.isDigit = true) (hf : ∀ c ∈ fraction, c.isDigit = true) :
    PlainText (whole ++ '.' :: fraction) where
  ne_nil := List.append_ne_nil_of_left_ne_nil hwhole _
  chars := by
    rw [List.forall_mem_append, List.forall_mem_cons]
    exact ⟨fun c hc => .inl (hw c hc), .inr rfl, fun c hc => .inl (hf c hc)⟩
  one_point := by
    rw [List.count_append, List.count_cons_self, List.count_eq_zero.mpr (point_not_mem hw),
      List.count_eq_zero.mpr (point_not_mem hf)]
  first := by
    rw [List.head?_append_of_ne_nil _ hwhole]
    exact fun h => point_not_mem hw (List.mem_of_head? h)
  last := by
    rw [List.getLast?_append_of_ne_nil _ (List.cons_ne_nil _ _), List.getLast?_cons_of_ne_nil hfraction]
    exact fun h => point_not_mem hf (List.mem_of_getLast? h)

/-- Digits that are set out around a point end with a digit. -/
theorem Decimal.positional_last (d : Decimal) : ∃ c ∈ d.positional.getLast?, c.isDigit = true := by
  have hlast : ∀ (front : List Char) {ds : List Char}, ds ≠ [] → (∀ c ∈ ds, c.isDigit = true) →
      ∃ c ∈ (front ++ ds).getLast?, c.isDigit = true := by
    intro front ds hne hds
    rw [List.getLast?_append_of_ne_nil _ hne]
    exact ⟨_, List.getLast?_eq_some_getLast hne, hds _ (List.getLast_mem hne)⟩
  have hdigits : ∀ c ∈ Nat.toDigits 10 d.digits, c.isDigit = true := fun c hc => isDigit_toDigits hc
  unfold positional
  dsimp only
  split
  · exact hlast ('0' :: '.' :: zeros (-d.point).toNat) Nat.toDigits_ne_nil hdigits
  split
  · exact ⟨'0', by simp, rfl⟩
  · rename_i hmixed
    rw [List.append_cons]
    refine hlast _ (fun hnil => ?_) fun c hc => hdigits c (List.mem_of_mem_drop hc)
    exact hmixed (List.drop_eq_nil_iff.mp hnil)

namespace Number

/-- **What is written for a number**: a row of digits for an integer, and two rows around a point for a
    double that is none. -/
theorem Readable.plain_cases {v : Number} (h : v.Readable) :
    (∃ n : Nat, v = .int n ∧ v.plain.toList ≠ [] ∧ ∀ c ∈ v.plain.toList, c.isDigit = true)
      ∨ ∃ x whole fraction, v = .float x ∧ x.isIntegral = false
        ∧ v.plain.toList = whole ++ '.' :: fraction ∧ whole ≠ [] ∧ fraction ≠ []
        ∧ (∀ c ∈ whole, c.isDigit = true) ∧ ∀ c ∈ fraction, c.isDigit = true := by
  rcases h.cases with ⟨n, hn, rfl⟩ | ⟨m, e, hc, hm, hint, rfl⟩
  · rw [plain_int]
    exact .inl ⟨n, rfl, Nat.toDigits_ne_nil, fun c hc => isDigit_toDigits hc⟩
  · obtain ⟨whole, fraction, heq, hne, hdigits, -⟩ := (Binary64.shortest m e).setOut_positional
    obtain ⟨hwhole, hfraction⟩ := List.forall_mem_append.mp hdigits
    have hbehind : fraction ≠ [] := by
      rintro rfl
      -- Otherwise the point would stand at the end.
      obtain ⟨c, hlast, hdigit⟩ := (Binary64.shortest m e).positional_last
      rw [heq, List.getLast?_append_of_ne_nil _ (List.cons_ne_nil _ _)] at hlast
      cases hlast
      cases hdigit
    rw [plain_float rfl hint]
    exact .inr ⟨_, whole, fraction, rfl, hint, heq, hne, hbehind, hwhole, hfraction⟩

theorem Readable.plainText {v : Number} (h : v.Readable) : PlainText v.plain.toList := by
  rcases h.plain_cases with ⟨n, -, hne, hdigits⟩ | ⟨x, whole, fraction, -, -, heq, hw, hf, hdw, hdf⟩
  · exact plainText_digits hne hdigits
  · rw [heq]
    exact plainText_point hw hf hdw hdf

/-- **The text of a number tells its kind**: there is a point in it exactly if the number is no integer. -/
theorem Readable.point_mem_iff {v : Number} (h : v.Readable) :
    '.' ∈ v.plain.toList ↔ ∃ x, v = .float x ∧ x.isIntegral = false := by
  rcases h.plain_cases with ⟨n, rfl, hne, hdigits⟩ | ⟨x, whole, fraction, hv, hint, heq, -⟩
  · constructor
    · exact fun hmem => absurd hmem (point_not_mem hdigits)
    · rintro ⟨x, hx, -⟩
      cases hx
  · rw [heq]
    exact ⟨fun _ => ⟨x, hv, hint⟩, fun _ => List.mem_append_right _ List.mem_cons_self⟩

end Number

namespace Token

/-- **The text of a number is one token**, which holds the number. -/
theorem lex_plain {v : Number} (h : v.Readable) : lex v.plain = .ok [.number 0 v.plain.length v] := by
  rw [lex_word (plain_ne_nil h) (isWordChar_plain h), ofWord_plain h, String.length_toList]

end Token

namespace Number

/-- **Numbers survive being written**, whichever numeral they come from.  The text of a number is digits with
    at most one point, neither first nor last and there exactly if the number is no integer; it is a numeral
    for the number and a word that is read as the number; and no other number that has a numeral is written
    in the same way. -/
theorem plain_faithful {numeral : String} {v : Number} (h : ofNumeral numeral.toList = .ok v) :
    PlainText v.plain.toList
      ∧ ((∃ n : Nat, v = .int n) ∨ ∃ x, v = .float x ∧ x.isIntegral = false)
      ∧ ('.' ∈ v.plain.toList ↔ ∃ x, v = .float x ∧ x.isIntegral = false)
      ∧ ofNumeral v.plain.toList = .ok v
      ∧ Token.lex v.plain = .ok [.number 0 v.plain.length v]
      ∧ ∀ (numeral' : String) (w : Number), ofNumeral numeral'.toList = .ok w → w.plain = v.plain → w = v := by
  have hv : v.Readable := ⟨_, h⟩
  refine ⟨hv.plainText, ?_, hv.point_mem_iff, hv.ofNumeral_plain, Token.lex_plain hv, ?_⟩
  · rcases hv.plain_cases with ⟨n, hn, -⟩ | ⟨x, -, -, hx, hint, -⟩
    · exact .inl ⟨n, hn⟩
    · exact .inr ⟨x, hx, hint⟩
  · intro numeral' w hw heq
    have hread := Readable.ofNumeral_plain ⟨_, hw⟩
    rw [heq, hv.ofNumeral_plain] at hread
    exact (Except.ok.inj hread).symm

/-- A number that is shown with an exponent elsewhere: all its zeros are written out. -/
theorem plain_faithful_smallFraction :
    ofNumeral "25e-9".toList = .ok (.float (.finite false 7555786372591432 (-78)))
      ∧ (Number.float (.finite false 7555786372591432 (-78))).plain = "0.000000025"
      ∧ Token.lex "0.000000025" = .ok [.number 0 11 (.float (.finite false 7555786372591432 (-78)))] := by
  have h : ofNumeral "25e-9".toList = .ok (.float (.finite false 7555786372591432 (-78))) := by
    decide +kernel
  have hplain : (Number.float (.finite false 7555786372591432 (-78))).plain = "0.000000025" := by
    decide +kernel
  obtain ⟨-, -, -, -, hlex, -⟩ := plain_faithful h
  rw [hplain] at hlex
  exact ⟨h, hplain, hlex⟩

end Number

end HashIf
