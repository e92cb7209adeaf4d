import HashIf.Proofs.Overflow
import HashIf.Proofs.TextPlaces

/-!
# `HashIf.Proofs.NumeralLanguage`: the numerals of a condition

A word that starts with a digit is a number exactly if it has the form

  `[0-9]+([.][0-9]*)?([eE][0-9]+)?[uU]?[lL]*`

and what stands in front of the suffix can be converted: a row of digits that is not too long, or a decimal
that is finite as a double.  The lexer comes to this language by a detour.  It writes the word in lower case,
takes `l` and one `u` from its end, and converts the rest by rules that also know signs and numbers without a
digit in front.  A word has neither, and nothing that can be converted ends with a letter of the suffix.

## Contents
- `Numeral`, `Numeral.Denotes`: the numerals and their values, without a reader.
- `Numeral.read?_chars`, `Numeral.exists_of_read?`: the reader of decimals accepts exactly the numerals.
- `Numeral.ofNumeral_chars_iff`, `Numeral.exists_denotes_iff`: which numerals can be converted, and to what.
- `Numeral.exists_of_sameLetters`: small and capital letters make no difference.
- `Numeral.Suffixed`, `numeralWord_iff_suffixed`, `integerWord_iff_suffixed`: words with a suffix.
- `lex_of_digit`: a text that is one word with a digit in front.
- `lex_numeral_language`: what a word with a digit in front is read as.
-/

namespace HashIf

/-! ## Numerals -/

/-- A numeral: digits, then a point with any number of digits, then an `e` with digits.  The last two may be
    missing. -/
structure Numeral where
  whole : List Char
  /-- The digits behind the point, if there is one. -/
  fraction : Option (List Char)
  /-- The letter and the digits behind it, if there are any. -/
  exponent : Option (Char × List Char)
  whole_ne_nil : whole ≠ []
  whole_digits : ∀ c ∈ whole, c.isDigit = true
  fraction_digits : ∀ ds ∈ fraction, ∀ c ∈ ds, c.isDigit = true
  exponent_letter : ∀ x ∈ exponent, x.1 = 'e' ∨ x.1 = 'E'
  exponent_ne_nil : ∀ x ∈ exponent, x.2 ≠ []
  exponent_digits : ∀ x ∈ exponent, ∀ c ∈ x.2, c.isDigit = true

namespace Numeral

/-- The point and the digits behind it. -/
def fractionChars : Option (List Char) → List Char
  | none => []
  | some ds => '.' :: ds

/-- The letter of the exponent and the digits behind it. -/
def exponentChars : Option (Char × List Char) → List Char
  | none => []
  | some (c, ds) => c :: ds

/-- The numeral as it is written. -/
def chars (n : Numeral) : List Char :=
  n.whole ++ fractionChars n.fraction ++ exponentChars n.exponent

/-- Whether the numeral is a row of digits. -/
def isInteger (n : Numeral) : Bool := n.fraction.isNone && n.exponent.isNone

/-- The number behind the letter of the exponent. -/
def exponentValue : Option (Char × List Char) → Nat
  | none => 0
  | some (_, ds) => ofDigits ds

/-- The decimal that the numeral is. -/
def decimal (n : Numeral) : Decimal :=
  ⟨ofDigits (n.whole ++ n.fraction.getD []),
    (exponentValue n.exponent : Int) - ((n.fraction.getD []).length : Int)⟩

/-- The number that a numeral denotes: the integer that a row of digits is, unless it is too long, and
    otherwise the nearest double, unless that is infinite, as an integer if it is one. -/
inductive Denotes (n : Numeral) : Number → Prop where
  | integer (h : n.isInteger = true) (hshort : n.whole.length ≤ Number.digitLimit) :
      Denotes n (.int (ofDigits n.whole))
  | double {s : Bool} {m : Nat} {e : Int} (h : n.isInteger = false)
      (hfinite : Binary64.ofDecimal false n.decimal = .finite s m e) :
      Denotes n (.ofBinary64 (.finite s m e))

/-! ## Reading a numeral -/

theorem takeWhile_dropWhile_digits {ds rest : List Char} (hds : ∀ c ∈ ds, c.isDigit = true)
    (hrest : ∀ c ∈ rest.head?, c.isDigit = false) :
    (ds ++ rest).takeWhile Char.isDigit = ds ∧ (ds ++ rest).dropWhile Char.isDigit = rest := by
  rw [List.takeWhile_append_of_pos hds, List.dropWhile_append_of_pos hds]
  cases rest with
  | nil => exact ⟨List.append_nil ds, rfl⟩
  | cons c cs =>
      have hc := Bool.eq_false_iff.mp (hrest c rfl)
      rw [List.takeWhile_cons_of_neg hc, List.dropWhile_cons_of_neg hc]
      exact ⟨List.append_nil ds, rfl⟩

variable (n : Numeral)

theorem exponentChars_head : ∀ c ∈ (exponentChars n.exponent).head?, c.isDigit = false ∧ c ≠ '.' := by
  intro c hc
  match hexp : n.exponent with
  | none =>
      rw [hexp] at hc
      cases hc
  | some x =>
      rw [hexp] at hc
      cases hc
      rcases n.exponent_letter x hexp with h | h <;> rw [h] <;> decide

theorem readExponent?_exponentChars :
    Decimal.readExponent? (exponentChars n.exponent) = some (exponentValue n.exponent : Int) := by
  match hexp : n.exponent with
  | none => rfl
  | some (c, ds) =>
      have hletter : (c != 'e' && c != 'E') = false := by
        rcases n.exponent_letter _ hexp with h | h <;> subst h <;> rfl
      have hdigits : (ds.isEmpty || !ds.all Char.isDigit) = false := by
        rw [List.isEmpty_eq_false_iff.mpr (n.exponent_ne_nil _ hexp),
          List.all_eq_true.mpr (n.exponent_digits _ hexp)]
        rfl
      unfold exponentChars Decimal.readExponent?
      simp only [hletter, Bool.false_eq_true, if_false]
      -- A sign is no digit.
      split
      · exact absurd (n.exponent_digits _ hexp '-' List.mem_cons_self) (by decide)
      · exact absurd (n.exponent_digits _ hexp '+' List.mem_cons_self) (by decide)
      · simp only [hdigits, Bool.false_eq_true, if_false, exponentValue]

/-- **A numeral is read as the decimal that it is.** -/
theorem read?_chars : Decimal.read? n.chars = some n.decimal := by
  have hne : n.whole.isEmpty = false := List.isEmpty_eq_false_iff.mpr n.whole_ne_nil
  have hexp := n.exponentChars_head
  have hrest : ∀ c ∈ (exponentChars n.exponent).head?, c.isDigit = false := fun c hc => (hexp c hc).1
  have hread := n.readExponent?_exponentChars
  unfold Decimal.read? chars decimal
  match hfrac : n.fraction with
  | none =>
      obtain ⟨htake, hdrop⟩ := takeWhile_dropWhile_digits n.whole_digits hrest
      simp only [fractionChars, List.append_nil, htake, hdrop, Option.getD_none]
      split
      · rename_i r hr
        exact absurd rfl (hexp '.' (by rw [hr]; rfl)).2
      · simp [hne, hread]
  | some ds =>
      obtain ⟨htake, hdrop⟩ := takeWhile_dropWhile_digits (n.fraction_digits ds hfrac) hrest
      have hpoint : ∀ c ∈ ('.' :: (ds ++ exponentChars n.exponent)).head?, c.isDigit = false := by
        intro c hc
        cases hc
        rfl
      obtain ⟨htake', hdrop'⟩ := takeWhile_dropWhile_digits n.whole_digits hpoint
      simp only [fractionChars, List.append_assoc, List.cons_append, htake', hdrop', htake, hdrop, hne, hread,
        Bool.false_and, Bool.false_eq_true, if_false, Option.map_some, Option.getD_some]

/-- A row of digits is a numeral. -/
theorem exists_of_row {ds : List Char} (hne : ds ≠ []) (hds : ∀ c ∈ ds, c.isDigit = true) :
    ∃ n : Numeral, n.isInteger = true ∧ n.chars = ds ∧ n.whole = ds :=
  ⟨⟨ds, none, none, hne, hds, by simp, by simp, by simp, by simp⟩, rfl,
    (List.append_nil _).trans (List.append_nil _), rfl⟩

/-- Digits, a point with digits or none, and what is read as an exponent without a sign make a numeral. -/
theorem exists_of_parts {whole rest : List Char} {fraction : Option (List Char)} {e : Int}
    (hne : whole ≠ []) (hwhole : ∀ c ∈ whole, c.isDigit = true)
    (hfraction : ∀ ds ∈ fraction, ∀ c ∈ ds, c.isDigit = true)
    (hrest : Decimal.readExponent? rest = some e) (hplus : '+' ∉ rest) (hminus : '-' ∉ rest) :
    ∃ n : Numeral, n.chars = whole ++ fractionChars fraction ++ rest := by
  match rest with
  | [] => exact ⟨⟨whole, fraction, none, hne, hwhole, hfraction, by simp, by simp, by simp⟩, rfl⟩
  | c :: ds =>
      unfold Decimal.readExponent? at hrest
      dsimp only at hrest
      split at hrest
      · cases hrest
      rename_i hletter
      split at hrest
      · exact absurd (List.mem_cons_of_mem _ List.mem_cons_self) hminus
      · exact absurd (List.mem_cons_of_mem _ List.mem_cons_self) hplus
      · split at hrest
        · cases hrest
        rename_i hdigits
        simp only [Bool.or_eq_true, Bool.not_eq_true', not_or, Bool.not_eq_false, List.isEmpty_iff,
          List.all_eq_true] at hdigits
        simp only [Bool.and_eq_true, bne_iff_ne, ne_eq, not_and_or, not_not] at hletter
        refine ⟨⟨whole, fraction, some (c, ds), hne, hwhole, hfraction, ?_, ?_, ?_⟩, rfl⟩
        · rintro x ⟨⟩
          exact hletter
        · rintro x ⟨⟩
          exact hdigits.1
        · rintro x ⟨⟩
          exact hdigits.2

/-- **Whatever starts with a digit, has no sign and can be read is a numeral.** -/
theorem exists_of_read? {cs : List Char} {d : Decimal} (h : Decimal.read? cs = some d)
    (hdigit : Token.StartsWithDigit cs) (hplus : '+' ∉ cs) (hminus : '-' ∉ cs) :
    ∃ n : Numeral, n.chars = cs := by
  have hcs := List.takeWhile_append_dropWhile (p := Char.isDigit) (l := cs)
  have hne : cs.takeWhile Char.isDigit ≠ [] := by
    obtain ⟨c, hc, hdigit⟩ := hdigit
    obtain ⟨rest, rfl⟩ := List.head?_eq_some_iff.mp hc
    rw [List.takeWhile_cons_of_pos hdigit]
    exact List.cons_ne_nil _ _
  have hdigits : ∀ {l : List Char}, ∀ c ∈ l.takeWhile Char.isDigit, c.isDigit = true :=
    fun c hc => List.mem_takeWhile_imp hc
  unfold Decimal.read? at h
  dsimp only at h
  split at h
  · rename_i r hr
    have hr' := List.takeWhile_append_dropWhile (p := Char.isDigit) (l := r)
    split at h
    · cases h
    obtain ⟨e, he, -⟩ := Option.map_eq_some_iff.mp h
    have hsplit : cs.takeWhile Char.isDigit ++ fractionChars (some (r.takeWhile Char.isDigit))
        ++ r.dropWhile Char.isDigit = cs := by
      rw [fractionChars, List.append_assoc, List.cons_append, hr', ← hr, hcs]
    have hfraction : ∀ ds ∈ some (r.takeWhile Char.isDigit), ∀ c ∈ ds, c.isDigit = true := by
      rintro ds ⟨⟩
      exact hdigits
    rw [← hsplit] at hplus hminus ⊢
    exact exists_of_parts hne hdigits hfraction he (fun hmem => hplus (List.mem_append_right _ hmem))
      fun hmem => hminus (List.mem_append_right _ hmem)
  · split at h
    · cases h
    obtain ⟨e, he, -⟩ := Option.map_eq_some_iff.mp h
    have hsplit : cs.takeWhile Char.isDigit ++ fractionChars none ++ cs.dropWhile Char.isDigit = cs := by
      rw [fractionChars, List.append_nil, hcs]
    rw [← hsplit] at hplus hminus ⊢
    exact exists_of_parts hne hdigits (by simp) he (fun hmem => hplus (List.mem_append_right _ hmem))
      fun hmem => hminus (List.mem_append_right _ hmem)

/-! ## What a numeral denotes -/

theorem chars_of_isInteger {n : Numeral} (h : n.isInteger = true) : n.chars = n.whole := by
  simp only [isInteger, Bool.and_eq_true, Option.isNone_iff_eq_none] at h
  rw [chars, h.1, h.2, fractionChars, exponentChars, List.append_nil, List.append_nil]

/-- A numeral is nothing but digits exactly if it has neither point nor exponent. -/
theorem all_isDigit_chars : n.chars.all Char.isDigit = n.isInteger := by
  have hfraction : (fractionChars n.fraction).all Char.isDigit = n.fraction.isNone := by
    cases n.fraction <;> rfl
  have hexponent : (exponentChars n.exponent).all Char.isDigit = n.exponent.isNone := by
    cases hexp : n.exponent with
    | none => rfl
    | some x =>
        rcases n.exponent_letter x hexp with h | h <;> rw [exponentChars, h] <;> rfl
  rw [chars, List.all_append, List.all_append, hfraction, hexponent,
    List.all_eq_true.mpr n.whole_digits, Bool.true_and]
  rfl

/-- **A numeral is converted to the number that it denotes.** -/
theorem ofNumeral_chars_iff {v : Number} : Number.ofNumeral n.chars = .ok v ↔ n.Denotes v := by
  have hempty : n.chars.isEmpty = false := by
    rw [List.isEmpty_eq_false_iff]
    exact List.append_ne_nil_of_left_ne_nil (List.append_ne_nil_of_left_ne_nil n.whole_ne_nil _) _
  unfold Number.ofNumeral
  rw [hempty, n.all_isDigit_chars, n.read?_chars, Bool.not_false, Bool.true_and]
  constructor
  · intro h
    split at h
    · rename_i hint
      rw [chars_of_isInteger hint] at h
      split at h
      · cases h
      rename_i hlen
      cases h
      exact .integer hint (Nat.le_of_not_lt hlen)
    · rename_i hint
      dsimp only at h
      split at h
      · rename_i hfinite
        cases h
        exact .double (Bool.eq_false_iff.mpr hint) hfinite
      · cases h
  · intro h
    cases h with
    | integer hint hshort =>
        rw [if_pos hint, chars_of_isInteger hint, if_neg (Nat.not_lt.mpr hshort)]
    | double hint hfinite =>
        rw [hint, if_neg Bool.false_ne_true]
        simp only [hfinite]

/-- **Which numerals denote a number**: rows of digits that are not too long, and decimals that are finite as
    doubles. -/
theorem exists_denotes_iff :
    (∃ v, n.Denotes v) ↔ if n.isInteger then n.whole.length ≤ Number.digitLimit
      else n.decimal.value < Binary64.overflowBound := by
  cases hint : n.isInteger with
  | true =>
      rw [if_pos rfl]
      constructor
      · rintro ⟨v, hv⟩
        cases hv with
        | integer _ hshort => exact hshort
        | double h =>
            rw [hint] at h
            cases h
      · exact fun hshort => ⟨_, .integer hint hshort⟩
  | false =>
      rw [if_neg Bool.false_ne_true, ← Binary64.ofDecimal_finite_iff n.decimal false]
      constructor
      · rintro ⟨v, hv⟩
        cases hv with
        | integer h =>
            rw [hint] at h
            cases h
        | double _ hfinite => exact ⟨_, _, _, hfinite⟩
      · rintro ⟨s, m, e, hfinite⟩
        exact ⟨_, .double hint hfinite⟩

/-- Whatever starts with a digit, has no sign and denotes a number is a numeral for it. -/
theorem exists_of_ofNumeral {cs : List Char} {v : Number} (h : Number.ofNumeral cs = .ok v)
    (hdigit : Token.StartsWithDigit cs) (hplus : '+' ∉ cs) (hminus : '-' ∉ cs) :
    ∃ n : Numeral, n.chars = cs ∧ n.Denotes v := by
  suffices hn : ∃ n : Numeral, n.chars = cs by
    obtain ⟨n, rfl⟩ := hn
    exact ⟨n, rfl, n.ofNumeral_chars_iff.mp h⟩
  unfold Number.ofNumeral at h
  split at h
  · rename_i hall
    rw [Bool.and_eq_true, Bool.not_eq_true', List.isEmpty_eq_false_iff, List.all_eq_true] at hall
    obtain ⟨n, -, hn, -⟩ := exists_of_row hall.1 hall.2
    exact ⟨n, hn⟩
  · split at h
    · cases h
    · rename_i hread
      exact exists_of_read? hread hdigit hplus hminus

/-! ## Small and capital letters -/

/-- Digits and points are no letters, and nothing else becomes one of them in lower case. -/
theorem eq_of_map_toLower {xs ys : List Char} (h : xs.map Char.toLower = ys.map Char.toLower)
    (hys : ∀ c ∈ ys, c.toNat < 65) : xs = ys := by
  induction ys generalizing xs with
  | nil => exact List.map_eq_nil_iff.mp h
  | cons d ds ih =>
      obtain ⟨hd, hds⟩ := List.forall_mem_cons.mp hys
      obtain ⟨c, cs, rfl, hc, hcs⟩ := List.map_eq_cons_iff.mp h
      have hlow : d.toLower = d := by
        rcases Token.toLower_cases d with heq | ⟨hle, -, -⟩
        · exact heq
        · omega
      have heq : c = d := by
        rw [hlow] at hc
        rcases Token.toLower_cases c with heq | ⟨hle, -, hnat⟩
        · exact heq.symm.trans hc
        · rw [hc] at hnat
          omega
      rw [heq, ih hcs hds]

/-- The letter of the exponent has no part in the value. -/
theorem Denotes.congr {n n' : Numeral} {v : Number} (h : n.Denotes v) (hwhole : n.whole = n'.whole)
    (hfraction : n.fraction = n'.fraction)
    (hexponent : n.exponent.map Prod.snd = n'.exponent.map Prod.snd) : n'.Denotes v := by
  have hint : n.isInteger = n'.isInteger := by
    rw [isInteger, isInteger, hfraction, ← Option.isNone_map (f := Prod.snd), hexponent, Option.isNone_map]
  have hvalue : ∀ x : Option (Char × List Char), exponentValue x = ((x.map Prod.snd).map ofDigits).getD 0 := by
    intro x
    cases x <;> rfl
  have hdecimal : n.decimal = n'.decimal := by
    rw [decimal, decimal, hwhole, hfraction, hvalue, hexponent, ← hvalue]
  cases h with
  | integer h hshort =>
      rw [hwhole] at hshort ⊢
      exact .integer (hint ▸ h) hshort
  | double h hfinite => exact .double (hint ▸ h) (hdecimal ▸ hfinite)

theorem point_digits_lt {c : Char} (h : c.isDigit = true ∨ c = '.') : c.toNat < 65 := by
  rcases h with h | rfl
  · have := (Token.isDigit_iff.mp h).2
    omega
  · decide

/-- **A numeral in other letters is a numeral of the same value.** -/
theorem exists_of_sameLetters {cs : List Char} (h : cs.map Char.toLower = n.chars.map Char.toLower) :
    ∃ n' : Numeral, n'.chars = cs ∧ ∀ v, n.Denotes v → n'.Denotes v := by
  have hfront : ∀ c ∈ n.whole ++ fractionChars n.fraction, c.toNat < 65 := by
    rw [List.forall_mem_append]
    refine ⟨fun c hc => point_digits_lt (.inl (n.whole_digits c hc)), fun c hc => ?_⟩
    match hfrac : n.fraction with
    | none =>
        rw [hfrac] at hc
        cases hc
    | some ds =>
        rw [hfrac] at hc
        rcases List.mem_cons.mp hc with rfl | hc
        · exact point_digits_lt (.inr rfl)
        · exact point_digits_lt (.inl (n.fraction_digits ds hfrac c hc))
  rw [chars, List.map_append] at h
  obtain ⟨front, tail, rfl, hlow, htail⟩ := List.map_eq_append_iff.mp h
  obtain rfl := eq_of_map_toLower hlow hfront
  match hexp : n.exponent with
  | none =>
      rw [hexp] at htail
      obtain rfl := List.map_eq_nil_iff.mp htail
      exact ⟨n, by rw [chars, hexp, exponentChars], fun v hv => hv⟩
  | some (c, ds) =>
      rw [hexp] at htail
      obtain ⟨d, rest, rfl, hd, hrest⟩ := List.map_eq_cons_iff.mp htail
      have hdigits := n.exponent_digits _ hexp
      obtain rfl := eq_of_map_toLower hrest fun c hc => point_digits_lt (.inl (hdigits c hc))
      have hletter : d = 'e' ∨ d = 'E' := by
        refine Token.eq_of_toLower_eq (hd.trans ?_) rfl
        rcases n.exponent_letter _ hexp with h | h <;> subst h <;> rfl
      refine ⟨⟨n.whole, n.fraction, some (d, rest), n.whole_ne_nil, n.whole_digits, n.fraction_digits,
        ?_, ?_, ?_⟩, rfl, fun v hv => hv.congr rfl rfl (by rw [hexp]; rfl)⟩
      · rintro x ⟨⟩
        exact hletter
      · rintro x ⟨⟩
        exact n.exponent_ne_nil (c, rest) hexp
      · rintro x ⟨⟩
        exact hdigits

/-! ## Numerals with a suffix -/

/-- The word is the numeral with a suffix: at most one `u` and then any number of `l`, small or capital. -/
def Suffixed (word : List Char) : Prop :=
  ∃ us ls, word = n.chars ++ us ++ ls ∧ (us = [] ∨ us = ['u'] ∨ us = ['U']) ∧ ∀ c ∈ ls, c = 'l' ∨ c = 'L'

end Numeral

namespace Token

/-- No sign comes into a word, whatever the case of its letters. -/
theorem sign_not_mem_map_toLower {word : List Char} (h : ∀ c ∈ word, isWordChar c = true) :
    '+' ∉ word.map Char.toLower ∧ '-' ∉ word.map Char.toLower := by
  have hno : ∀ sign : Char, sign.toNat < 46 → sign ∉ word.map Char.toLower := by
    intro sign hsign hmem
    obtain ⟨c, hc, rfl⟩ := List.mem_map.mp hmem
    have hrange := (isWordChar_range (h c hc)).1
    rcases toLower_cases c with heq | ⟨hle, -, hnat⟩
    · rw [heq] at hsign
      omega
    · omega
  exact ⟨hno '+' (by decide), hno '-' (by decide)⟩

theorem map_toLower_map_toLower (cs : List Char) :
    (cs.map Char.toLower).map Char.toLower = cs.map Char.toLower := by
  rw [List.map_map]
  exact List.map_congr_left fun c _ => Char.toLower_toLower_eq_toLower c

/-- The front of a word that starts with a digit starts with it as well, in lower case too. -/
theorem StartsWithDigit.front {body rest : List Char} (h : StartsWithDigit (body ++ rest)) (hne : body ≠ []) :
    StartsWithDigit (body.map Char.toLower) := by
  obtain ⟨c, hc, hdigit⟩ := h
  rw [List.head?_append_of_ne_nil _ hne] at hc
  refine ⟨c, ?_, hdigit⟩
  rw [List.head?_map, Option.mem_def.mp hc, Option.map_some, toLower_of_le (isDigit_iff.mp hdigit).2]
  rfl

/-- **A word is read as a number exactly if it is a numeral for it with a suffix.** -/
theorem numeralWord_iff_suffixed {word : List Char} (hword : ∀ c ∈ word, isWordChar c = true)
    (hdigit : StartsWithDigit word) {v : Number} :
    NumeralWord word v ↔ ∃ n : Numeral, n.Suffixed word ∧ n.Denotes v := by
  constructor
  · rintro ⟨cs, us, ls, hlow, hus, hls, hcs⟩
    -- The pieces of the word in lower case are pieces of the word.
    obtain ⟨front, ls, rfl, hfront, rfl⟩ := List.map_eq_append_iff.mp hlow
    obtain ⟨body, us, rfl, rfl, rfl⟩ := List.map_eq_append_iff.mp hfront
    have hbody : ∀ c ∈ body, isWordChar c = true :=
      fun c hc => hword c (List.mem_append_left _ (List.mem_append_left _ hc))
    obtain ⟨hplus, hminus⟩ := sign_not_mem_map_toLower hbody
    have hne : body ≠ [] := by
      rintro rfl
      cases hcs
    rw [List.append_assoc] at hdigit
    obtain ⟨m, hm, hv⟩ := Numeral.exists_of_ofNumeral hcs (hdigit.front hne) hplus hminus
    have hsame : body.map Char.toLower = m.chars.map Char.toLower := by
      rw [hm, map_toLower_map_toLower]
    obtain ⟨n, rfl, hn⟩ := m.exists_of_sameLetters hsame
    refine ⟨n, ⟨us, ls, rfl, ?_, fun c hc => ?_⟩, hn v hv⟩
    · rcases hus with hnil | hu
      · exact .inl (List.map_eq_nil_iff.mp hnil)
      · obtain ⟨u, rfl, hlower⟩ := List.map_eq_singleton_iff.mp hu
        rcases @eq_of_toLower_eq u 'u' 'U' hlower rfl with rfl | rfl
        · exact .inr (.inl rfl)
        · exact .inr (.inr rfl)
    · exact eq_of_toLower_eq (hls _ (List.mem_map_of_mem hc)) rfl
  · rintro ⟨n, ⟨us, ls, rfl, hus, hls⟩, hv⟩
    obtain ⟨m, hm, hmv⟩ := n.exists_of_sameLetters (map_toLower_map_toLower n.chars)
    refine ⟨n.chars.map Char.toLower, us.map Char.toLower, ls.map Char.toLower, ?_, ?_, ?_, ?_⟩
    · rw [List.map_append, List.map_append]
    · rcases hus with rfl | rfl | rfl
      · exact .inl rfl
      · exact .inr rfl
      · exact .inr rfl
    · intro c hc
      obtain ⟨d, hd, rfl⟩ := List.mem_map.mp hc
      rcases hls d hd with rfl | rfl <;> rfl
    · rw [← hm]
      exact m.ofNumeral_chars_iff.mpr (hmv v hv)

/-- A word is a row of digits with a suffix exactly if it is such a numeral with a suffix. -/
theorem integerWord_iff_suffixed {ds word : List Char} (hne : ds ≠ []) :
    IntegerWord ds word ↔ ∃ n : Numeral, n.Suffixed word ∧ n.isInteger = true ∧ n.whole = ds := by
  constructor
  · rintro ⟨hds, us, ls, rfl, hus, hls⟩
    obtain ⟨n, hint, hchars, hwhole⟩ := Numeral.exists_of_row hne hds
    exact ⟨n, ⟨us, ls, by rw [hchars], hus, hls⟩, hint, hwhole⟩
  · rintro ⟨n, ⟨us, ls, rfl, hus, hls⟩, hint, rfl⟩
    exact ⟨n.whole_digits, us, ls, by rw [Numeral.chars_of_isInteger hint], hus, hls⟩

/-! ## Words with a digit in front -/

/-- **A word with a digit in front is converted without its suffix**, and is one token or none. -/
theorem lex_of_digit {text : String} (hword : ∀ c ∈ text.toList, isWordChar c = true)
    (hdigit : StartsWithDigit text.toList) :
    (∀ ts, lex text = .ok ts
        ↔ ∃ v, Number.ofNumeral (numeralPart text.toList) = .ok v ∧ ts = [.number 0 text.length v])
      ∧ (∀ k, lex text = .error (.numeralTooLong k)
        ↔ Number.ofNumeral (numeralPart text.toList) = .error (.tooManyDigits k))
      ∧ (lex text = .error (.rejected ⟨.badLiteral text, some text, [0]⟩)
        ↔ Number.ofNumeral (numeralPart text.toList) = .error .malformed) := by
  have hne : text.toList ≠ [] := by
    intro hnil
    obtain ⟨c, hc, -⟩ := hdigit
    rw [hnil] at hc
    cases hc
  rw [lex_word hne hword, ofWord_of_digit hdigit, String.length_toList]
  match Number.ofNumeral (numeralPart text.toList) with
  | .ok v => simp [eq_comm]
  | .error .malformed => simp [Rejection.ofLocated]
  | .error (.tooManyDigits k) => simp

/-- A row of digits is too long exactly if it is one with too many digits and a suffix. -/
theorem ofNumeral_eq_tooMany_iff_suffixed {word : List Char} {k : Nat} :
    Number.ofNumeral (numeralPart word) = .error (.tooManyDigits k)
      ↔ ∃ n : Numeral, n.Suffixed word ∧ n.isInteger = true ∧ k = n.whole.length ∧ Number.digitLimit < k := by
  rw [ofNumeral_eq_tooManyDigits_iff]
  constructor
  · rintro ⟨hds, hk, hlong⟩
    have hne : numeralPart word ≠ [] := by
      intro hnil
      rw [hnil] at hk
      subst hk
      exact absurd hlong (by decide)
    obtain ⟨n, hn, hint, hwhole⟩ := (integerWord_iff_suffixed hne).mp ((numeralPart_eq_iff hds).mp rfl)
    exact ⟨n, hn, hint, by rw [hk, hwhole], hlong⟩
  · rintro ⟨n, hn, hint, hk, hlong⟩
    have hpart := (numeralPart_eq_iff n.whole_digits).mpr
      ((integerWord_iff_suffixed n.whole_ne_nil).mpr ⟨n, hn, hint, rfl⟩)
    rw [hpart]
    exact ⟨n.whole_digits, hk, hlong⟩

/-- A word is no number for any other reason exactly if each numeral that it is with a suffix is infinite; most
    words are none at all. -/
theorem ofNumeral_eq_malformed_iff_suffixed {word : List Char}
    (hok : ∀ v, Number.ofNumeral (numeralPart word) = .ok v ↔ ∃ n : Numeral, n.Suffixed word ∧ n.Denotes v) :
    Number.ofNumeral (numeralPart word) = .error .malformed
      ↔ ∀ n : Numeral, n.Suffixed word → n.isInteger = false ∧ Binary64.overflowBound ≤ n.decimal.value := by
  constructor
  · intro hmalformed n hn
    have hnone : ¬ ∃ v, n.Denotes v := by
      rintro ⟨v, hv⟩
      have := (hok v).mpr ⟨n, hn, hv⟩
      rw [hmalformed] at this
      cases this
    rw [n.exists_denotes_iff] at hnone
    cases hint : n.isInteger with
    | true =>
        rw [hint, if_pos rfl] at hnone
        have := ofNumeral_eq_tooMany_iff_suffixed.mpr ⟨n, hn, hint, rfl, not_le.mp hnone⟩
        rw [hmalformed] at this
        cases this
    | false =>
        rw [hint, if_neg Bool.false_ne_true] at hnone
        exact ⟨rfl, not_lt.mp hnone⟩
  · intro h
    match hnum : Number.ofNumeral (numeralPart word) with
    | .error .malformed => rfl
    | .ok v =>
        obtain ⟨n, hn, hv⟩ := (hok v).mp hnum
        obtain ⟨hint, hlarge⟩ := h n hn
        have hfinite := n.exists_denotes_iff.mp ⟨v, hv⟩
        rw [hint, if_neg Bool.false_ne_true] at hfinite
        exact absurd hfinite (not_lt.mpr hlarge)
    | .error (.tooManyDigits k) =>
        obtain ⟨n, hn, hint, -⟩ := ofNumeral_eq_tooMany_iff_suffixed.mp hnum
        rw [(h n hn).1] at hint
        cases hint

/-- **The numerals of a condition are one language, and suffixes do not change their value.**  A text that is
    a word with a digit in front is read as one number exactly if it is a numeral with a suffix, and the
    number is what the numeral alone denotes: a row of digits that is not too long is an integer, and a
    numeral with a point or an exponent is the nearest double, if that is finite.  A row of too many digits is
    an error of its own, and anything else is refused as a whole. -/
theorem lex_numeral_language {text : String} (hword : ∀ c ∈ text.toList, isWordChar c = true)
    (hdigit : StartsWithDigit text.toList) :
    (∀ ts, lex text = .ok ts
        ↔ ∃ (n : Numeral) (v : Number), n.Suffixed text.toList ∧ n.Denotes v ∧ ts = [.number 0 text.length v])
      ∧ (∀ k, lex text = .error (.numeralTooLong k)
        ↔ ∃ n : Numeral, n.Suffixed text.toList ∧ n.isInteger = true ∧ k = n.whole.length
          ∧ Number.digitLimit < k)
      ∧ (lex text = .error (.rejected ⟨.badLiteral text, some text, [0]⟩)
        ↔ ∀ n : Numeral, n.Suffixed text.toList →
          n.isInteger = false ∧ Binary64.overflowBound ≤ n.decimal.value)
      ∧ (∀ n : Numeral, n.Suffixed text.toList →
        ((∃ v, n.Denotes v) ↔ if n.isInteger then n.whole.length ≤ Number.digitLimit
            else n.decimal.value < Binary64.overflowBound)
          ∧ ∀ v, n.Denotes v ↔ Number.ofNumeral n.chars = .ok v)
      ∧ (Fault.badLiteral text).message = "Cannot parse literal " ++ text
      ∧ (Fault.badLiteral text).stage = .lexical := by
  have hok : ∀ v, Number.ofNumeral (numeralPart text.toList) = .ok v
      ↔ ∃ n : Numeral, n.Suffixed text.toList ∧ n.Denotes v := fun v =>
    numeralWord_iff.symm.trans (numeralWord_iff_suffixed hword hdigit)
  obtain ⟨htokens, hlong, hrefused⟩ := lex_of_digit hword hdigit
  refine ⟨fun ts => ?_, fun k => (hlong k).trans ofNumeral_eq_tooMany_iff_suffixed, hrefused.trans ?_,
    fun n _ => ⟨n.exists_denotes_iff, fun v => n.ofNumeral_chars_iff.symm⟩, rfl, rfl⟩
  · rw [htokens ts]
    constructor
    · rintro ⟨v, hv, rfl⟩
      obtain ⟨n, hn, hdenotes⟩ := (hok v).mp hv
      exact ⟨n, v, hn, hdenotes, rfl⟩
    · rintro ⟨n, v, hn, hdenotes, rfl⟩
      exact ⟨v, (hok v).mpr ⟨n, hn, hdenotes⟩, rfl⟩
  · exact ofNumeral_eq_malformed_iff_suffixed hok

/-- The numeral `1.50E2`. -/
def allParts : Numeral where
  whole := ['1']
  fraction := some ['5', '0']
  exponent := some ('E', ['2'])
  whole_ne_nil := List.cons_ne_nil _ _
  whole_digits := List.all_eq_true.mp rfl
  fraction_digits := by
    rintro ds ⟨⟩
    exact List.all_eq_true.mp rfl
  exponent_letter := by
    rintro x ⟨⟩
    exact .inr rfl
  exponent_ne_nil := by
    rintro x ⟨⟩
    exact List.cons_ne_nil _ _
  exponent_digits := by
    rintro x ⟨⟩
    exact List.all_eq_true.mp rfl

/-- All parts of a numeral are there, with a capital letter in the exponent and a suffix of three letters; the
    double is an integer. -/
theorem lex_numeral_language_allParts :
    (∀ c ∈ "1.50E2uLL".toList, isWordChar c = true) ∧ StartsWithDigit "1.50E2uLL".toList
      ∧ lex "1.50E2uLL" = .ok [.number 0 9 (.int 150)] := by
  have hchars : "1.50E2uLL".toList = ['1', '.', '5', '0', 'E', '2', 'u', 'L', 'L'] := by cbv
  have hword : ∀ c ∈ "1.50E2uLL".toList, isWordChar c = true := by
    rw [hchars]
    exact List.all_eq_true.mp rfl
  have hdigit : StartsWithDigit "1.50E2uLL".toList := by
    rw [hchars]
    exact ⟨'1', rfl, rfl⟩
  have hn : allParts.Suffixed "1.50E2uLL".toList := by
    refine ⟨['u'], ['L', 'L'], hchars, .inr (.inl rfl), fun c hc => .inr ?_⟩
    exact List.eq_of_mem_replicate (n := 2) hc
  have hv : allParts.Denotes (.int 150) := by
    have hdouble : Binary64.ofDecimal false allParts.decimal = .finite false 5277655813324800 (-45) := by
      decide +kernel
    have hint : Number.ofBinary64 (.finite false 5277655813324800 (-45)) = .int 150 := by decide +kernel
    rw [← hint]
    exact .double rfl hdouble
  exact ⟨hword, hdigit, ((lex_numeral_language hword hdigit).1 _).mpr ⟨_, _, hn, hv, rfl⟩⟩

end Token

end HashIf
