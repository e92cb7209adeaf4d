import HashIf.Proofs.LexFaults

/-!
# `HashIf.Proofs.TextPlaces`: what stands at a place of a text

Pieces of a text are said by their offset: characters stand there, and a word is a longest run of word
characters.  What the lexer makes of a word and of the characters of an operator is put in these terms, with
nothing of how it takes suffixes off or looks operators up.

## Contents
- `NumeralWord`, `numeralWord_iff`: numerals with a suffix.
- `StandsAt`, `WordAt`: characters and words at an offset.
- `ofWord_eq_ok_iff`, `ofWord_eq_located_iff`: the words that are tokens, and those that are not.
- `operatorAt?_eq_some_iff`, `operatorAt?_eq_none_iff`: the operator at the head of a text.
-/

namespace HashIf.Token

/-! ## Numerals with a suffix -/

/-- An exponent ends with a digit. -/
theorem readExponent?_last {cs : List Char} {e : Int} (h : Decimal.readExponent? cs = some e) :
    ∀ c ∈ cs.getLast?, c.isDigit = true := by
  cases cs with
  | nil =>
      intro c hc
      cases hc
  | cons a rest =>
      -- Behind the sign there is a digit, and nothing but digits.
      have hdigits : ∀ (before : List Char) {ds : List Char}, rest = before ++ ds →
          ¬ (ds.isEmpty || !ds.all Char.isDigit) = true →
          ∀ c ∈ (a :: rest).getLast?, c.isDigit = true := by
        intro before ds hrest hds c hc
        simp only [Bool.or_eq_true, Bool.not_eq_true', not_or, Bool.not_eq_false,
          List.isEmpty_iff, List.all_eq_true] at hds
        rw [hrest, ← List.cons_append, List.getLast?_append, List.getLast?_eq_some_getLast hds.1,
          Option.some_or] at hc
        cases hc
        exact hds.2 _ (List.getLast_mem hds.1)
      unfold Decimal.readExponent? at h
      dsimp only at h
      split at h
      · cases h
      split at h
      · split at h
        · cases h
        · exact hdigits ['-'] rfl ‹_›
      · split at h
        · cases h
        · exact hdigits ['+'] rfl ‹_›
      · split at h
        · cases h
        · exact hdigits [] rfl ‹_›

/-- So the last character of a numeral is a digit or a point. -/
theorem ofNumeral_last {cs : List Char} {v : Number} (h : Number.ofNumeral cs = .ok v) :
    ∀ c ∈ cs.getLast?, c.isDigit = true ∨ c = '.' := by
  -- In front of the exponent there are digits and points only.
  have hfront : ∀ (front : List Char) {rest : List Char} {e : Int}, cs = front ++ rest →
      (∀ c ∈ front, c.isDigit = true ∨ c = '.') → Decimal.readExponent? rest = some e →
      ∀ c ∈ cs.getLast?, c.isDigit = true ∨ c = '.' := by
    intro front rest e hcs hchars he c hc
    rw [hcs, List.getLast?_append] at hc
    cases hrest : rest.getLast? with
    | none =>
        rw [hrest, Option.none_or] at hc
        exact hchars c (List.mem_of_getLast? hc)
    | some d =>
        rw [hrest, Option.some_or] at hc
        exact .inl (readExponent?_last he c (hrest.trans hc))
  have hdigit : ∀ {ds : List Char}, ∀ c ∈ ds.takeWhile Char.isDigit, c.isDigit = true ∨ c = '.' :=
    fun c hc => .inl (List.mem_takeWhile_imp hc)
  have hcs := (List.takeWhile_append_dropWhile (p := Char.isDigit) (l := cs)).symm
  unfold Number.ofNumeral at h
  split at h
  · rename_i hint
    intro c hc
    exact .inl (List.all_eq_true.mp (Bool.and_eq_true_iff.mp hint).2 c (List.mem_of_getLast? hc))
  split at h
  · cases h
  rename_i d hread
  unfold Decimal.read? at hread
  dsimp only at hread
  split at hread
  · rename_i r hr
    have hr' := (List.takeWhile_append_dropWhile (p := Char.isDigit) (l := r)).symm
    split at hread
    · cases hread
    obtain ⟨e, he, -⟩ := Option.map_eq_some_iff.mp hread
    refine hfront (cs.takeWhile Char.isDigit ++ '.' :: r.takeWhile Char.isDigit) ?_ ?_ he
    · rw [List.append_assoc, List.cons_append, ← hr', ← hr, ← hcs]
    · simp only [List.forall_mem_append, List.forall_mem_cons]
      exact ⟨hdigit, .inr trivial, hdigit⟩
  · split at hread
    · cases hread
    obtain ⟨e, he, -⟩ := Option.map_eq_some_iff.mp hread
    exact hfront _ hcs hdigit he

/-- The word is a numeral for the number `v` with a suffix: at most one `u` and then any number of `l`.
    Small and capital letters are the same. -/
def NumeralWord (word : List Char) (v : Number) : Prop :=
  ∃ cs us ls, word.map Char.toLower = cs ++ us ++ ls ∧ (us = [] ∨ us = ['u'])
    ∧ (∀ c ∈ ls, c = 'l') ∧ Number.ofNumeral cs = .ok v

/-- **The suffix that is taken off is the only one that leaves a numeral.** -/
theorem numeralWord_iff {word : List Char} {v : Number} :
    NumeralWord word v ↔ Number.ofNumeral (numeralPart word) = .ok v := by
  constructor
  · rintro ⟨cs, us, ls, hword, hus, hls, hcs⟩
    suffices hpart : numeralPart word = cs by rw [hpart, hcs]
    have hlast : ∀ c ∈ cs.reverse.head?, c ≠ 'l' ∧ c ≠ 'u' := by
      intro c hc
      rw [List.head?_reverse] at hc
      constructor
      · rintro rfl
        exact absurd (ofNumeral_last hcs _ hc) (by decide)
      · rintro rfl
        exact absurd (ofNumeral_last hcs _ hc) (by decide)
    have hrev : ∀ c ∈ ls.reverse, (c == 'l') = true := by
      intro c hc
      exact beq_iff_eq.mpr (hls c (List.mem_reverse.mp hc))
    unfold numeralPart
    rw [hword, List.reverse_append, List.dropWhile_append_of_pos hrev, List.reverse_append]
    rcases hus with rfl | rfl
    · rw [List.reverse_nil, List.nil_append]
      cases hcs : cs.reverse with
      | nil =>
        rw [← List.reverse_reverse cs, hcs]
        rfl
      | cons c rest =>
        rw [hcs] at hlast
        obtain ⟨hl, hu⟩ := hlast c rfl
        rw [List.dropWhile_cons_of_neg (by simpa using hl)]
        split
        · rename_i heq
          exact absurd (List.cons.inj heq).1 hu
        · rw [← hcs, List.reverse_reverse]
    · exact List.reverse_reverse cs
  · intro h
    obtain ⟨us, ls, hword, hus, hls⟩ := numeralPart_split word
    exact ⟨_, us, ls, hword, hus, hls, h⟩

/-! ## Places in a text -/

/-- The characters `cs` stand in the text from offset `p` on. -/
def StandsAt (text : List Char) (p : Nat) (cs : List Char) : Prop := cs <+: text.drop p

/-- The word is a longest run of word characters of the text, from offset `p` on: neither the character in
    front of it nor the one behind it is a character of words. -/
structure WordAt (text : List Char) (p : Nat) (word : List Char) : Prop where
  ne_nil : word ≠ []
  stands : StandsAt text p word
  chars : ∀ c ∈ word, isWordChar c = true
  starts : ∀ i c, i + 1 = p → text[i]? = some c → isWordChar c = false
  ends : ∀ c, text[p + word.length]? = some c → isWordChar c = false

theorem standsAt_append (before cs rest : List Char) :
    StandsAt (before ++ cs ++ rest) before.length cs := by
  unfold StandsAt
  rw [List.append_assoc, List.drop_left]
  exact List.prefix_append cs rest

/-- What stands in a text cuts it into three pieces. -/
theorem StandsAt.split {text cs : List Char} {p : Nat} (h : StandsAt text p cs) (hne : cs ≠ []) :
    ∃ before rest, text = before ++ cs ++ rest ∧ before.length = p := by
  obtain ⟨rest, hrest⟩ := h
  have hp : p ≤ text.length := by
    by_contra hp
    rw [List.drop_eq_nil_of_le (by omega)] at hrest
    exact hne (List.append_eq_nil_iff.mp hrest).1
  refine ⟨text.take p, rest, ?_, List.length_take_of_le hp⟩
  rw [List.append_assoc, hrest, List.take_append_drop]

/-- Where a piece of the text stands, a word is that piece and the pieces around it end and begin with
    something else. -/
theorem wordAt_append_iff {before word rest : List Char} :
    WordAt (before ++ word ++ rest) before.length word
      ↔ word ≠ [] ∧ (∀ c ∈ word, isWordChar c = true)
        ∧ (∀ c ∈ before.getLast?, isWordChar c = false) ∧ Ends rest := by
  have hbefore : ∀ i c, i + 1 = before.length →
      ((before ++ word ++ rest)[i]? = some c ↔ before.getLast? = some c) := by
    intro i c hi
    rw [List.append_assoc, List.getElem?_append_left (by omega), List.getLast?_eq_getElem?, ← hi,
      Nat.add_sub_cancel]
  have hrest : (before ++ word ++ rest)[before.length + word.length]? = rest.head? := by
    rw [← List.length_append, List.getElem?_append_right (Nat.le_refl _), Nat.sub_self,
      List.head?_eq_getElem?]
  constructor
  · intro h
    refine ⟨h.ne_nil, h.chars, fun c hc => ?_, fun c hc => ?_⟩
    · cases hlen : before.length with
      | zero =>
          rw [List.length_eq_zero_iff.mp hlen] at hc
          cases hc
      | succ i => exact h.starts i c hlen.symm ((hbefore i c hlen.symm).mpr hc)
    · exact h.ends c (hrest.trans hc)
  · rintro ⟨hne, hchars, hstarts, hends⟩
    refine ⟨hne, standsAt_append before word rest, hchars, fun i c hi hc => ?_, fun c hc => ?_⟩
    · exact hstarts c ((hbefore i c hi).mp hc)
    · exact hends c (hrest.symm.trans hc)

/-! ## What words denote -/

/-- The first character is a digit. -/
def StartsWithDigit (word : List Char) : Prop := ∃ c ∈ word.head?, c.isDigit = true

theorem startsWithDigit_iff {word : List Char} :
    ((word.head?.map Char.isDigit).getD false) = true ↔ StartsWithDigit word := by
  unfold StartsWithDigit
  cases word.head? <;> simp

theorem findIdx?_point_eq_none {word : List Char} : word.findIdx? (· == '.') = none ↔ '.' ∉ word := by
  rw [List.findIdx?_eq_none_iff]
  constructor
  · intro h hmem
    have hne := h '.' hmem
    simp at hne
  · intro h c hc
    rw [beq_eq_false_iff_ne]
    rintro rfl
    exact h hc

/-- The first point of a word, with what stands in front of it. -/
theorem findIdx?_point_eq_some {word : List Char} {i : Nat} :
    word.findIdx? (· == '.') = some i
      ↔ ∃ before rest, word = before ++ '.' :: rest ∧ '.' ∉ before ∧ before.length = i := by
  constructor
  · intro h
    obtain ⟨hi, hpoint, hfirst⟩ := List.findIdx?_eq_some_iff_getElem.mp h
    refine ⟨word.take i, word.drop (i + 1), ?_, ?_, List.length_take_of_le hi.le⟩
    · rw [← beq_iff_eq.mp hpoint, ← List.drop_eq_getElem_cons hi, List.take_append_drop]
    · intro hmem
      obtain ⟨j, hj, hget⟩ := List.mem_take_iff_getElem.mp hmem
      exact hfirst j (by omega) (beq_iff_eq.mpr hget)
  · rintro ⟨before, rest, rfl, hfirst, rfl⟩
    rw [List.findIdx?_append, findIdx?_point_eq_none.mpr hfirst, Option.none_or, List.findIdx?_cons]
    simp

/-- A word that starts with a digit denotes what its numeral does. -/
theorem ofWord_of_digit {word : List Char} (h : StartsWithDigit word) (pos : Nat) :
    ofWord pos word = match Number.ofNumeral (numeralPart word) with
      | .ok v => .ok (.number pos word.length v)
      | .error .malformed => .error (.located ⟨.badLiteral (String.ofList word), some pos⟩)
      | .error (.tooManyDigits n) => .error (.numeralTooLong n) := by
  unfold ofWord
  exact if_pos (startsWithDigit_iff.mpr h)

/-- Any other word is a name unless it has a point. -/
theorem ofWord_of_not_digit {word : List Char} (h : ¬ StartsWithDigit word) (pos : Nat) :
    ofWord pos word = match word.findIdx? (· == '.') with
      | some i => .error (.located ⟨.pointInName, some (pos + i : Nat)⟩)
      | none => .ok (.name pos (String.ofList word)) := by
  unfold ofWord
  exact if_neg fun hdigit => h (startsWithDigit_iff.mp hdigit)

/-- **The tokens of words**: a numeral is a number, and a word without digit in front and without point is a
    name. -/
theorem ofWord_eq_ok_iff {pos : Nat} {word : List Char} {t : Token} :
    ofWord pos word = .ok t
      ↔ (StartsWithDigit word ∧ ∃ v, NumeralWord word v ∧ t = .number pos word.length v)
        ∨ (¬ StartsWithDigit word ∧ '.' ∉ word ∧ t = .name pos (String.ofList word)) := by
  by_cases hdigit : StartsWithDigit word
  · simp only [ofWord_of_digit hdigit, numeralWord_iff, hdigit, true_and, not_true, false_and, or_false]
    cases Number.ofNumeral (numeralPart word) with
    | ok v => simp [eq_comm]
    | error fault => cases fault <;> simp
  · simp only [ofWord_of_not_digit hdigit, hdigit, false_and, not_false_eq_true, true_and, false_or,
      ← findIdx?_point_eq_none]
    cases word.findIdx? (· == '.') with
    | some i => simp
    | none => simp [eq_comm]

/-- A word with a digit in front denotes nothing if it is no numeral; an integer with too many digits is not
    meant here. -/
theorem ofWord_eq_located_of_digit {pos : Nat} {word : List Char} {f : LocatedFault}
    (hdigit : StartsWithDigit word) :
    ofWord pos word = .error (.located f)
      ↔ (∀ v, ¬ NumeralWord word v) ∧ (∀ ds, IntegerWord ds word → ds.length ≤ Number.digitLimit)
        ∧ f = ⟨.badLiteral (String.ofList word), some pos⟩ := by
  have hlong := @ofWord_eq_tooLong_iff pos word
  simp only [ofWord_of_digit hdigit, numeralWord_iff] at hlong ⊢
  cases hnum : Number.ofNumeral (numeralPart word) with
  | ok v => simp
  | error fault =>
      rw [hnum] at hlong
      cases fault with
      | malformed =>
          have hshort : ∀ ds, IntegerWord ds word → ds.length ≤ Number.digitLimit := by
            intro ds hds
            by_contra hgt
            cases hlong.mpr ⟨ds, hds, rfl, Nat.lt_of_not_le hgt⟩
          constructor
          · intro h
            cases h
            exact ⟨fun v hv => (by cases hv), hshort, rfl⟩
          · rintro ⟨-, -, rfl⟩
            rfl
      | tooManyDigits n =>
          obtain ⟨ds, hds, hn, hgt⟩ := hlong.mp rfl
          constructor
          · intro h
            cases h
          · rintro ⟨-, hshort, -⟩
            have := hshort ds hds
            omega

/-- Any other word denotes nothing if it has a point, and the first one is to blame. -/
theorem ofWord_eq_located_of_not_digit {pos : Nat} {word : List Char} {f : LocatedFault}
    (hdigit : ¬ StartsWithDigit word) :
    ofWord pos word = .error (.located f)
      ↔ ∃ front rest, word = front ++ '.' :: rest ∧ '.' ∉ front
        ∧ f = ⟨.pointInName, some (pos + front.length : Nat)⟩ := by
  rw [ofWord_of_not_digit hdigit]
  constructor
  · intro h
    cases hidx : word.findIdx? (· == '.') with
    | none =>
        rw [hidx] at h
        cases h
    | some i =>
        rw [hidx] at h
        cases h
        obtain ⟨front, rest, hword, hfirst, rfl⟩ := findIdx?_point_eq_some.mp hidx
        exact ⟨front, rest, hword, hfirst, rfl⟩
  · rintro ⟨front, rest, hword, hfirst, rfl⟩
    rw [findIdx?_point_eq_some.mpr ⟨front, rest, hword, hfirst, rfl⟩]

/-- **The words that denote nothing**, those with too many digits apart. -/
theorem ofWord_eq_located_iff {pos : Nat} {word : List Char} {f : LocatedFault} :
    ofWord pos word = .error (.located f)
      ↔ (StartsWithDigit word ∧ (∀ v, ¬ NumeralWord word v)
          ∧ (∀ ds, IntegerWord ds word → ds.length ≤ Number.digitLimit)
          ∧ f = ⟨.badLiteral (String.ofList word), some pos⟩)
        ∨ (¬ StartsWithDigit word ∧ ∃ front rest, word = front ++ '.' :: rest ∧ '.' ∉ front
          ∧ f = ⟨.pointInName, some (pos + front.length : Nat)⟩) := by
  by_cases hdigit : StartsWithDigit word
  · rw [ofWord_eq_located_of_digit hdigit]
    simp only [hdigit, true_and, not_true, false_and, or_false]
  · rw [ofWord_eq_located_of_not_digit hdigit]
    simp only [hdigit, false_and, not_false_eq_true, true_and, false_or]

/-! ## Operators -/

/-- Behind `previous` an operand is expected: at the start, behind an operator and behind an opening
    bracket. -/
def OperandExpected (previous : Option Token) : Prop :=
  previous = none ∨ (∃ p op, previous = some (.operator p op)) ∨ ∃ p, previous = some (.bracket p true)

theorem unaryPosition_iff {previous : Option Token} :
    unaryPosition previous = true ↔ OperandExpected previous := by
  unfold unaryPosition OperandExpected
  cases previous with
  | none => simp
  | some t =>
      cases t with
      | bracket p opening => cases opening <;> simp [opensOperand]
      | _ => simp [opensOperand]

theorem pairOperator?_of_symbolChars {op : Operator} {c d : Char} (h : op.symbolChars = [c, d]) :
    pairOperator? c d = some op := by
  cases op <;> cases h <;> rfl

/-- Among the operators of one character only a sign depends on where it stands. -/
theorem singleOperator?_iff {op : Operator} {c : Char} (h : op.symbolChars = [c]) (unary : Bool) :
    singleOperator? unary c = some op
      ↔ (op.symbolChars = ['+'] ∨ op.symbolChars = ['-'] → op.isUnary = unary) := by
  cases op <;> cases h <;> cases unary <;> simp [singleOperator?, Operator.symbolChars, Operator.isUnary]

/-- **Two characters at the head of a text form an operator** exactly if its symbol stands there. -/
theorem pairOperator?_head_iff {op : Operator} {c : Char} {rest : List Char} :
    rest.head?.bind (pairOperator? c) = some op
      ↔ op.symbolChars.length = 2 ∧ op.symbolChars <+: c :: rest := by
  constructor
  · intro h
    obtain ⟨d, hd, hop⟩ := Option.bind_eq_some_iff.mp h
    obtain ⟨rest', rfl⟩ := List.head?_eq_some_iff.mp hd
    rw [pairOperator?_symbolChars hop]
    exact ⟨rfl, List.prefix_append [c, d] rest'⟩
  · rintro ⟨hlen, h⟩
    obtain ⟨a, b, hab⟩ := List.length_eq_two.mp hlen
    rw [hab] at h
    obtain ⟨rfl, hb⟩ := List.cons_prefix_cons.mp h
    cases rest with
    | nil => cases List.prefix_nil.mp hb
    | cons d rest =>
        obtain ⟨rfl, -⟩ := List.cons_prefix_cons.mp hb
        exact pairOperator?_of_symbolChars hab

/-- A symbol that is not one of two characters is one character. -/
theorem symbolChars_eq_singleton {op : Operator} {c : Char} {tail : List Char}
    (hsymbol : op.symbolChars = c :: tail) (hlen : op.symbolChars.length ≠ 2) : op.symbolChars = [c] := by
  cases op <;> first | exact absurd rfl hlen | (cases hsymbol; rfl)

/-- **The operator at the head of a text is the longer one of two**, and a sign is unary where an operand is
    expected. -/
theorem operatorAt?_eq_some_iff {previous : Option Token} {op : Operator} {c : Char}
    {tail rest : List Char} (hsymbol : op.symbolChars = c :: tail) :
    operatorAt? previous c (tail ++ rest) = some op
      ↔ (∀ op' : Operator, op'.symbolChars.length = 2 → op'.symbolChars <+: c :: (tail ++ rest) → op' = op)
        ∧ (op.symbolChars = ['+'] ∨ op.symbolChars = ['-'] →
            (op.isUnary = true ↔ OperandExpected previous)) := by
  constructor
  · intro h
    constructor
    · intro op' hlen hpre
      rw [operatorAt?, pairOperator?_head_iff.mpr ⟨hlen, hpre⟩, Option.some_or] at h
      exact Option.some.inj h
    · intro hsign
      have hone : op.symbolChars.length = 1 := by rcases hsign with hs | hs <;> rw [hs] <;> rfl
      rcases operatorAt?_eq_some h with ⟨d, rest', -, hpair⟩ | ⟨-, hsingle⟩
      · rw [pairOperator?_symbolChars hpair] at hone
        cases hone
      · have hop := singleOperator?_symbolChars hsingle
        rw [(singleOperator?_iff hop _).mp hsingle hsign, unaryPosition_iff]
  · rintro ⟨hlongest, hsign⟩
    unfold operatorAt?
    cases hpair : (tail ++ rest).head?.bind (pairOperator? c) with
    | some op' =>
        -- Two characters form an operator, and there is no other one to take.
        obtain ⟨hlen, hpre⟩ := pairOperator?_head_iff.mp hpair
        rw [hlongest op' hlen hpre, Option.some_or]
    | none =>
        have hlen : op.symbolChars.length ≠ 2 := by
          intro hlen
          have hpre : op.symbolChars <+: c :: (tail ++ rest) := by
            rw [hsymbol]
            exact List.prefix_append (c :: tail) rest
          rw [pairOperator?_head_iff.mpr ⟨hlen, hpre⟩] at hpair
          cases hpair
        rw [Option.none_or, (singleOperator?_iff (symbolChars_eq_singleton hsymbol hlen) _).mpr]
        intro hs
        exact Bool.eq_iff_iff.mpr ((hsign hs).trans unaryPosition_iff.symm)

/-- No operator is found exactly where the symbol of none stands. -/
theorem operatorAt?_eq_none_iff {previous : Option Token} {c : Char} {rest : List Char} :
    operatorAt? previous c rest = none ↔ ∀ op : Operator, ¬ op.symbolChars <+: c :: rest := by
  constructor
  · intro h op hpre
    obtain ⟨hpair, hsingle⟩ := Option.or_eq_none_iff.mp h
    by_cases hlen : op.symbolChars.length = 2
    · rw [pairOperator?_head_iff.mpr ⟨hlen, hpre⟩] at hpair
      cases hpair
    · have hne := List.length_pos_iff.mp op.symbolChars_length_pos
      obtain ⟨a, tail, hsymbol⟩ := List.exists_cons_of_ne_nil hne
      have hone := symbolChars_eq_singleton hsymbol hlen
      rw [hone] at hpre
      obtain ⟨rfl, -⟩ := List.cons_prefix_cons.mp hpre
      cases op <;> cases hone <;> cases hsingle
  · intro h
    rw [← Option.not_isSome_iff_eq_none, Option.isSome_iff_exists]
    rintro ⟨op, hop⟩
    rcases operatorAt?_eq_some hop with ⟨d, rest', rfl, hpair⟩ | ⟨-, hsingle⟩
    · refine h op ?_
      rw [pairOperator?_symbolChars hpair]
      exact List.prefix_append [c, d] rest'
    · refine h op ?_
      rw [singleOperator?_symbolChars hsingle]
      exact List.prefix_append [c] rest

end HashIf.Token
