import HashIf.Proofs.Lexemes

/-!
# `HashIf.Proofs.LexFaults`: why the reading of tokens stops

Two things stop the reading of tokens.  One is a lexical fault: a word that denotes nothing or a character
that begins nothing.  The other is an integer that has too many digits to be converted, which is no fault of
the text.  Whichever comes first from the left decides, so it is said of a text that it meets a long integer:
in front of the integer the text has tokens, and the integer is a whole word.

## Contents
- `IntegerWord`, `numeralPart_eq_iff`: digits with a suffix.
- `ofWord_eq_tooLong_iff`, `ofWord_stage`: the words that denote nothing.
- `MeetsLongInteger`, `lex_eq_tooLong_iff`: the texts in which a long integer is met.
- `lex_eq_error`: everything that stops the reading.
-/

namespace HashIf.Token

/-! ## Integers with a suffix -/

/-- The word is the digits `ds` with a suffix: at most one `u` and then any number of `l`, both small or
    capital. -/
def IntegerWord (ds word : List Char) : Prop :=
  (∀ c ∈ ds, c.isDigit = true) ∧ ∃ us ls, word = ds ++ us ++ ls
    ∧ (us = [] ∨ us = ['u'] ∨ us = ['U']) ∧ ∀ c ∈ ls, c = 'l' ∨ c = 'L'

/-- A letter is written small by adding a fixed amount to a capital; nothing else changes. -/
theorem toLower_cases (c : Char) :
    c.toLower = c ∨ (65 ≤ c.toNat ∧ c.toNat ≤ 90 ∧ c.toLower.toNat = c.toNat + 32) := by
  unfold Char.toLower
  split
  · rename_i h
    refine .inr ⟨h.1, h.2, ?_⟩
    have hle : c.toNat ≤ 90 := h.2
    show (c.val + 32).toNat = c.val.toNat + 32
    rw [UInt32.toNat_add]
    have : c.val.toNat ≤ 90 := hle
    have h32 : (32 : UInt32).toNat = 32 := rfl
    omega
  · exact .inl rfl

/-- Only a letter and its capital are the same in lower case. -/
theorem eq_of_toLower_eq {c small capital : Char} (h : c.toLower = small)
    (hcapital : capital.toNat + 32 = small.toNat) : c = small ∨ c = capital := by
  rcases toLower_cases c with heq | ⟨-, -, hnat⟩
  · exact .inl (heq.symm.trans h)
  · rw [h, ← hcapital] at hnat
    exact .inr (Char.toNat_inj.mp (Nat.add_right_cancel hnat.symm))

theorem toLower_eq_of_isDigit {c : Char} (h : c.toLower.isDigit = true) : c.toLower = c := by
  rcases toLower_cases c with heq | ⟨hle, -, hnat⟩
  · exact heq
  · have := (isDigit_iff.mp h).2
    omega

/-- What is stripped from a word is a suffix. -/
theorem numeralPart_split (word : List Char) :
    ∃ us ls, word.map Char.toLower = numeralPart word ++ us ++ ls
      ∧ (us = [] ∨ us = ['u']) ∧ ∀ c ∈ ls, c = 'l' := by
  have hsplit : ∀ low : List Char,
      low = (low.reverse.dropWhile (· == 'l')).reverse ++ (low.reverse.takeWhile (· == 'l')).reverse := by
    intro low
    rw [← List.reverse_append, List.takeWhile_append_dropWhile, List.reverse_reverse]
  have hls : ∀ c ∈ ((word.map Char.toLower).reverse.takeWhile (· == 'l')).reverse, c = 'l' := by
    intro c hc
    have hl := List.mem_takeWhile_imp (List.mem_reverse.mp hc)
    exact beq_iff_eq.mp hl
  unfold numeralPart
  split
  · rename_i rest heq
    refine ⟨['u'], _, ?_, .inr rfl, hls⟩
    have h := hsplit (word.map Char.toLower)
    rw [heq, List.reverse_cons] at h
    exact h
  · refine ⟨[], _, ?_, .inl rfl, hls⟩
    rw [List.append_nil]
    exact hsplit _

/-- Any number of `l` is stripped. -/
theorem numeralPart_append {cs ls : List Char} (hls : ∀ c ∈ ls, c = 'l' ∨ c = 'L') :
    numeralPart (cs ++ ls) = numeralPart cs := by
  have hall : ∀ c ∈ (ls.map Char.toLower).reverse, (c == 'l') = true := by
    intro c hc
    obtain ⟨d, hd, rfl⟩ := List.mem_map.mp (List.mem_reverse.mp hc)
    rcases hls d hd with rfl | rfl <;> rfl
  unfold numeralPart
  rw [List.map_append, List.reverse_append, List.dropWhile_append_of_pos hall]

/-- One `u` is stripped. -/
theorem numeralPart_concat {cs : List Char} (hcs : cs.map Char.toLower = cs) {u : Char}
    (hu : u.toLower = 'u') : numeralPart (cs ++ [u]) = cs := by
  unfold numeralPart
  rw [List.map_append, List.reverse_append, hcs, List.map_singleton, hu, List.reverse_singleton,
    List.singleton_append, List.dropWhile_cons_of_neg (by decide)]
  exact List.reverse_reverse cs

/-- **What is left without the suffix is digits exactly if the word is digits with a suffix.** -/
theorem numeralPart_eq_iff {ds word : List Char} (hds : ∀ c ∈ ds, c.isDigit = true) :
    numeralPart word = ds ↔ IntegerWord ds word := by
  constructor
  · rintro rfl
    obtain ⟨us, ls, hword, hus, hls⟩ := numeralPart_split word
    -- The pieces of the word in lower case are pieces of the word.
    obtain ⟨front, ls', rfl, hfront, rfl⟩ := List.map_eq_append_iff.mp hword
    obtain ⟨ds', us', rfl, hds', rfl⟩ := List.map_eq_append_iff.mp hfront
    have hdigits : ds' = numeralPart (ds' ++ us' ++ ls') := by
      rw [← hds']
      refine (List.map_id' ds').symm.trans (List.map_congr_left fun c hc => ?_)
      refine (toLower_eq_of_isDigit (hds _ ?_)).symm
      rw [← hds']
      exact List.mem_map_of_mem hc
    refine ⟨hds, us', ls', by rw [← hdigits], ?_, fun c hc => ?_⟩
    · rcases hus with hnil | hu
      · exact .inl (List.map_eq_nil_iff.mp hnil)
      · obtain ⟨u, rfl, hlower⟩ := List.map_eq_singleton_iff.mp hu
        rcases @eq_of_toLower_eq u 'u' 'U' hlower rfl with rfl | rfl
        · exact .inr (.inl rfl)
        · exact .inr (.inr rfl)
    · exact eq_of_toLower_eq (hls _ (List.mem_map_of_mem hc)) rfl
  · rintro ⟨-, us, ls, rfl, hus, hls⟩
    have hle : ∀ c ∈ ds, c.toNat ≤ 57 := fun c hc => (isDigit_iff.mp (hds c hc)).2
    have hlower : ds.map Char.toLower = ds := by
      rw [List.map_congr_left (fun c hc => toLower_of_le (hle c hc)), List.map_id']
    rw [numeralPart_append hls]
    rcases hus with rfl | rfl | rfl
    · rw [List.append_nil]
      exact numeralPart_of_le hle
    · exact numeralPart_concat hlower rfl
    · exact numeralPart_concat hlower rfl

/-! ## Words that denote nothing -/

/-- A numeral is refused for its length exactly if it is a row of too many digits. -/
theorem ofNumeral_eq_tooManyDigits_iff {cs : List Char} {n : Nat} :
    Number.ofNumeral cs = .error (.tooManyDigits n)
      ↔ (∀ c ∈ cs, c.isDigit = true) ∧ n = cs.length ∧ Number.digitLimit < n := by
  unfold Number.ofNumeral
  constructor
  · intro h
    split at h
    · rename_i hint
      split at h
      · rename_i hlong
        cases h
        exact ⟨List.all_eq_true.mp (Bool.and_eq_true_iff.mp hint).2, rfl, hlong⟩
      · cases h
    · split at h
      · cases h
      · split at h <;> cases h
  · rintro ⟨hdigits, rfl, hlong⟩
    have hne : cs.isEmpty = false := by
      rw [List.isEmpty_eq_false_iff]
      rintro rfl
      exact absurd hlong (by decide)
    rw [hne, List.all_eq_true.mpr hdigits, Bool.not_false, Bool.true_and, if_pos rfl, if_pos hlong]

/-- **A word has too many digits exactly if it is that many digits with a suffix.** -/
theorem ofWord_eq_tooLong_iff {pos : Nat} {word : List Char} {n : Nat} :
    ofWord pos word = .error (.numeralTooLong n)
      ↔ ∃ ds, IntegerWord ds word ∧ n = ds.length ∧ Number.digitLimit < n := by
  unfold ofWord
  constructor
  · intro h
    split at h
    · split at h
      · cases h
      · cases h
      · rename_i hlong
        cases h
        obtain ⟨hdigits, hn, hlong⟩ := ofNumeral_eq_tooManyDigits_iff.mp hlong
        exact ⟨_, (numeralPart_eq_iff hdigits).mp rfl, hn, hlong⟩
    · split at h <;> cases h
  · rintro ⟨ds, hword, hn, hlong⟩
    have hnumeral := ofNumeral_eq_tooManyDigits_iff.mpr ⟨hword.1, hn, hlong⟩
    rw [← (numeralPart_eq_iff hword.1).mpr hword] at hnumeral
    have hhead : ((word.head?.map Char.isDigit).getD false) = true := by
      obtain ⟨hdigits, us, ls, rfl, -⟩ := hword
      cases ds with
      | nil =>
          subst hn
          exact absurd hlong (by decide)
      | cons d ds => exact hdigits d List.mem_cons_self
    rw [if_pos hhead, hnumeral]

/-- Any other word that denotes nothing is a lexical fault. -/
theorem ofWord_stage {pos : Nat} {word : List Char} {f : LocatedFault}
    (h : ofWord pos word = .error (.located f)) : f.fault.stage = .lexical := by
  unfold ofWord at h
  split at h
  · split at h
    · cases h
    · cases h
      rfl
    · cases h
  · split at h
    · cases h
      rfl
    · cases h

theorem FaultAt.stage {pos : Nat} {previous : Option Token} {cs : List Char} {f : LocatedFault}
    (h : FaultAt pos previous cs (.located f)) : f.fault.stage = .lexical := by
  cases h with
  | word _ _ _ hf => exact ofWord_stage hf
  | character => rfl

/-! ## Long integers in a text -/

/-- From the left, the text comes to an integer of `n` digits, which are too many, before it comes to a
    lexical fault. -/
def MeetsLongInteger (n : Nat) (text : String) : Prop :=
  ∃ before word rest ds, text.toList = before ++ word ++ rest
    ∧ IntegerWord ds word ∧ n = ds.length ∧ Number.digitLimit < n
    -- The integer is a whole word.
    ∧ (∀ c ∈ before.getLast?, isWordChar c = false) ∧ Ends rest
    ∧ ∃ ts, lex (String.ofList before) = .ok ts

theorem IntegerWord.isWordChar {ds word : List Char} (h : IntegerWord ds word) :
    ∀ c ∈ word, isWordChar c = true := by
  obtain ⟨hdigits, us, ls, rfl, hus, hls⟩ := h
  intro c hc
  rcases List.mem_append.mp hc with hc | hc
  · rcases List.mem_append.mp hc with hc | hc
    · exact isWordChar_iff.mpr (.inr (.inl (hdigits c hc)))
    · rcases hus with rfl | rfl | rfl
      · cases hc
      · rw [List.mem_singleton.mp hc]
        decide
      · rw [List.mem_singleton.mp hc]
        decide
  · rcases hls c hc with rfl | rfl <;> decide

/-- In front of a word no lexeme ends with a character of words. -/
theorem Lexeme.last_of_word {pos : Nat} {previous : Option Token} {cs : List Char} {d : Char}
    {t : Option Token} (h : Lexeme pos previous cs (some d) t) (hd : Token.isWordChar d = true) :
    ∀ c ∈ cs, Token.isWordChar c = false := by
  cases h with
  | @blank c _ hblank =>
      intro c' hc
      rw [List.mem_singleton.mp hc, Bool.eq_false_iff]
      intro hword
      rw [(isWordChar_first hword).1] at hblank
      cases hblank
  | opening =>
      intro c hc
      rw [List.mem_singleton.mp hc]
      decide
  | closing =>
      intro c hc
      rw [List.mem_singleton.mp hc]
      decide
  | word _ _ hends =>
      have hfalse := hends d rfl
      rw [hd] at hfalse
      cases hfalse
  | @operator op _ _ _ hsymbol _ =>
      intro c hc
      exact (op.symbolChars_class c (hsymbol ▸ hc)).2.2

/-- So a text in front of a word ends with a character that is none of words. -/
theorem Lexed.last_of_word {pos : Nat} {previous : Option Token} {cs : List Char} {d : Char}
    {ts : List Token} (h : Lexed (some d) pos previous cs ts) (hd : Token.isWordChar d = true) :
    ∀ c ∈ cs.getLast?, Token.isWordChar c = false := by
  induction h with
  | nil =>
      intro c hc
      cases hc
  | @cons pos previous t lexeme rest ts hlexeme _ ih =>
      intro c hc
      rw [List.getLast?_append] at hc
      cases hrest : rest.getLast? with
      | some c' =>
          rw [hrest, Option.some_or] at hc
          exact ih c (hrest.trans hc)
      | none =>
          obtain rfl := List.getLast?_eq_none_iff.mp hrest
          rw [hrest, Option.none_or] at hc
          exact hlexeme.last_of_word hd c (List.mem_of_getLast? hc)

/-- A lexical fault is shown in the text. -/
theorem lex_eq_rejected_iff {text : String} {r : Rejection} :
    lex text = .error (.rejected r)
      ↔ ∃ f, lexFrom 0 none text.toList = .error (.located f) ∧ r = .ofLocated (some text) f := by
  unfold lex
  constructor
  · intro h
    match hlex : lexFrom 0 none text.toList with
    | .ok ts =>
        rw [hlex] at h
        cases h
    | .error (.located f) =>
        rw [hlex] at h
        cases h
        exact ⟨f, rfl, rfl⟩
    | .error (.numeralTooLong n) =>
        rw [hlex] at h
        cases h
  · rintro ⟨f, hlex, rfl⟩
    rw [hlex]
    rfl

/-- A long integer is not. -/
theorem lex_eq_numeralTooLong_iff {text : String} {n : Nat} :
    lex text = .error (.numeralTooLong n) ↔ lexFrom 0 none text.toList = .error (.numeralTooLong n) := by
  unfold lex
  constructor
  · intro h
    match hlex : lexFrom 0 none text.toList with
    | .ok ts =>
        rw [hlex] at h
        cases h
    | .error (.located f) =>
        rw [hlex] at h
        cases h
    | .error (.numeralTooLong m) =>
        rw [hlex] at h
        cases h
        rfl
  · intro hlex
    rw [hlex]
    rfl

/-- **Reading stops at a long integer exactly if the text meets one.** -/
theorem lex_eq_tooLong_iff {text : String} {n : Nat} :
    lex text = .error (.numeralTooLong n) ↔ MeetsLongInteger n text := by
  rw [lex_eq_numeralTooLong_iff, lexFrom_eq_error_iff]
  constructor
  · rintro ⟨before, rest, ts, htext, hlexed, hfault⟩
    cases hfault with
    | @word word rest _ hne hword hends hf =>
        obtain ⟨ds, hint, hn, hlong⟩ := ofWord_eq_tooLong_iff.mp hf
        obtain ⟨c, cs, rfl⟩ := List.exists_cons_of_ne_nil hne
        refine ⟨before, c :: cs, rest, ds, ?_, hint, hn, hlong, ?_, hends, ts, ?_⟩
        · rw [htext, List.append_assoc]
        · exact hlexed.last_of_word (hword c List.mem_cons_self)
        · rw [lex_eq_ok_iff, String.toList_ofList, lexFrom_eq_ok_iff]
          exact hlexed.alone
  · rintro ⟨before, word, rest, ds, htext, hint, hn, hlong, hlast, hends, ts, hts⟩
    rw [lex_eq_ok_iff, String.toList_ofList, lexFrom_eq_ok_iff] at hts
    have hne : word ≠ [] := by
      rintro rfl
      obtain ⟨-, us, ls, heq, -⟩ := hint
      obtain rfl := (List.append_eq_nil_iff.mp (List.append_eq_nil_iff.mp heq.symm).1).1
      subst hn
      exact absurd hlong (by decide)
    obtain ⟨c, cs, rfl⟩ := List.exists_cons_of_ne_nil hne
    have hc := hint.isWordChar c List.mem_cons_self
    refine ⟨before, c :: cs ++ rest, ts, by rw [htext, List.append_assoc], ?_,
      .word hne hint.isWordChar hends (ofWord_eq_tooLong_iff.mpr ⟨ds, hint, hn, hlong⟩)⟩
    refine hts.followed fun d hd => ⟨fun hword => ?_, pairOperator?_word d hc⟩
    rw [hlast d hd] at hword
    cases hword

/-- **What stops the reading of tokens**: a lexical fault, which is shown in the text, or a long integer. -/
theorem lex_eq_error {text : String} {f : Failure} (h : lex text = .error f) :
    (∃ r, f = .rejected r ∧ r.fault.stage = .lexical ∧ r.condition = some text)
      ∨ ∃ n, f = .numeralTooLong n ∧ MeetsLongInteger n text := by
  cases f with
  | rejected r =>
      obtain ⟨g, hg, rfl⟩ := lex_eq_rejected_iff.mp h
      obtain ⟨before, rest, ts, -, -, hfault⟩ := lexFrom_eq_error_iff.mp hg
      exact .inl ⟨_, rfl, hfault.stage, rfl⟩
  | numeralTooLong n => exact .inr ⟨n, rfl, lex_eq_tooLong_iff.mp h⟩

end HashIf.Token
