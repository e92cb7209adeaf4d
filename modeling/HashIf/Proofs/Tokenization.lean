import HashIf.Proofs.TextPlaces

/-!
# `HashIf.Proofs.Tokenization`: the tokens of a text are its only tokenization

A tokenization says what the tokens of a text have to be, without a scanner: they stand in the order of the
text with nothing but white space between them, each is what stands at its offset, words are as long as
possible, so are operators, and the token in front of a sign tells whether it is unary.  It is said of the
first `n` characters, so that it also tells how far a text can be read.

One more lexeme at the end takes a tokenization to a longer one, and every tokenization ends with a lexeme
or is empty.  So tokenizations are rows of lexemes, and the lexer is related to those already.

## Contents
- `Denotes`, `Longest`, `SignPlaced`: what a token says of the text and of the token before it.
- `Lexeme.denotes`, `Denotes.lexeme`: tokens and lexemes.
- `Tokenization`, with `blank`, `snoc` and `unsnoc` for one more character or token.
- `tokenization_iff_lexed`: tokenizations are rows of lexemes.
- `BadAt`, `LongIntegerAt`: the places where no token can be read.
- `lex_maximal_munch`: the lexer computes the tokenization.
-/

namespace HashIf.Token

/-! ## What a token says of the text -/

/-- What stands in the text at the offset of a token is what the token says: a bracket, the symbol of an
    operator, a word that is a name, or a word that is a numeral. -/
def Denotes (text : List Char) : Token → Prop
  | .bracket p opening => StandsAt text p [if opening then '(' else ')']
  | .operator p op => StandsAt text p op.symbolChars
  | .name p s => WordAt text p s.toList ∧ ¬ StartsWithDigit s.toList ∧ '.' ∉ s.toList
  | .number p n v => ∃ word, WordAt text p word ∧ word.length = n ∧ StartsWithDigit word ∧ NumeralWord word v

/-- No operator of two characters stands where the token is another operator. -/
def Longest (text : List Char) : Token → Prop
  | .operator p op => ∀ op' : Operator, op'.symbolChars.length = 2 → StandsAt text p op'.symbolChars →
      op' = op
  | _ => True

/-- A sign is unary exactly where an operand is expected. -/
def SignPlaced (previous : Option Token) : Token → Prop
  | .operator _ op => op.symbolChars = ['+'] ∨ op.symbolChars = ['-'] →
      (op.isUnary = true ↔ OperandExpected previous)
  | _ => True

/-! ## Lexemes and their tokens -/

/-- A token is never empty. -/
theorem Denotes.length_pos {text : List Char} {t : Token} (h : Denotes text t) : 0 < t.length := by
  cases t with
  | bracket p opening => exact Nat.one_pos
  | operator p op => exact op.symbolChars_length_pos
  | name p s =>
      have hlen := List.length_pos_iff.mpr h.1.ne_nil
      rwa [String.length_toList] at hlen
  | number p n v =>
      obtain ⟨word, hword, rfl, -⟩ := h
      exact List.length_pos_iff.mpr hword.ne_nil

/-- **The token of a lexeme says what stands in the text.** -/
theorem Lexeme.denotes {before cs rest : List Char} {previous : Option Token} {t : Token}
    (h : Lexeme before.length previous cs rest.head? (some t))
    (hleft : ∀ d ∈ cs.head?, isWordChar d = true → ∀ c ∈ before.getLast?, isWordChar c = false) :
    t.pos = before.length ∧ t.length = cs.length ∧ Denotes (before ++ cs ++ rest) t
      ∧ Longest (before ++ cs ++ rest) t ∧ SignPlaced previous t := by
  have hstands := standsAt_append before cs rest
  cases h with
  | opening => exact ⟨rfl, rfl, hstands, trivial, trivial⟩
  | closing => exact ⟨rfl, rfl, hstands, trivial, trivial⟩
  | word hne hword hends ht =>
      have hat : WordAt (before ++ cs ++ rest) before.length cs := by
        refine wordAt_append_iff.mpr ⟨hne, hword, ?_, hends⟩
        exact hleft _ (List.head?_eq_some_head hne) (hword _ (List.head_mem hne))
      rcases ofWord_eq_ok_iff.mp ht with ⟨hdigit, v, hv, rfl⟩ | ⟨hdigit, hpoint, rfl⟩
      · exact ⟨rfl, rfl, ⟨cs, hat, rfl, hdigit, hv⟩, trivial, trivial⟩
      · refine ⟨rfl, String.length_ofList, ?_, trivial, trivial⟩
        simp only [Denotes, String.toList_ofList]
        exact ⟨hat, hdigit, hpoint⟩
  | @operator op c tail _ hsymbol hop =>
      rw [operatorAt?_head?] at hop
      obtain ⟨hlongest, hsign⟩ := (operatorAt?_eq_some_iff hsymbol).mp hop
      refine ⟨rfl, congrArg List.length hsymbol, ?_, ?_, hsign⟩
      · show StandsAt _ _ op.symbolChars
        rw [hsymbol]
        exact hstands
      · intro op' hlen hstands'
        refine hlongest op' hlen ?_
        rw [StandsAt, List.append_assoc, List.drop_left] at hstands'
        exact hstands'

/-- **What a token says of the text makes it a lexeme there.** -/
theorem Denotes.lexeme {text : List Char} {previous : Option Token} {t : Token} (h : Denotes text t)
    (hlongest : Longest text t) (hsign : SignPlaced previous t) :
    ∃ before cs rest, text = before ++ cs ++ rest ∧ before.length = t.pos ∧ cs.length = t.length
      ∧ Lexeme t.pos previous cs rest.head? (some t) := by
  cases t with
  | bracket p opening =>
      obtain ⟨before, rest, htext, hp⟩ := StandsAt.split h (List.cons_ne_nil _ _)
      refine ⟨before, _, rest, htext, hp, rfl, ?_⟩
      cases opening with
      | true => exact .opening
      | false => exact .closing
  | operator p op =>
      have hne := List.length_pos_iff.mp op.symbolChars_length_pos
      obtain ⟨c, tail, hsymbol⟩ := List.exists_cons_of_ne_nil hne
      obtain ⟨before, rest, rfl, rfl⟩ := StandsAt.split h hne
      refine ⟨before, _, rest, rfl, rfl, rfl, ?_⟩
      have hop : operatorAt? previous c (tail ++ rest) = some op := by
        refine (operatorAt?_eq_some_iff hsymbol).mpr ⟨fun op' hlen hpre => ?_, hsign⟩
        refine hlongest op' hlen ?_
        rw [StandsAt, List.append_assoc, List.drop_left, hsymbol]
        exact hpre
      rw [← operatorAt?_head?] at hop
      rw [hsymbol]
      exact .operator hsymbol hop
  | name p s =>
      obtain ⟨hat, hdigit, hpoint⟩ := h
      obtain ⟨before, rest, rfl, rfl⟩ := hat.stands.split hat.ne_nil
      obtain ⟨hne, hword, -, hends⟩ := wordAt_append_iff.mp hat
      refine ⟨before, _, rest, rfl, rfl, String.length_toList, .word hne hword hends ?_⟩
      refine ofWord_eq_ok_iff.mpr (.inr ⟨hdigit, hpoint, ?_⟩)
      rw [String.ofList_toList]
      rfl
  | number p n v =>
      obtain ⟨word, hat, rfl, hdigit, hv⟩ := h
      obtain ⟨before, rest, rfl, rfl⟩ := hat.stands.split hat.ne_nil
      obtain ⟨hne, hword, -, hends⟩ := wordAt_append_iff.mp hat
      refine ⟨before, _, rest, rfl, rfl, rfl, .word hne hword hends ?_⟩
      exact ofWord_eq_ok_iff.mpr (.inl ⟨hdigit, v, hv, rfl⟩)

/-! ## Tokenizations -/

/-- The tokens are a tokenization of the first `n` characters of the text. -/
structure Tokenization (text : List Char) (n : Nat) (ts : List Token) : Prop where
  /-- The tokens stand in the order of the text and do not overlap. -/
  ordered : ts.Pairwise fun t u => t.endPos ≤ u.pos
  within : ∀ t ∈ ts, t.endPos ≤ n
  /-- What is in no token is white space. -/
  gaps : ∀ i c, i < n → text[i]? = some c → (∀ t ∈ ts, ¬ (t.pos ≤ i ∧ i < t.endPos)) →
    Text.isBlank c = true
  denotes : ∀ t ∈ ts, Denotes text t
  longest : ∀ t ∈ ts, Longest text t
  /-- Whether a sign is unary is decided by the token before it. -/
  signs : ∀ us t vs, ts = us ++ t :: vs → SignPlaced us.getLast? t

namespace Tokenization

variable {text : List Char} {n : Nat} {ts : List Token}

theorem nil (text : List Char) : Tokenization text 0 [] where
  ordered := .nil
  within := by simp
  gaps := by simp
  denotes := by simp
  longest := by simp
  signs := by simp

/-- **One more blank.** -/
theorem blank (h : Tokenization text n ts) {c : Char} (hc : text[n]? = some c)
    (hblank : Text.isBlank c = true) : Tokenization text (n + 1) ts where
  ordered := h.ordered
  within t ht := Nat.le_succ_of_le (h.within t ht)
  gaps i d hi hd hout := by
    by_cases hin : i = n
    · subst hin
      rw [hc] at hd
      cases hd
      exact hblank
    · exact h.gaps i d (by omega) hd hout
  denotes := h.denotes
  longest := h.longest
  signs := h.signs

/-- **One more token.** -/
theorem snoc (h : Tokenization text n ts) {t : Token} (hpos : t.pos = n) (hdenotes : Denotes text t)
    (hlongest : Longest text t) (hsign : SignPlaced ts.getLast? t) :
    Tokenization text t.endPos (ts ++ [t]) where
  ordered := by
    rw [List.pairwise_append]
    refine ⟨h.ordered, List.pairwise_singleton _ _, fun u hu v hv => ?_⟩
    rw [List.mem_singleton.mp hv, hpos]
    exact h.within u hu
  within := by
    rw [List.forall_mem_append]
    refine ⟨fun u hu => ?_, by simp⟩
    have hle := h.within u hu
    unfold endPos at hle ⊢
    omega
  gaps i c hi hc hout := by
    obtain ⟨hts, ht⟩ := List.forall_mem_append.mp hout
    by_cases hin : i < n
    · exact h.gaps i c hin hc hts
    · exact absurd ⟨by omega, hi⟩ (ht t List.mem_cons_self)
  denotes := List.forall_mem_append.mpr ⟨h.denotes, by simpa using hdenotes⟩
  longest := List.forall_mem_append.mpr ⟨h.longest, by simpa using hlongest⟩
  signs us u vs heq := by
    rcases List.eq_nil_or_concat vs with rfl | ⟨vs, v, rfl⟩
    · obtain ⟨rfl, hu⟩ := List.append_inj' heq rfl
      cases hu
      exact hsign
    · rw [List.concat_eq_append, ← List.cons_append, ← List.append_assoc] at heq
      exact h.signs us u vs (List.append_inj' heq rfl).1

/-- **The last character of a text is a blank or the end of the last token.** -/
theorem unsnoc (h : Tokenization text (n + 1) ts) {c : Char} (hc : text[n]? = some c) :
    (Text.isBlank c = true ∧ Tokenization text n ts)
      ∨ ∃ us t, ts = us ++ [t] ∧ t.endPos = n + 1 ∧ Tokenization text t.pos us := by
  by_cases hcovered : ∃ t ∈ ts, t.pos ≤ n ∧ n < t.endPos
  · obtain ⟨t, ht, hle, hlt⟩ := hcovered
    obtain ⟨us, vs, rfl⟩ := List.append_of_mem ht
    have hend : t.endPos = n + 1 := by
      have := h.within t ht
      omega
    obtain ⟨hus, hvs, hacross⟩ := List.pairwise_append.mp h.ordered
    -- A token behind `t` would have to be empty.
    have hnil : vs = [] := by
      rw [List.eq_nil_iff_forall_not_mem]
      intro v hv
      have hmem : v ∈ us ++ t :: vs := List.mem_append_right _ (List.mem_cons_of_mem _ hv)
      have hpos := (h.denotes v hmem).length_pos
      have hbehind := (List.pairwise_cons.mp hvs).1 v hv
      have hwithin := h.within v hmem
      unfold endPos at hwithin
      omega
    subst hnil
    refine .inr ⟨us, t, rfl, hend, ?_⟩
    refine ⟨hus, fun u hu => hacross u hu t List.mem_cons_self, fun i d hi hd hout => ?_,
      (List.forall_mem_append.mp h.denotes).1, (List.forall_mem_append.mp h.longest).1, ?_⟩
    · refine h.gaps i d (by omega) hd (List.forall_mem_append.mpr ⟨hout, ?_⟩)
      simp only [List.mem_singleton, forall_eq]
      omega
    · intro us' u vs' heq
      refine h.signs us' u (vs' ++ [t]) ?_
      rw [heq, List.append_assoc, List.cons_append]
  · have hout : ∀ t ∈ ts, ¬ (t.pos ≤ n ∧ n < t.endPos) := fun t ht hin => hcovered ⟨t, ht, hin⟩
    refine .inl ⟨h.gaps n c (Nat.lt_succ_self n) hc hout, h.ordered, fun t ht => ?_,
      fun i d hi => h.gaps i d (by omega), h.denotes, h.longest, h.signs⟩
    have hpos := (h.denotes t ht).length_pos
    have hwithin := h.within t ht
    have hnot := hout t ht
    unfold endPos at hwithin hnot ⊢
    omega

end Tokenization

/-! ## Tokenizations and lexemes -/

/-- One more lexeme behind a text cut into lexemes. -/
theorem Lexed.snoc {after : Option Char} {pos : Nat} {previous t : Option Token} {cs lexeme : List Char}
    {ts : List Token} (h : Lexed lexeme.head? pos previous cs ts)
    (hlexeme : Lexeme (pos + cs.length) (ts.getLast?.or previous) lexeme after t) :
    Lexed after pos previous (cs ++ lexeme) (ts ++ t.toList) := by
  induction h with
  | nil pos previous =>
      have hone := @Lexed.cons after pos previous t lexeme [] [] hlexeme (.nil _ _)
      rwa [List.append_nil, List.append_nil] at hone
  | @cons pos previous u first rest us hfirst _ ih =>
      rw [List.append_assoc, List.append_assoc]
      rw [List.length_append, ← Nat.add_assoc, getLast?_toList_append] at hlexeme
      refine .cons ?_ (ih hlexeme)
      have hhead : ((rest ++ lexeme).head?).or after = rest.head?.or lexeme.head? := by
        rw [List.head?_append, List.head?_eq_some_head hlexeme.ne_nil]
        cases rest <;> rfl
      rw [hhead]
      exact hfirst

/-- A text cut into lexemes has the tokenization of their tokens, behind any tokenization of what stands in
    front of it. -/
theorem Lexed.tokenization {after : Option Char} {pos : Nat} {previous : Option Token}
    {cs : List Char} {ts : List Token} (h : Lexed after pos previous cs ts) :
    ∀ {before rest : List Char} {us : List Token}, before.length = pos → us.getLast? = previous →
      rest.head? = after →
      (∀ d ∈ (cs ++ rest).head?, isWordChar d = true → ∀ c ∈ before.getLast?, isWordChar c = false) →
      Tokenization (before ++ cs ++ rest) pos us →
      Tokenization (before ++ cs ++ rest) (pos + cs.length) (us ++ ts) := by
  induction h with
  | nil pos previous =>
      intro before rest us _ _ _ _ hbefore
      rw [List.append_nil us]
      exact hbefore
  | @cons pos previous t lexeme cs ts hlexeme _ ih =>
      rintro before rest us rfl rfl rfl hleft hbefore
      rw [← List.head?_append] at hlexeme
      have htext : before ++ (lexeme ++ cs) ++ rest = (before ++ lexeme) ++ cs ++ rest := by
        simp only [List.append_assoc]
      have hfirst : ∀ d ∈ lexeme.head?, isWordChar d = true →
          ∀ c ∈ before.getLast?, isWordChar c = false := by
        intro d hd
        refine hleft d ?_
        rw [List.append_assoc, List.head?_append, Option.mem_def.mp hd]
        rfl
      -- The lexeme does not end with a character of words in front of another one.
      have hseam : ∀ d ∈ (cs ++ rest).head?, isWordChar d = true →
          ∀ c ∈ (before ++ lexeme).getLast?, isWordChar c = false := by
        intro d hd hword c hc
        rw [List.getLast?_append, List.getLast?_eq_some_getLast hlexeme.ne_nil] at hc
        cases hc
        rw [Option.mem_def.mp hd] at hlexeme
        exact hlexeme.last_of_word hword _ (List.getLast_mem hlexeme.ne_nil)
      rw [htext] at hbefore ⊢
      rw [List.length_append, ← Nat.add_assoc, ← List.append_assoc]
      refine ih List.length_append ?_ rfl hseam ?_
      · rw [List.getLast?_append]
        cases t <;> rfl
      · rw [List.append_assoc (before ++ lexeme)] at hbefore ⊢
        cases t with
        | none =>
            cases hlexeme with
            | @blank c _ hblank =>
                rw [Option.toList_none, List.append_nil]
                refine hbefore.blank ?_ hblank
                simp
        | some t =>
            obtain ⟨hpos, hlen, hdenotes, hlongest, hsign⟩ := hlexeme.denotes hfirst
            have hend : t.endPos = before.length + lexeme.length := by
              unfold endPos
              rw [hpos, hlen]
            rw [← hend]
            exact hbefore.snoc hpos hdenotes hlongest hsign

/-- The other way round, a tokenization cuts the text into lexemes.  The induction takes them off from the
    end. -/
theorem Tokenization.lexed {text : List Char} {n : Nat} {ts : List Token} (h : Tokenization text n ts)
    (hn : n ≤ text.length) : Lexed text[n]? 0 none (text.take n) ts := by
  induction n using Nat.strong_induction_on generalizing ts with
  | _ n ih =>
      cases n with
      | zero =>
          have hnil : ts = [] := by
            rw [List.eq_nil_iff_forall_not_mem]
            intro t ht
            have hpos := (h.denotes t ht).length_pos
            have hwithin := h.within t ht
            unfold endPos at hwithin
            omega
          rw [hnil, List.take_zero]
          exact .nil 0 none
      | succ n =>
          have hc : text[n]? = some text[n] := List.getElem?_eq_getElem (by omega)
          rcases h.unsnoc hc with ⟨hblank, hinit⟩ | ⟨us, t, rfl, hend, hinit⟩
          · have hlexed := ih n (Nat.lt_succ_self n) hinit (by omega)
            rw [hc] at hlexed
            have hone : Lexed text[n + 1]? 0 none (text.take n ++ [text[n]]) (ts ++ []) :=
              @Lexed.snoc text[n + 1]? 0 none none (text.take n) [text[n]] ts hlexed (.blank hblank)
            rw [List.append_nil] at hone
            rw [List.take_add_one, hc]
            exact hone
          · have hmem : t ∈ us ++ [t] := List.mem_append_right _ List.mem_cons_self
            have hpos := (h.denotes t hmem).length_pos
            obtain ⟨before, cs, rest, rfl, hbefore, hlen, hlexeme⟩ :=
              (h.denotes t hmem).lexeme (h.longest t hmem) (h.signs us t [] rfl)
            unfold endPos at hend
            have hlexed := ih t.pos (by omega) hinit (by omega)
            have hn' : n + 1 = (before ++ cs).length := by
              rw [List.length_append]
              omega
            have hafter : (before ++ cs ++ rest)[n + 1]? = rest.head? := by
              rw [hn', List.getElem?_append_right (Nat.le_refl _), Nat.sub_self, List.head?_eq_getElem?]
            have hhead : (before ++ cs ++ rest)[t.pos]? = cs.head? := by
              rw [List.append_assoc, List.getElem?_append_right (by omega), hbefore, Nat.sub_self,
                ← List.head?_eq_getElem?, List.head?_append, List.head?_eq_some_head hlexeme.ne_nil]
              rfl
            rw [hhead, List.append_assoc, List.take_left' hbefore] at hlexed
            rw [hafter, hn', List.take_left]
            refine hlexed.snoc (t := some t) ?_
            rw [Nat.zero_add, hbefore, Option.or_none]
            exact hlexeme

/-- **A tokenization is a row of lexemes.** -/
theorem tokenization_iff_lexed {before rest : List Char} {ts : List Token} :
    Tokenization (before ++ rest) before.length ts ↔ Lexed rest.head? 0 none before ts := by
  constructor
  · intro h
    have hlexed := h.lexed (by rw [List.length_append]; omega)
    rw [List.take_left, List.getElem?_append_right (Nat.le_refl _), Nat.sub_self,
      ← List.head?_eq_getElem?] at hlexed
    exact hlexed
  · intro h
    have htokens := @Lexed.tokenization _ _ _ _ _ h [] rest [] rfl rfl rfl
      (fun _ _ _ c hc => by cases hc) (.nil _)
    rwa [List.nil_append, List.nil_append, Nat.zero_add] at htokens

/-! ## Where no token can be read -/

/-- At offset `n` of the text no token can be read: `fault` says why, and `k` is the offset to mark. -/
inductive BadAt (text : List Char) (n : Nat) : Fault → Nat → Prop where
  /-- A word that starts with a digit and is no numeral. -/
  | numeral {word : List Char} (hword : WordAt text n word) (hdigit : StartsWithDigit word)
      (hnone : ∀ v, ¬ NumeralWord word v)
      (hshort : ∀ ds, IntegerWord ds word → ds.length ≤ Number.digitLimit) :
      BadAt text n (.badLiteral (String.ofList word)) n
  /-- Any other word with a point in it; its first point is marked. -/
  | name {front rest : List Char} (hword : WordAt text n (front ++ '.' :: rest))
      (hdigit : ¬ StartsWithDigit (front ++ '.' :: rest)) (hfirst : '.' ∉ front) :
      BadAt text n .pointInName (n + front.length)
  /-- A character that belongs to no word and begins no operator, and is neither blank nor a bracket. -/
  | character {c : Char} (hc : text[n]? = some c) (hblank : Text.isBlank c = false)
      (hbracket : c ≠ '(' ∧ c ≠ ')') (hword : isWordChar c = false)
      (hop : ∀ op : Operator, ¬ StandsAt text n op.symbolChars) : BadAt text n (.invalidCharacter c) n

/-- At offset `n` of the text stands an integer that has too many digits. -/
def LongIntegerAt (text : List Char) (n digits : Nat) : Prop :=
  ∃ word ds, WordAt text n word ∧ IntegerWord ds word ∧ digits = ds.length ∧ Number.digitLimit < digits

section

variable {before rest : List Char} {previous : Option Token} {ts : List Token}

/-- A word behind a text cut into lexemes is a whole word. -/
theorem Lexed.wordAt {word : List Char} (h : Lexed (word ++ rest).head? 0 none before ts)
    (hne : word ≠ []) (hword : ∀ c ∈ word, isWordChar c = true) (hends : Ends rest) :
    WordAt (before ++ (word ++ rest)) before.length word := by
  rw [← List.append_assoc]
  refine wordAt_append_iff.mpr ⟨hne, hword, ?_, hends⟩
  rw [List.head?_append, List.head?_eq_some_head hne] at h
  exact h.last_of_word (hword _ (List.head_mem hne))

/-- A word behind a piece of the text is at the head of the rest. -/
theorem WordAt.behind {word : List Char} (h : WordAt (before ++ rest) before.length word) :
    ∃ rest', rest = word ++ rest' ∧ Ends rest' := by
  obtain ⟨before', rest', htext, hlen⟩ := h.stands.split h.ne_nil
  rw [List.append_assoc] at htext
  obtain ⟨rfl, rfl⟩ := List.append_inj htext hlen.symm
  rw [← List.append_assoc] at h
  exact ⟨rest', rfl, (wordAt_append_iff.mp h).2.2.2⟩

/-- **A lexical fault is where no token can be read.** -/
theorem faultAt_located_iff (hlexed : Lexed rest.head? 0 none before ts) {f : LocatedFault} :
    FaultAt before.length previous rest (.located f)
      ↔ ∃ fault k, BadAt (before ++ rest) before.length fault k ∧ f = ⟨fault, some (k : Int)⟩ := by
  constructor
  · intro h
    cases h with
    | @word word rest _ hne hword hends hf =>
        have hat := hlexed.wordAt hne hword hends
        rcases ofWord_eq_located_iff.mp hf with
          ⟨hdigit, hnone, hshort, rfl⟩ | ⟨hdigit, front, rest, rfl, hfirst, rfl⟩
        · exact ⟨_, _, .numeral hat hdigit hnone hshort, rfl⟩
        · exact ⟨_, _, .name hat hdigit hfirst, rfl⟩
    | @character c rest hblank hbracket hword hop =>
        rw [Bool.or_eq_false_iff, beq_eq_false_iff_ne, beq_eq_false_iff_ne] at hbracket
        refine ⟨_, _, .character ?_ hblank hbracket hword fun op hstands => ?_, rfl⟩
        · simp
        · rw [StandsAt, List.drop_left] at hstands
          exact operatorAt?_eq_none_iff.mp hop op hstands
  · rintro ⟨fault, k, hbad, rfl⟩
    cases hbad with
    | numeral hword hdigit hnone hshort =>
        obtain ⟨rest', rfl, hends⟩ := hword.behind
        refine .word hword.ne_nil hword.chars hends ?_
        exact ofWord_eq_located_iff.mpr (.inl ⟨hdigit, hnone, hshort, rfl⟩)
    | name hword hdigit hfirst =>
        obtain ⟨rest', rfl, hends⟩ := hword.behind
        refine .word hword.ne_nil hword.chars hends ?_
        exact ofWord_eq_located_iff.mpr (.inr ⟨hdigit, _, _, rfl, hfirst, rfl⟩)
    | @character c hc hblank hbracket hword hop =>
        rw [List.getElem?_append_right (Nat.le_refl _), Nat.sub_self, ← List.head?_eq_getElem?] at hc
        obtain ⟨rest', rfl⟩ := List.head?_eq_some_iff.mp hc
        refine .character hblank ?_ hword ?_
        · rw [Bool.or_eq_false_iff, beq_eq_false_iff_ne, beq_eq_false_iff_ne]
          exact hbracket
        · refine operatorAt?_eq_none_iff.mpr fun op hpre => hop op ?_
          rw [StandsAt, List.drop_left]
          exact hpre

/-- **A long integer is where the reading ends without a fault.** -/
theorem faultAt_tooLong_iff (hlexed : Lexed rest.head? 0 none before ts) {digits : Nat} :
    FaultAt before.length previous rest (.numeralTooLong digits)
      ↔ LongIntegerAt (before ++ rest) before.length digits := by
  constructor
  · intro h
    cases h with
    | @word word rest _ hne hword hends hf =>
        obtain ⟨ds, hds, hn, hlong⟩ := ofWord_eq_tooLong_iff.mp hf
        exact ⟨word, ds, hlexed.wordAt hne hword hends, hds, hn, hlong⟩
  · rintro ⟨word, ds, hword, hds, hn, hlong⟩
    obtain ⟨rest', rfl, hends⟩ := hword.behind
    refine .word hword.ne_nil hword.chars hends ?_
    exact ofWord_eq_tooLong_iff.mpr ⟨ds, hds, hn, hlong⟩

end

/-! ## The lexer -/

/-- A tokenization cuts off the piece of the text that it is about. -/
theorem Tokenization.split {text : List Char} {n : Nat} {ts : List Token} (h : Tokenization text n ts)
    (hn : n ≤ text.length) :
    ∃ before rest, text = before ++ rest ∧ before.length = n ∧ Lexed rest.head? 0 none before ts := by
  have hlen : (text.take n).length = n := List.length_take_of_le hn
  refine ⟨text.take n, text.drop n, (List.take_append_drop n text).symm, hlen, ?_⟩
  rw [← tokenization_iff_lexed, List.take_append_drop, hlen]
  exact h

theorem WordAt.le_length {text word : List Char} {n : Nat} (h : WordAt text n word) :
    n + word.length ≤ text.length := by
  obtain ⟨before, rest, rfl, rfl⟩ := h.stands.split h.ne_nil
  simp only [List.length_append]
  omega

theorem WordAt.lt_length {text word : List Char} {n : Nat} (h : WordAt text n word) : n < text.length := by
  have hpos := List.length_pos_iff.mpr h.ne_nil
  have hle := h.le_length
  omega

/-- What is marked is a character of the text, at the place where no token can be read or behind it. -/
theorem BadAt.marker {text : List Char} {n k : Nat} {fault : Fault} (h : BadAt text n fault k) :
    n ≤ k ∧ k < text.length := by
  cases h with
  | numeral hword => exact ⟨Nat.le_refl n, hword.lt_length⟩
  | name hword =>
      have hle := hword.le_length
      rw [List.length_append, List.length_cons] at hle
      omega
  | character hc => exact ⟨Nat.le_refl n, (List.getElem?_eq_some_iff.mp hc).1⟩

/-- The tokens of a text are its tokenization. -/
theorem lex_eq_ok_iff_tokenization {text : String} {ts : List Token} :
    lex text = .ok ts ↔ Tokenization text.toList text.length ts := by
  have h := @tokenization_iff_lexed text.toList [] ts
  rw [List.append_nil, String.length_toList] at h
  rw [lex_eq_ok_iff, lexFrom_eq_ok_iff, h]
  rfl

/-- Reading ends with a lexical fault where the tokenization of a piece of the text cannot go on. -/
theorem lex_eq_rejected_iff_tokenization {text : String} {r : Rejection} :
    lex text = .error (.rejected r)
      ↔ ∃ n us fault k, Tokenization text.toList n us ∧ BadAt text.toList n fault k
        ∧ r = ⟨fault, some text, [(k : Int)]⟩ := by
  rw [lex_eq_rejected_iff]
  constructor
  · rintro ⟨f, hf, rfl⟩
    obtain ⟨before, rest, us, htext, hlexed, hfault⟩ := lexFrom_eq_error_iff.mp hf
    rw [Nat.zero_add] at hfault
    obtain ⟨fault, k, hbad, rfl⟩ := (faultAt_located_iff hlexed).mp hfault
    rw [htext]
    exact ⟨_, us, fault, k, tokenization_iff_lexed.mpr hlexed, hbad, rfl⟩
  · rintro ⟨n, us, fault, k, htokens, hbad, rfl⟩
    obtain ⟨hle, hlt⟩ := hbad.marker
    obtain ⟨before, rest, htext, rfl, hlexed⟩ := htokens.split (hle.trans hlt.le)
    refine ⟨⟨fault, some (k : Int)⟩, ?_, rfl⟩
    rw [htext] at hbad
    refine lexFrom_eq_error_iff.mpr ⟨before, rest, us, htext, hlexed, ?_⟩
    rw [Nat.zero_add]
    exact (faultAt_located_iff hlexed).mpr ⟨fault, k, hbad, rfl⟩

/-- The same for long integers. -/
theorem lex_eq_tooLong_iff_tokenization {text : String} {digits : Nat} :
    lex text = .error (.numeralTooLong digits)
      ↔ ∃ n us, Tokenization text.toList n us ∧ LongIntegerAt text.toList n digits := by
  rw [lex_eq_numeralTooLong_iff, lexFrom_eq_error_iff]
  constructor
  · rintro ⟨before, rest, us, htext, hlexed, hfault⟩
    rw [Nat.zero_add] at hfault
    rw [htext]
    exact ⟨_, us, tokenization_iff_lexed.mpr hlexed, (faultAt_tooLong_iff hlexed).mp hfault⟩
  · rintro ⟨n, us, htokens, hlong⟩
    obtain ⟨word, -, hword, -⟩ := id hlong
    obtain ⟨before, rest, htext, rfl, hlexed⟩ := htokens.split hword.lt_length.le
    rw [htext] at hlong
    refine ⟨before, rest, us, htext, hlexed, ?_⟩
    rw [Nat.zero_add]
    exact (faultAt_tooLong_iff hlexed).mpr hlong

/-- **The lexer computes the tokenization of a text**, for every text: the tokens that it returns are the
    only ones that cut the whole text.  If there are none, the text is cut up to the first place where no
    token can be read, and the failure is that of the word or character there, with its offset. -/
theorem lex_maximal_munch (text : String) :
    (∀ ts, lex text = .ok ts ↔ Tokenization text.toList text.length ts)
      ∧ (∀ r, lex text = .error (.rejected r)
          ↔ ∃ n us fault k, Tokenization text.toList n us ∧ BadAt text.toList n fault k
            ∧ r = ⟨fault, some text, [(k : Int)]⟩)
      ∧ (∀ digits, lex text = .error (.numeralTooLong digits)
          ↔ ∃ n us, Tokenization text.toList n us ∧ LongIntegerAt text.toList n digits)
      ∧ ((¬ ∃ ts, Tokenization text.toList text.length ts) ↔ ∃ failure, lex text = .error failure) := by
  refine ⟨fun ts => lex_eq_ok_iff_tokenization, fun r => lex_eq_rejected_iff_tokenization,
    fun digits => lex_eq_tooLong_iff_tokenization, ?_⟩
  simp only [← lex_eq_ok_iff_tokenization]
  cases lex text <;> simp

/-- Of three `&` the first two are one operator, and the sign behind an operator is unary. -/
example : lex "a&&&-b" = .ok [.name 0 "a", .operator 1 .boolAnd, .operator 3 .bitAnd, .operator 4 .minus,
    .name 5 "b"] := by
  cbv

end HashIf.Token
