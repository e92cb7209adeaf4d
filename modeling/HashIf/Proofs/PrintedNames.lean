import HashIf.Proofs.Abstraction
import HashIf.Proofs.NeededBrackets
import HashIf.Proofs.Runs

/-!
# `HashIf.Proofs.PrintedNames`: the variables of a condition as lines

The variables of a condition are listed in ascending order, each of them once, and every name is printed on a line
of its own.  The terminal folds what it prints: a name of more columns than the terminal has goes on in the
next row.  So the lines are the names if none of them is too long, and otherwise they are not: a name that is too
long is not among the lines at all.

That nothing but the length counts is due to what names are made of.  Every reading gives a formula that can be
written back, so its variables are identifiers, those included that are made up for comparisons and modules.
They hold neither spaces, at which the terminal would fold first, nor line feeds.

## Contents
- `Console.Folded`, `Console.folded_chop`, `Console.wrap_word`: what folding makes of a word.
- `Condition.StrictOf.writable`, `Condition.writable_of_interpret`: readings give formulas that can be written.
- `Command.shown_runNames`: the rows that a run prints for the names.
- `Command.textOf_rows_eq_iff`, `Command.names_on_lines_iff`: when the rows are the names.
-/

namespace HashIf

namespace Console

/-! ## Folding of words -/

/-- The rows that a word is folded into: all but the last one are full, and the last one is not empty unless the
    word is. -/
inductive Folded (width : Nat) : List Char → List (List Char) → Prop where
  | fits {cs : List Char} (h : cs.length ≤ width) : Folded width cs [cs]
  | full {row rest : List Char} {rows : List (List Char)} (hrow : row.length = width) (hne : rest ≠ [])
      (h : Folded width rest rows) : Folded width (row ++ rest) (row :: rows)

namespace Folded

variable {width : Nat} {cs : List Char} {rows : List (List Char)}

/-- No row is longer than the width. -/
theorem length_le (h : Folded width cs rows) : ∀ row ∈ rows, row.length ≤ width := by
  induction h with
  | fits h => simpa using h
  | full hrow _ _ ih => exact List.forall_mem_cons.mpr ⟨hrow.le, ih⟩

/-- The rows hold the characters of the word and no others. -/
theorem flatten_eq (h : Folded width cs rows) : rows.flatten = cs := by
  induction h with
  | fits h => simp
  | full _ _ _ ih => rw [List.flatten_cons, ih]

/-- A word of at most the width is a row of its own. -/
theorem eq_singleton (h : Folded width cs rows) (hcs : cs.length ≤ width) : rows = [cs] := by
  cases h with
  | fits => rfl
  | full hrow hne _ =>
      have hpos := List.length_pos_iff.mpr hne
      rw [List.length_append] at hcs
      omega

end Folded

theorem chop_ne_nil (width room : Nat) (cs : List Char) : chop width room cs ≠ [] := by
  unfold chop
  split
  · exact List.cons_ne_nil _ _
  all_goals split <;> exact List.cons_ne_nil _ _

/-- What fits into the room is left in one piece. -/
theorem chop_fits (width : Nat) {room : Nat} {cs : List Char} (h : cs.length ≤ room) :
    chop width room cs = [cs] := by
  induction cs generalizing room with
  | nil => cases room <;> rfl
  | cons c cs ih =>
      cases room with
      | zero => cases h
      | succ k => rw [chop, ih (Nat.le_of_succ_le_succ h)]

/-- Of anything longer the room takes what it can, and the rest is cut on its own. -/
theorem chop_full {width : Nat} (hwidth : 0 < width) {room : Nat} {cs : List Char} (h : room < cs.length) :
    chop width room cs = cs.take room :: chop width width (cs.drop room) := by
  induction cs generalizing room with
  | nil => cases h
  | cons c cs ih =>
      cases room with
      | zero =>
          obtain ⟨k, rfl⟩ := Nat.exists_eq_add_one_of_ne_zero hwidth.ne'
          obtain ⟨p, ps, hchop⟩ := List.exists_cons_of_ne_nil (chop_ne_nil (k + 1) k cs)
          simp only [List.take_zero, List.drop_zero, chop, Nat.add_sub_cancel, hchop]
      | succ k =>
          rw [chop, ih (Nat.lt_of_succ_lt_succ h)]
          rfl

/-- **Cutting a word gives its rows.** -/
theorem folded_chop {width : Nat} (hwidth : 0 < width) (cs : List Char) :
    Folded width cs (chop width width cs) := by
  induction hn : cs.length using Nat.strong_induction_on generalizing cs with
  | _ n ih =>
      by_cases hfits : cs.length ≤ width
      · rw [chop_fits width hfits]
        exact .fits hfits
      · have hlong : width < cs.length := Nat.lt_of_not_le hfits
        have hdrop : (cs.drop width).length = cs.length - width := List.length_drop
        have hrest : Folded width (cs.drop width) (chop width width (cs.drop width)) :=
          ih _ (by omega) _ rfl
        have hne : cs.drop width ≠ [] := List.length_pos_iff.mp (by omega)
        have hfolded := Folded.full (List.length_take_of_le hlong.le) hne hrest
        rwa [List.take_append_drop, ← chop_full hwidth hlong] at hfolded

/-- A text without spaces is one word. -/
theorem wordsOf_word {cs : List Char} (hne : cs ≠ []) (h : ' ' ∉ cs) : wordsOf cs = [cs] := by
  induction cs with
  | nil => exact absurd rfl hne
  | cons c cs ih =>
      rw [List.mem_cons, not_or] at h
      rw [wordsOf]
      cases cs with
      | nil => rfl
      | cons d ds =>
          rw [ih (List.cons_ne_nil _ _) h.2]
          simp [Ne.symm h.1]

theorem bare_word {cs : List Char} (h : ' ' ∉ cs) : bare cs = cs := by
  have hkept : cs.reverse.dropWhile (· == ' ') = cs.reverse := by
    cases hreverse : cs.reverse with
    | nil => rfl
    | cons c rest =>
        have hmem : c ∈ cs := List.mem_reverse.mp (hreverse ▸ List.mem_cons_self)
        have hc : ¬ (c == ' ') = true := by
          rw [beq_iff_eq]
          rintro rfl
          exact h hmem
        rw [List.dropWhile_cons, if_neg hc]
  rw [bare, hkept, List.reverse_reverse]

/-- **A word is folded into its rows.** -/
theorem wrap_word {width : Nat} (hwidth : 0 < width) {s : String} (hne : s.toList ≠ []) (h : ' ' ∉ s.toList) :
    wrap width s = (chop width width s.toList).map String.ofList := by
  have hfold : foldWords width [] (wordsOf s.toList) = chop width width s.toList := by
    rw [wordsOf_word hne h]
    unfold foldWords
    dsimp only
    rw [bare_word h, List.length_nil, Nat.zero_add]
    by_cases hfits : s.toList.length ≤ width
    · rw [if_pos hfits, chop_fits width hfits]
      rfl
    · -- The last piece is held back for the next word, and there is none.
      have hlast := List.dropLast_append_getLast (chop_ne_nil width width s.toList)
      rw [if_neg hfits, if_neg hfits, List.getLast?_eq_some_getLast (chop_ne_nil width width s.toList)]
      exact hlast
  rw [wrap, if_neg hwidth.ne', hfold]
  apply List.map_congr_left
  intro row hrow
  rw [List.take_of_length_le ((folded_chop hwidth _).length_le row hrow)]

end Console

namespace Condition

open Token

/-! ## Names of variables -/

/-- The characters that an identifier may go on with. -/
def Continues (s : String) : Prop := ∀ c ∈ s.toList, isWordChar c = true ∧ c ≠ '.'

theorem Continues.append {s t : String} (hs : Continues s) (ht : Continues t) : Continues (s ++ t) := by
  unfold Continues
  rw [String.toList_append]
  exact List.forall_mem_append.mpr ⟨hs, ht⟩

theorem continues_of_isIdentifier {s : String} (h : isIdentifier s.toList = true) : Continues s := by
  unfold Continues
  match s.toList, h with
  | c :: rest, h => exact (isIdentifier_cons_iff.mp h).2

theorem isIdentifier_append {x s : String} (hx : isIdentifier x.toList = true) (hs : Continues s) :
    isIdentifier (x ++ s).toList = true := by
  rw [String.toList_append]
  match x.toList, hx with
  | c :: rest, hx =>
      obtain ⟨hdigit, hall⟩ := isIdentifier_cons_iff.mp hx
      rw [List.cons_append, isIdentifier_cons_iff]
      exact ⟨hdigit, List.forall_mem_append.mpr ⟨hall, hs⟩⟩

theorem continues_relation (op : Operator) : Continues (relation op) := by
  have hnone : Continues "" := by
    intro c hc
    cases hc
  cases op with
  | eq | ne | lt | le | gt | ge => exact continues_of_isIdentifier rfl
  | _ => exact hnone

theorem continues_valueSuffix {v : Number} (h : v.Readable) : Continues (valueSuffix v) := by
  intro c hc
  have hsuffix := isSuffixChar_valueSuffix h c hc
  rw [isSuffixChar, Bool.or_eq_true, beq_iff_eq] at hsuffix
  rcases hsuffix with hdigit | rfl
  · refine ⟨isWordChar_iff.mpr (.inr (.inl hdigit)), ?_⟩
    rintro rfl
    cases hdigit
  · decide

/-- An identifier stays one with a relation and something else behind it. -/
theorem isIdentifier_related {x s : String} (hx : isIdentifier x.toList = true) (op : Operator)
    (hs : Continues s) : isIdentifier (x ++ relation op ++ s).toList = true := by
  rw [String.append_assoc]
  exact isIdentifier_append hx ((continues_relation op).append hs)

/-- The name that is made up for a comparison is an identifier. -/
theorem isIdentifier_comparisonName? {op : Operator} {l r : Expr} {name : String}
    (h : comparisonName? op (some l) (some r) = some name) (hl : l.Genuine) (hr : r.Genuine) :
    isIdentifier name.toList = true := by
  unfold comparisonName? at h
  split at h
  · rename_i x p v q hleft hright
    cases hleft
    cases hright
    cases h
    exact isIdentifier_related hl op (continues_valueSuffix hr)
  · rename_i v p x q hleft hright
    cases hleft
    cases hright
    cases h
    exact isIdentifier_related hr _ (continues_valueSuffix hl)
  · rename_i x p y q hleft hright
    cases hleft
    cases hright
    cases h
    exact isIdentifier_related hl op (continues_of_isIdentifier hr)
  · cases h

/-- **The strict reading gives formulas that can be written**, with identifiers as variables. -/
theorem StrictOf.writable {o : Options} {e : Expr} {f : Formula} (h : StrictOf o e f) (he : e.Genuine)
    (linux : Bool) : f.Writable linux := by
  induction h with
  | number v p => exact .const _
  | negative h => exact .const _
  | @test name x t p q h =>
      have hx : isIdentifier x.toList = true := he.2
      have hmodule := isIdentifier_moduleName hx
      cases t with
      | defined | isBuiltin => exact .var hx
      | isModule => exact .var hmodule
      | isEnabled => exact .or (.var hx) (.var hmodule)
  | bare x p hfuzzy => exact .var (isIdentifier_append he (continues_of_isIdentifier rfl))
  | comparison p hfuzzy hop h => exact .var (isIdentifier_comparisonName? h he.1 he.2)
  | not h ha ih => exact .not (ih (genuine_of_firstOperand? h he))
  | @connective op l r f g p hop hl hr ihl ihr =>
      unfold connect
      split
      · exact .and (ihl he.1) (ihr he.2)
      · exact .or (ihl he.1) (ihr he.2)

/-- **Every reading gives formulas that can be written**, also where the policy has put something in the place of
    the condition. -/
theorem writable_of_interpret [CallStack] {mode : Mode} {o : Options} {text : String} {f : Formula}
    (h : (interpret mode o text).result = .ok f) : f.Writable o.linux := by
  cases mode with
  | extended | tree => exact (accounted_of_extendedFormula h).1
  | strict =>
      change (underPolicy o.invalid text (strictFormula o text)).result = .ok f at h
      cases hstrict : strictFormula o text with
      | ok g =>
          rw [hstrict] at h
          cases h
          obtain ⟨e, hparse, -, hread⟩ := strictFormula_eq_ok_iff.mp hstrict
          exact (strict_eq_ok_iff.mp hread).writable (Expr.wellFormed_of_parse hparse).genuine _
      | error failure =>
          rw [hstrict] at h
          cases failure with
          | numeralTooLong n => cases h
          | rejected r =>
              cases hpolicy : o.invalid with
              | refuse =>
                  rw [hpolicy] at h
                  cases h
              | assumeTrue =>
                  rw [hpolicy] at h
                  cases h
                  exact .const true
              | errorVariable =>
                  rw [hpolicy] at h
                  cases h
                  exact .var rfl

end Condition

/-- The nodes of a formula that can be written are of known kinds, and its variables are identifiers. -/
theorem Formula.Writable.names {linux : Bool} {f : Formula} (h : f.Writable linux) :
    f.Known ∧ ∀ x ∈ f.occurrences, Token.isIdentifier x.toList = true := by
  induction h with
  | const | lit | negative | emptyCall => simp [Known, occurrences]
  | var h => simpa [Known, occurrences] using h
  | not _ ih | call _ _ _ ih => exact ih
  | and _ _ ihl ihr | or _ _ ihl ihr | kept _ _ _ _ ihl ihr =>
      exact ⟨⟨ihl.1, ihr.1⟩, List.forall_mem_append.mpr ⟨ihl.2, ihr.2⟩⟩

theorem Formula.varNames_var (x : String) : (var x).varNames = .ok [x] := by
  rw [varNames_of_known (f := var x) trivial]
  simp [occurrences, nameSet, dropRepeats]

namespace Command

open HashIf.Condition (Options Mode)
open HashIf.Token

/-! ## Printed names -/

/-- The rows that a name is printed in. -/
def rowsOf (name : String) : List (List Char) :=
  Console.chop Console.terminalWidth Console.terminalWidth name.toList

/-- A text of lines, each of them ended by a line feed. -/
def textOf (lines : List (List Char)) : String := String.ofList (lines.flatMap (· ++ ['\n']))

/-- Lines are recovered from their text, up to the empty part behind the last line feed. -/
theorem splitOn_textOf {lines : List (List Char)} (h : ∀ line ∈ lines, '\n' ∉ line) :
    (textOf lines).toList.splitOn '\n' = lines ++ [[]] := by
  have htext : (textOf lines).toList = ['\n'].intercalate (lines ++ [[]]) := by
    rw [textOf, String.toList_ofList]
    induction lines with
    | nil => rfl
    | cons line lines ih =>
        rw [List.flatMap_cons, ih (List.forall_mem_cons.mp h).2, List.cons_append,
          List.intercalate_cons_of_ne_nil (by simp)]
  rw [htext]
  refine List.splitOn_intercalate _ ?_ (by simp)
  intro line hline
  rcases List.mem_append.mp hline with hline | hline
  · exact h line hline
  · rw [List.mem_singleton.mp hline]
    exact List.not_mem_nil

theorem folded_rowsOf (name : String) : Console.Folded Console.terminalWidth name.toList (rowsOf name) :=
  Console.folded_chop (by decide) _

theorem not_mem_identifier {name : String} (h : isIdentifier name.toList = true) {c : Char}
    (hc : isWordChar c = false) : c ∉ name.toList := by
  intro hmem
  rw [(isWordChar_identifier h).2 c hmem] at hc
  cases hc

/-- Identifiers are printed in their rows. -/
theorem join_wrap {names : List String} (h : ∀ x ∈ names, isIdentifier x.toList = true) :
    String.join (names.flatMap fun n => (Console.wrap Console.terminalWidth n).map (· ++ "\n"))
      = textOf (names.flatMap rowsOf) := by
  rw [← String.toList_inj, textOf, String.toList_ofList, String.toList_join, List.flatMap_assoc,
    List.flatMap_assoc]
  apply List.flatMap_congr
  intro x hx
  have hspace : ' ' ∉ x.toList := not_mem_identifier (h x hx) rfl
  rw [Console.wrap_word (by decide) (isWordChar_identifier (h x hx)).1 hspace, List.map_map, List.flatMap_map]
  simp [rowsOf]

/-- One line for each name. -/
theorem join_lines (names : List String) :
    String.join (names.map (· ++ "\n")) = textOf (names.map String.toList) := by
  rw [← String.toList_inj, textOf, String.toList_ofList, String.toList_join, List.flatMap_map, List.flatMap_map]
  simp

/-- Rows of identifiers hold no line feed. -/
theorem lineFeed_not_mem_rowsOf {name : String} (h : isIdentifier name.toList = true) :
    ∀ row ∈ rowsOf name, '\n' ∉ row := by
  intro row hrow hmem
  have hname : '\n' ∈ name.toList := by
    rw [← (folded_rowsOf name).flatten_eq]
    exact List.mem_flatten_of_mem hrow hmem
  exact not_mem_identifier h rfl hname

section

variable {names : List String}

theorem length_le_of_mem_rows {row : List Char} (h : row ∈ names.flatMap rowsOf) :
    row.length ≤ Console.terminalWidth := by
  obtain ⟨x, -, hrow⟩ := List.mem_flatMap.mp h
  exact (folded_rowsOf x).length_le row hrow

/-- Names that fit are rows of their own. -/
theorem flatMap_rowsOf (h : ∀ x ∈ names, x.length ≤ Console.terminalWidth) :
    names.flatMap rowsOf = names.map String.toList := by
  rw [List.map_eq_flatMap]
  apply List.flatMap_congr
  intro x hx
  exact (folded_rowsOf x).eq_singleton (by rw [String.length_toList]; exact h x hx)

/-- The rows are recovered from the text that is printed. -/
theorem splitOn_rows (h : ∀ x ∈ names, isIdentifier x.toList = true) :
    (textOf (names.flatMap rowsOf)).toList.splitOn '\n' = names.flatMap rowsOf ++ [[]] := by
  apply splitOn_textOf
  intro row hrow
  obtain ⟨x, hx, hrow⟩ := List.mem_flatMap.mp hrow
  exact lineFeed_not_mem_rowsOf (h x hx) row hrow

/-- **The rows are the names if all of them fit**, and otherwise one of the names is no row. -/
theorem rows_recover_iff :
    (∀ x : String, x ∈ names ↔ x.toList ∈ names.flatMap rowsOf)
      ↔ ∀ x ∈ names, x.length ≤ Console.terminalWidth := by
  constructor
  · intro h x hx
    rw [← String.length_toList]
    exact length_le_of_mem_rows ((h x).mp hx)
  · intro h x
    rw [flatMap_rowsOf h, List.mem_map_of_injective fun _ _ heq => String.toList_inj.mp heq]

/-- **The text has one line for each name if all of them fit**, and otherwise it has not. -/
theorem textOf_rows_eq_iff (h : ∀ x ∈ names, isIdentifier x.toList = true) :
    textOf (names.flatMap rowsOf) = String.join (names.map (· ++ "\n"))
      ↔ ∀ x ∈ names, x.length ≤ Console.terminalWidth := by
  rw [join_lines]
  constructor
  · intro heq x hx
    have hfeed : ∀ line ∈ names.map String.toList, '\n' ∉ line := by
      intro line hline
      obtain ⟨x, hx, rfl⟩ := List.mem_map.mp hline
      exact not_mem_identifier (h x hx) rfl
    have hrows := splitOn_rows h
    rw [heq, splitOn_textOf hfeed] at hrows
    have hmem : x.toList ∈ names.flatMap rowsOf := by
      rw [← List.append_cancel_right hrows]
      exact List.mem_map_of_mem hx
    rw [← String.length_toList]
    exact length_le_of_mem_rows hmem
  · intro hfits
    rw [flatMap_rowsOf hfits]

end

section

variable {w : World} {i : Interpretation} {o : Options} {f : Formula}

/-- The run of a condition that is read prints the rows of the names. -/
theorem shown_runNames [CallStack] (ho : optionsOf w i = some o)
    (hread : (Condition.interpret (modeOf i) o i.condition).result = .ok f) :
    ∃ names, f.varNames = .ok names ∧ names.Pairwise (· < ·) ∧ (∀ x, x ∈ names ↔ .var x ∈ f.preorder)
      ∧ (∀ x ∈ names, isIdentifier x.toList = true)
      ∧ shown (runNames w i) = .ok (0, textOf (names.flatMap rowsOf)) := by
  obtain ⟨hknown, hidentifier⟩ := (Condition.writable_of_interpret hread).names
  obtain ⟨names, hnames, hsorted, hmem⟩ := Formula.exists_varNames hknown
  have hall : ∀ x ∈ names, isIdentifier x.toList = true :=
    fun x hx => hidentifier x (Formula.mem_occurrences_iff.mpr ((hmem x).mp hx))
  refine ⟨names, hnames, hsorted, hmem, hall, ?_⟩
  unfold runNames
  rw [shown_withSettings ho, shown_withFormula hread, hnames, ← join_wrap hall]
  rfl

/-- **The variables of a condition are printed one per line if no name is wider than the terminal, and only
    then.**  A run whose condition is read as a formula, under any options and settings, ends with success.  It
    prints the variables of the formula in ascending order, each once; a name is folded into rows, and each
    row is ended by a line feed.  The text is the names with a line feed behind each of them exactly if all
    names fit into a row, and only then the names are what the text is cut into at its line feeds. -/
theorem names_on_lines_iff [CallStack] (ho : optionsOf w i = some o)
    (hread : (Condition.interpret (modeOf i) o i.condition).result = .ok f) :
    ∃ names blocks text, f.varNames = .ok names ∧ names.Pairwise (· < ·)
      ∧ (∀ x, x ∈ names ↔ .var x ∈ f.preorder)
      ∧ shown (runNames w i) = .ok (0, text)
      ∧ (∀ args verbose, readLine args = .run verbose (.names i) → shown (run w args) = .ok (0, text))
      ∧ List.Forall₂ (fun x rows => Console.Folded Console.terminalWidth x.toList rows) names blocks
      ∧ text.toList.splitOn '\n' = blocks.flatten ++ [[]]
      ∧ (text = String.join (names.map (· ++ "\n")) ↔ ∀ x ∈ names, x.length ≤ Console.terminalWidth)
      ∧ ((∀ x : String, x ∈ names ↔ x.toList ∈ (text.toList.splitOn '\n').dropLast)
          ↔ ∀ x ∈ names, x.length ≤ Console.terminalWidth) := by
  obtain ⟨names, hnames, hsorted, hmem, hall, hshown⟩ := shown_runNames ho hread
  refine ⟨names, names.map rowsOf, textOf (names.flatMap rowsOf), hnames, hsorted, hmem, hshown, ?_, ?_, ?_,
    textOf_rows_eq_iff hall, ?_⟩
  · intro args verbose hline
    unfold run
    rw [hline, shown_keepRecords]
    exact hshown
  · rw [List.forall₂_map_right_iff, List.forall₂_same]
    exact fun x _ => folded_rowsOf x
  · rw [splitOn_rows hall, List.flatMap_def]
  · rw [splitOn_rows hall, List.dropLast_concat]
    exact rows_recover_iff

end

/-- The interpretation of `IS_ENABLED(B) && A < 2` that `--fuzzy --linux-macros` asks for. -/
def enabledAndBelow : Interpretation :=
  { condition := "IS_ENABLED(B) && A < 2"
    nonBoolean := false
    fuzzy := true
    linuxMacros := true
    invalid := none
    config := .absent }

/-- Its formula. -/
def enabledAndBelowFormula : Formula := .and (.or (.var "B") (.var "B_MODULE")) (.var "A_lt_2")

/-- Names that are made up have lines of their own as well. -/
theorem names_on_lines_iff_enabledAndBelow :
    enabledAndBelowFormula.varNames = .ok ["A_lt_2", "B", "B_MODULE"]
      ∧ shown (run bareWorld ["variables", "--fuzzy", "--linux-macros", "IS_ENABLED(B) && A < 2"])
        = .ok (0, "A_lt_2\nB\nB_MODULE\n") := by
  have hrequest : requestOf .names [(.fuzzy, none), (.linuxMacros, none)] "IS_ENABLED(B) && A < 2"
      = .names enabledAndBelow := by
    cbv
  have hline : readLine ["variables", "--fuzzy", "--linux-macros", "IS_ENABLED(B) && A < 2"]
      = .run false (.names enabledAndBelow) := by
    rw [← hrequest]
    rfl
  have hoptions : optionsOf bareWorld enabledAndBelow = some ⟨true, true, .refuse⟩ := rfl
  have hread : (Condition.interpret (modeOf enabledAndBelow) ⟨true, true, .refuse⟩
      enabledAndBelow.condition).result = .ok enabledAndBelowFormula := by
    cbv
  have hknown : enabledAndBelowFormula.Known := ⟨⟨trivial, trivial⟩, trivial⟩
  have hlisted : enabledAndBelowFormula.varNames = .ok ["A_lt_2", "B", "B_MODULE"] := by
    rw [Formula.varNames_of_known hknown]
    simp [enabledAndBelowFormula, Formula.occurrences, Formula.nameSet, List.mergeSort,
      List.MergeSort.Internal.splitInTwo, Formula.dropRepeats]
  obtain ⟨names, blocks, text, hnames, -, -, -, hrun, -, -, htext, -⟩ := names_on_lines_iff hoptions hread
  rw [hlisted] at hnames
  cases hnames
  refine ⟨hlisted, ?_⟩
  rw [hrun _ _ hline, htext.mpr (by decide)]
  rfl

/-- A name alone is read as a variable. -/
theorem extendedFormula_identifier [S : CallStack] (hroom : 2 ≤ S.frames) (linux : Bool) {x : String}
    (h : isIdentifier x.toList = true) : Condition.extendedFormula linux x = .ok (.var x) := by
  have hvar : (Formula.var x).Writable linux := .var h
  obtain ⟨s, -, hs, -, -, hformula⟩ := Condition.extendedFormula_toText hvar
  rw [Formula.toText] at hs
  cases hs
  exact hformula.1 hroom (Nat.le_of_succ_le hroom)

/-- The interpretation that `--non-boolean` asks for. -/
def keptCondition (condition : String) : Interpretation :=
  { condition
    nonBoolean := true
    fuzzy := false
    linuxMacros := false
    invalid := none
    config := .absent }

/-- A name alone is printed in its rows. -/
theorem shown_runNames_identifier [S : CallStack] (hroom : 2 ≤ S.frames) {x : String}
    (h : isIdentifier x.toList = true) :
    shown (runNames bareWorld (keptCondition x)) = .ok (0, textOf (rowsOf x)) := by
  have hoptions : optionsOf bareWorld (keptCondition x) = some ⟨false, false, .refuse⟩ := rfl
  obtain ⟨names, hnames, -, -, -, hshown⟩ := shown_runNames hoptions (extendedFormula_identifier hroom false h)
  rw [Formula.varNames_var] at hnames
  cases hnames
  rw [hshown, List.flatMap_singleton]
  rfl

/-- A name of one column more than the terminal has. -/
def wideName : String := String.ofList (List.replicate (Console.terminalWidth + 1) 'A')

theorem isIdentifier_wideName : isIdentifier wideName.toList = true := by
  rw [wideName, String.toList_ofList, List.replicate_succ, isIdentifier_cons_iff, ← List.replicate_succ]
  refine ⟨rfl, fun c hc => ?_⟩
  rw [List.eq_of_mem_replicate hc]
  decide

theorem rowsOf_wideName : rowsOf wideName = [List.replicate Console.terminalWidth 'A', ['A']] := by
  have hlong : Console.terminalWidth < (List.replicate (Console.terminalWidth + 1) 'A').length := by
    rw [List.length_replicate]
    exact Nat.lt_succ_self _
  rw [rowsOf, wideName, String.toList_ofList, Console.chop_full (by decide) hlong, List.take_replicate,
    List.drop_replicate, Nat.add_sub_cancel_left, Nat.min_eq_left (Nat.le_succ _)]
  rfl

/-- **Names can be too wide.**  A condition is read as a variable, and the variable is printed on two lines, neither
    of which is its name. -/
theorem wideName_not_on_line :
    (Condition.interpret .extended ⟨false, false, .refuse⟩ wideName).result = .ok (.var wideName)
      ∧ (Formula.var wideName).varNames = .ok [wideName]
      ∧ shown (run bareWorld ["variables", "--non-boolean", wideName])
        = .ok (0, String.ofList (List.replicate 80 'A') ++ "\nA\n")
      ∧ shown (run bareWorld ["variables", "--non-boolean", wideName]) ≠ .ok (0, wideName ++ "\n") := by
  have hline : readLine ["variables", "--non-boolean", wideName] = .run false (.names (keptCondition wideName)) :=
    rfl
  have hshown : shown (run bareWorld ["variables", "--non-boolean", wideName])
      = .ok (0, textOf (rowsOf wideName)) := by
    unfold run
    rw [hline, shown_keepRecords]
    exact shown_runNames_identifier (by decide) isIdentifier_wideName
  refine ⟨extendedFormula_identifier (by decide) false isIdentifier_wideName, Formula.varNames_var wideName, ?_, ?_⟩
  · rw [hshown, rowsOf_wideName, textOf, Console.terminalWidth]
    simp
  · intro heq
    rw [hshown] at heq
    injection heq with heq
    have htext : textOf ([wideName].flatMap rowsOf) = String.join ([wideName].map (· ++ "\n")) := by
      rw [List.flatMap_singleton, (Prod.mk.inj heq).2]
      simp
    have hfits := (textOf_rows_eq_iff (by simpa using isIdentifier_wideName)).mp htext wideName (by simp)
    rw [wideName, String.length_ofList, List.length_replicate] at hfits
    omega

end Command

end HashIf
