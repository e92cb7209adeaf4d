import HashIf.Export.NodeLink
import HashIf.Proofs.Numerals

/-!
# `HashIf.Proofs.NodeLinkText`: the document of a graph can be read in one way only

Nothing here reads a document.  It is enough that each part of it says where it ends: if two texts of one kind
begin the same text, they are equal, and what is left behind them is equal too.  Strings end at their quote,
since a quote inside of them has a backslash in front.  Numbers say nothing of the kind on their own, but
something that is no digit stands behind each of them.  An object is a row of such parts between fixed ones, and a
block is a row of objects, between which there is a comma as long as it goes on.

## Contents
- `Delimited`: texts that say where they end.
- `unescape?`, `delimited_jsonString`: strings.
- `toString_delimited`: numbers.
- `furtherEntries`, `delimited_jsonBlock`: blocks of entries.
- `nodeLink_inj`: the nodes and edges of a document.
-/

namespace HashIf

/-! ## Names -/

/-- The kind with the given name. -/
def NodeKind.ofName? : String → Option NodeKind
  | "true" => some (.constant true)
  | "false" => some (.constant false)
  | "variable" => some .var
  | "literal" => some .literal
  | "conjunction" => some .conjunction
  | "disjunction" => some .disjunction
  | "negation" => some .negation
  | "operator" => some .operator
  | "macro" => some .call
  | _ => none

theorem NodeKind.ofName?_name (kind : NodeKind) : ofName? kind.name = some kind := by
  cases kind with
  | constant value => cases value <;> rfl
  | _ => rfl

/-- Kinds have different names. -/
theorem NodeKind.name_injective {a b : NodeKind} (h : a.name = b.name) : a = b := by
  have heq := ofName?_name a
  rw [h, ofName?_name] at heq
  exact (Option.some.inj heq).symm

/-- Roles have different names. -/
theorem Role.name_injective {a b : Role} (h : a.name = b.name) : a = b := by
  cases a <;> cases b <;> first | rfl | simp [Role.name] at h

namespace Export

/-! ## Texts that say where they end -/

/-- Of two of these texts that begin the same text, each is the other. -/
def Delimited {α : Type} (text : α → String) : Prop :=
  ∀ ⦃a b : α⦄ ⦃r r' : List Char⦄, (text a).toList ++ r = (text b).toList ++ r' → a = b ∧ r = r'

/-! ## Strings -/

/-- The value of a hexadecimal digit. -/
def hexValue (c : Char) : Nat := if c.isDigit then c.toNat - 48 else c.toNat - 87

/-- The first character of an escaped text, and the text behind it. -/
def unescape? : List Char → Option (Char × List Char)
  | '\\' :: 'n' :: rest => some ('\n', rest)
  | '\\' :: 'r' :: rest => some ('\r', rest)
  | '\\' :: 't' :: rest => some ('\t', rest)
  | '\\' :: 'b' :: rest => some (Char.ofNat 8, rest)
  | '\\' :: 'f' :: rest => some (Char.ofNat 12, rest)
  | '\\' :: 'u' :: _ :: _ :: c :: d :: rest => some (Char.ofNat (16 * hexValue c + hexValue d), rest)
  | '\\' :: c :: rest => some (c, rest)
  | c :: rest => some (c, rest)
  | [] => none

/-- The code points that are written in hexadecimal digits have two of them. -/
theorem hexDigits_control : ∀ n < 0x20, ∃ a b c d, Text.hexDigits 4 n = [a, b, c, d]
    ∧ 16 * hexValue c + hexValue d = n := by
  intro n hn
  refine ⟨_, _, _, _, rfl, ?_⟩
  revert n
  decide

/-- **An escaped character is read back**, whatever stands behind it. -/
theorem unescape?_jsonChar (c : Char) (rest : List Char) : unescape? (jsonChar c ++ rest) = some (c, rest) := by
  unfold jsonChar
  split_ifs with hquote hn hr ht hb hf hcontrol
  · rcases Bool.or_eq_true_iff.mp hquote with h | h
    · rw [eq_of_beq h]
      rfl
    · rw [eq_of_beq h]
      rfl
  · rw [eq_of_beq hn]
    rfl
  · rw [eq_of_beq hr]
    rfl
  · rw [eq_of_beq ht]
    rfl
  · show some (Char.ofNat 8, rest) = some (c, rest)
    rw [← hb, Char.ofNat_toNat]
  · show some (Char.ofNat 12, rest) = some (c, rest)
    rw [← hf, Char.ofNat_toNat]
  · obtain ⟨a, b, x, y, hdigits, hvalue⟩ := hexDigits_control c.toNat hcontrol
    rw [hdigits]
    show some (Char.ofNat (16 * hexValue x + hexValue y), rest) = some (c, rest)
    rw [hvalue, Char.ofNat_toNat]
  · have hslash : c ≠ '\\' := by
      rintro rfl
      exact hquote rfl
    show unescape? (c :: rest) = some (c, rest)
    unfold unescape?
    split <;> simp_all

/-- An escaped character does not begin with a quote. -/
theorem head?_jsonChar (c : Char) : ∃ d ds, jsonChar c = d :: ds ∧ d ≠ '"' := by
  unfold jsonChar
  split_ifs with hquote
  case neg =>
    refine ⟨c, [], rfl, ?_⟩
    rintro rfl
    exact hquote rfl
  all_goals exact ⟨'\\', _, rfl, by decide⟩

/-- A text between quotes ends at the first quote without a backslash. -/
theorem escaped_inj {cs ds r r' : List Char}
    (h : cs.flatMap jsonChar ++ '"' :: r = ds.flatMap jsonChar ++ '"' :: r') : cs = ds ∧ r = r' := by
  induction cs generalizing ds with
  | nil =>
      cases ds with
      | nil => exact ⟨rfl, (List.cons.inj h).2⟩
      | cons d ds =>
          obtain ⟨c, cs, hd, hc⟩ := head?_jsonChar d
          rw [List.flatMap_cons, hd] at h
          exact absurd (List.cons.inj h).1.symm hc
  | cons c cs ih =>
      cases ds with
      | nil =>
          obtain ⟨d, ds, hc, hd⟩ := head?_jsonChar c
          rw [List.flatMap_cons, hc] at h
          exact absurd (List.cons.inj h).1 hd
      | cons d ds =>
          rw [List.flatMap_cons, List.flatMap_cons, List.append_assoc, List.append_assoc] at h
          have hread := congrArg unescape? h
          rw [unescape?_jsonChar, unescape?_jsonChar] at hread
          obtain ⟨hcd, hrest⟩ := Prod.mk.inj (Option.some.inj hread)
          obtain ⟨hcs, hr⟩ := ih hrest
          exact ⟨List.cons_eq_cons.mpr ⟨hcd, hcs⟩, hr⟩

/-- **Strings say where they end.** -/
theorem delimited_jsonString : Delimited jsonString := by
  intro s t r r' h
  simp only [jsonString, String.toList_ofList, List.cons_append, List.append_assoc, List.nil_append] at h
  obtain ⟨hchars, hrest⟩ := escaped_inj (List.cons.inj h).2
  exact ⟨String.toList_inj.mp hchars, hrest⟩

/-! ## Numbers -/

/-- **Numbers end in front of a text that does not begin with a digit.** -/
theorem toString_delimited {s : String} (hs : ∃ c cs, s.toList = c :: cs ∧ c.isDigit = false) {m n : Nat}
    {r r' : List Char} (h : (toString m).toList ++ (s.toList ++ r) = (toString n).toList ++ (s.toList ++ r')) :
    m = n ∧ r = r' := by
  obtain ⟨c, cs, hs, hc⟩ := hs
  have hdigits : ∀ (k : Nat) (rest : List Char),
      ((toString k).toList ++ (s.toList ++ rest)).takeWhile Char.isDigit = Nat.toDigits 10 k := by
    intro k rest
    rw [Nat.toString_eq_repr, Nat.toList_repr, hs, List.cons_append]
    rw [List.takeWhile_append_of_pos fun x hx => isDigit_toDigits hx,
      List.takeWhile_cons_of_neg (by simp [hc]), List.append_nil]
  have htexts := congrArg (List.takeWhile Char.isDigit) h
  rw [hdigits, hdigits] at htexts
  have hmn : m = n := by
    rw [← ofDigits_toDigits m, htexts, ofDigits_toDigits]
  rw [hmn] at h
  exact ⟨hmn, List.append_cancel_left (List.append_cancel_left h)⟩

/-! ## Blocks -/

/-- What stands behind the first entry of a block: the other entries, and the end. -/
def furtherEntries (indent closing : String) : List String → String
  | [] => "\n" ++ indent ++ closing
  | e :: es => ",\n" ++ (indent ++ "  " ++ e) ++ furtherEntries indent closing es

theorem jsonBlock_nil (indent opening closing : String) :
    jsonBlock indent opening closing [] = opening ++ closing := rfl

theorem jsonBlock_cons (indent opening closing e : String) (es : List String) :
    jsonBlock indent opening closing (e :: es)
      = opening ++ "\n" ++ (indent ++ "  " ++ e) ++ furtherEntries indent closing es := by
  have hentries : ∀ (x : String) (xs : List String),
      ",\n".intercalate ((x :: xs).map fun y => indent ++ "  " ++ y) ++ "\n" ++ indent ++ closing
        = indent ++ "  " ++ x ++ furtherEntries indent closing xs := by
    intro x xs
    induction xs generalizing x with
    | nil => simp [furtherEntries, String.append_assoc]
    | cons y ys ih =>
        rw [List.map_cons, List.map_cons, String.intercalate_cons_cons, furtherEntries]
        simp only [List.map_cons, String.append_assoc] at ih ⊢
        rw [ih]
  have hblock := hentries e es
  simp only [String.append_assoc] at hblock
  simp only [jsonBlock, List.isEmpty_cons, Bool.false_eq_true, if_false, String.append_assoc, hblock]

/-- The entries of a block go on behind a comma and end with a line feed. -/
theorem delimited_furtherEntries {α : Type} {text : α → String} (htext : Delimited text)
    (indent closing : String) : Delimited fun xs : List α => furtherEntries indent closing (xs.map text) := by
  intro xs ys r r' h
  induction xs generalizing ys with
  | nil =>
      cases ys with
      | nil => exact ⟨rfl, List.append_cancel_left h⟩
      | cons y ys =>
          simp only [List.map_nil, List.map_cons, furtherEntries, String.toList_append, List.append_assoc] at h
          cases (List.cons.inj h).1
  | cons x xs ih =>
      cases ys with
      | nil =>
          simp only [List.map_nil, List.map_cons, furtherEntries, String.toList_append, List.append_assoc] at h
          cases (List.cons.inj h).1
      | cons y ys =>
          simp only [List.map_cons, furtherEntries, String.toList_append, List.append_assoc,
            List.append_cancel_left_eq] at h
          obtain ⟨hx, htail⟩ := htext h
          obtain ⟨hxs, hrest⟩ := ih htail
          exact ⟨List.cons_eq_cons.mpr ⟨hx, hxs⟩, hrest⟩

/-- **Blocks say where they end**, if their entries do. -/
theorem delimited_jsonBlock {α : Type} {text : α → String} (htext : Delimited text) (indent : String) :
    Delimited fun xs : List α => jsonBlock indent "[" "]" (xs.map text) := by
  intro xs ys r r' h
  -- An empty block is closed at once, and another one begins a line.
  cases xs with
  | nil =>
      cases ys with
      | nil => exact ⟨rfl, List.append_cancel_left h⟩
      | cons y ys =>
          simp only [List.map_nil, jsonBlock_nil, List.map_cons, jsonBlock_cons, String.toList_append,
            List.append_assoc, List.append_cancel_left_eq] at h
          cases (List.cons.inj h).1
  | cons x xs =>
      cases ys with
      | nil =>
          simp only [List.map_nil, jsonBlock_nil, List.map_cons, jsonBlock_cons, String.toList_append,
            List.append_assoc, List.append_cancel_left_eq] at h
          cases (List.cons.inj h).1
      | cons y ys =>
          simp only [List.map_cons, jsonBlock_cons, String.toList_append, List.append_assoc,
            List.append_cancel_left_eq] at h
          obtain ⟨hx, htail⟩ := htext h
          obtain ⟨hxs, hrest⟩ := delimited_furtherEntries htext indent "]" htail
          exact ⟨List.cons_eq_cons.mpr ⟨hx, hxs⟩, hrest⟩

/-! ## Documents -/

theorem delimited_nodeObject : Delimited nodeObject := by
  rintro ⟨id, kind, label⟩ ⟨id', kind', label'⟩ r r' h
  simp only [nodeObject, jsonObject, jsonBlock_cons, furtherEntries, jsonField, String.toList_append,
    List.append_assoc, List.append_cancel_left_eq] at h
  obtain ⟨hkind, h⟩ := delimited_jsonString h
  obtain rfl := NodeKind.name_injective hkind
  simp only [List.append_cancel_left_eq] at h
  obtain ⟨rfl, h⟩ := delimited_jsonString h
  simp only [List.append_cancel_left_eq] at h
  obtain ⟨rfl, h⟩ := toString_delimited ⟨'\n', [], rfl, rfl⟩ h
  simp only [List.append_cancel_left_eq] at h
  exact ⟨rfl, h⟩

theorem delimited_edgeObject : Delimited edgeObject := by
  rintro ⟨source, target, role⟩ ⟨source', target', role'⟩ r r' h
  simp only [edgeObject, jsonObject, jsonBlock_cons, furtherEntries, jsonField, String.toList_append,
    List.append_assoc, List.append_cancel_left_eq] at h
  obtain ⟨hrole, h⟩ := delimited_jsonString h
  obtain rfl := Role.name_injective hrole
  simp only [List.append_cancel_left_eq] at h
  obtain ⟨rfl, h⟩ := toString_delimited ⟨',', ['\n'], rfl, rfl⟩ h
  simp only [List.append_cancel_left_eq] at h
  obtain ⟨rfl, h⟩ := toString_delimited ⟨'\n', [], rfl, rfl⟩ h
  simp only [List.append_cancel_left_eq] at h
  exact ⟨rfl, h⟩

/-- **The document of a graph determines its nodes and its edges.** -/
theorem nodeLink_inj {g g' : Graph} (h : nodeLink g = nodeLink g') :
    g.nodes = g'.nodes ∧ g.edgesBySource = g'.edgesBySource := by
  replace h := congrArg (fun s => s.toList ++ []) h
  simp only [nodeLink, jsonObject, jsonBlock_cons, furtherEntries, jsonField, String.toList_append,
    List.append_assoc, List.append_cancel_left_eq] at h
  obtain ⟨hnodes, h⟩ := delimited_jsonBlock delimited_nodeObject "  " h
  simp only [List.append_cancel_left_eq] at h
  obtain ⟨hedges, -⟩ := delimited_jsonBlock delimited_edgeObject "  " h
  exact ⟨hnodes, hedges⟩

end Export

end HashIf
