import Mathlib.Data.List.Forall2
import HashIf.Settings.Schema

/-!
# `HashIf.Proofs.SettingKeys`: settings by the last entry of each

A table of settings is read by bringing its keys into their short form, where entries under the two names of
one setting fall together.  What comes out does not need the collapsed table: each setting has the value of the
last entry under either of its names, and a key that names no setting is a fault of its own.  So everything
that is read from a table is in two things, the last entries and the unknown keys in their order.

## Contents
- `Entries.get?_foldl_set`, `Entries.filter_keys_foldl_set`: a table that is built entry by entry.
- `Field.Spells`, `Known`, `canonicalKey_eq_key_iff`: keys and settings.
- `given`, `get?_canonical`, `unknownKeys_canonical`: the last entries and the unknown keys.
- `ofEntries_eq_ok_iff`, `ofEntries_eq_error_iff`: the options of a table and its faults.
- `ofEntries_shadowed`, `Respelt.ofEntries_eq`, `ofEntries_of_perm`: tables that come to the same.
- `ofEntries_by_last_entries`: the settings of a table.
-/

namespace HashIf

/-! ## Tables that are built entry by entry -/

namespace Document.Entries

/-- The keys of a table, in their order. -/
def keys (t : Entries) : List String := t.map Prod.fst

theorem get?_set (key k : String) (v : Value) (t : Entries) :
    get? key (set k v t) = if k = key then some v else get? key t := by
  induction t with
  | nil => simp [set, get?]
  | cons p rest ih =>
      obtain ⟨k', v'⟩ := p
      by_cases hk : k' = k
      · subst hk
        simp only [set, get?, beq_self_eq_true, if_true, beq_iff_eq]
        split <;> rfl
      · simp only [set, get?, beq_iff_eq, if_neg hk, ih]
        by_cases hkey : k' = key
        · subst hkey
          rw [if_pos rfl, if_pos rfl, if_neg (Ne.symm hk)]
        · rw [if_neg hkey, if_neg hkey]

/-- **The last entry under a key counts.** -/
theorem get?_foldl_set (key : String) (ps t : Entries) :
    get? key (ps.foldl (fun t p => set p.1 p.2 t) t)
      = ((ps.filter fun p => p.1 == key).getLast?.map Prod.snd).or (get? key t) := by
  induction ps generalizing t with
  | nil => rfl
  | cons p ps ih =>
      rw [List.foldl_cons, ih, get?_set]
      by_cases hkey : p.1 = key
      · rw [if_pos hkey, List.filter_cons_of_pos (by simpa using hkey), List.getLast?_cons]
        cases (ps.filter fun p => p.1 == key).getLast? <;> rfl
      · rw [if_neg hkey, List.filter_cons_of_neg (by simpa using hkey)]

theorem keys_set (k : String) (v : Value) (t : Entries) :
    keys (set k v t) = if k ∈ keys t then keys t else keys t ++ [k] := by
  induction t with
  | nil => rfl
  | cons p rest ih =>
      obtain ⟨k', v'⟩ := p
      unfold keys at ih ⊢
      by_cases hk : k' = k
      · simp [set, hk]
      · simp only [set, beq_iff_eq, if_neg hk, List.map_cons, ih, List.mem_cons, Ne.symm hk, false_or]
        split <;> rfl

/-- A new key of some kind goes behind those that are there. -/
theorem filter_keys_set {P : String → Bool} {k : String} (v : Value) {t : Entries}
    (hnew : P k = true → k ∉ keys t) : (keys (set k v t)).filter P = (keys t ++ [k]).filter P := by
  rw [keys_set]
  split
  · rename_i hmem
    have hk : P k = false := Bool.eq_false_iff.mpr fun hP => hnew hP hmem
    rw [List.filter_append, List.filter_singleton, hk, cond_false, List.append_nil]
  · rfl

/-- **Keys that occur once keep their order.** -/
theorem filter_keys_foldl_set {P : String → Bool} (ps : Entries) {t : Entries}
    (hnodup : ((keys t ++ keys ps).filter P).Nodup) :
    (keys (ps.foldl (fun t p => set p.1 p.2 t) t)).filter P = (keys t ++ keys ps).filter P := by
  induction ps generalizing t with
  | nil => rw [List.foldl_nil, keys, keys, List.map_nil, List.append_nil]
  | cons p ps ih =>
      have hcons : keys t ++ keys (p :: ps) = keys t ++ [p.1] ++ keys ps := by
        rw [List.append_assoc]
        rfl
      rw [hcons] at hnodup ⊢
      -- Among the keys that count, the first one of the rest is not there yet.
      have hnew : P p.1 = true → p.1 ∉ keys t := by
        intro hP hmem
        rw [List.filter_append, List.filter_append] at hnodup
        have hdisjoint := (List.nodup_append.mp (List.nodup_append.mp hnodup).1).2.2
        exact hdisjoint p.1 (List.mem_filter.mpr ⟨hmem, hP⟩) p.1
          (List.mem_filter.mpr ⟨List.mem_singleton_self _, hP⟩) rfl
      have hstep : (keys (set p.1 p.2 t) ++ keys ps).filter P = (keys t ++ [p.1] ++ keys ps).filter P := by
        rw [List.filter_append, filter_keys_set p.2 hnew, ← List.filter_append]
      rw [List.foldl_cons, ih (by rwa [hstep]), hstep]

end Document.Entries

namespace Settings

open HashIf.Condition (Options InvalidPolicy)
open HashIf.Document (Value Entries)

/-! ## Keys and settings -/

namespace Field

/-- The key is one of the two names of the setting. -/
def Spells (f : Field) (k : String) : Prop := k = f.key ∨ k = f.dottedKey

instance (f : Field) (k : String) : Decidable (f.Spells k) := inferInstanceAs (Decidable (_ ∨ _))

theorem mem_all (f : Field) : f ∈ all := by
  cases f <;> decide

theorem key_injective {f g : Field} (h : f.key = g.key) : f = g := by
  revert h
  cases f <;> cases g <;> decide

theorem canonicalKey_key (f : Field) : canonicalKey f.key = f.key := by
  cases f <;> decide

theorem canonicalKey_dottedKey (f : Field) : canonicalKey f.dottedKey = f.key := by
  cases f <;> decide

end Field

/-- The key is a name of some setting. -/
def Known (k : String) : Prop := ∃ f ∈ Field.all, f.Spells k

instance (k : String) : Decidable (Known k) := inferInstanceAs (Decidable (∃ f ∈ Field.all, f.Spells k))

theorem canonicalKey_cases (k : String) :
    (∃ f : Field, k = f.dottedKey ∧ canonicalKey k = f.key) ∨ canonicalKey k = k := by
  unfold canonicalKey
  cases hfind : Field.all.find? (·.dottedKey == k) with
  | none => exact .inr rfl
  | some f =>
      have hf : f.dottedKey = k := by simpa using List.find?_some hfind
      exact .inl ⟨f, hf.symm, rfl⟩

/-- **Both names of a setting, and nothing else, have its short name.** -/
theorem canonicalKey_eq_key_iff {f : Field} {k : String} : canonicalKey k = f.key ↔ f.Spells k := by
  constructor
  · intro h
    rcases canonicalKey_cases k with ⟨g, hk, hg⟩ | hk
    · rw [hg] at h
      rw [← Field.key_injective h]
      exact .inr hk
    · exact .inl (hk ▸ h)
  · rintro (rfl | rfl)
    · exact f.canonicalKey_key
    · exact f.canonicalKey_dottedKey

theorem canonicalKey_of_not_known {k : String} (h : ¬ Known k) : canonicalKey k = k := by
  rcases canonicalKey_cases k with ⟨f, hk, -⟩ | hk
  · exact absurd ⟨f, f.mem_all, .inr hk⟩ h
  · exact hk

/-- The keys without a setting are the same before and after they are brought into their short form. -/
theorem filter_map_canonicalKey (ks : List String) :
    (ks.map canonicalKey).filter (fun k => !(Field.all.map Field.key).contains k)
      = ks.filter fun k => ¬ Known k := by
  have hknown : ∀ k, (!(Field.all.map Field.key).contains (canonicalKey k)) = decide (¬ Known k) := by
    intro k
    rw [decide_not, Bool.not_inj_iff, Bool.eq_iff_iff, List.contains_iff_mem, List.mem_map, decide_eq_true_iff]
    constructor
    · rintro ⟨f, hf, hk⟩
      exact ⟨f, hf, canonicalKey_eq_key_iff.mp hk.symm⟩
    · rintro ⟨f, hf, hk⟩
      exact ⟨f, hf, (canonicalKey_eq_key_iff.mpr hk).symm⟩
  have hsame : ∀ k ∈ ks.filter (fun k => ¬ Known k), canonicalKey k = k := by
    intro k hk
    exact canonicalKey_of_not_known (by simpa using (List.mem_filter.mp hk).2)
  rw [List.filter_map]
  simp only [Function.comp_def, hknown]
  rw [List.map_congr_left hsame, List.map_id']

/-! ## What counts in a table -/

/-- The value of the last entry under either name of the setting. -/
def given (f : Field) (t : Entries) : Option Value := (t.filter fun p => f.Spells p.1).getLast?.map Prod.snd

/-- The keys that name no setting, in their order. -/
def strangers (t : Entries) : List String := (Entries.keys t).filter fun k => ¬ Known k

/-- An entry with its key in the short form. -/
def shortened (p : String × Value) : String × Value := (canonicalKey p.1, p.2)

theorem keys_map_shortened (t : Entries) : Entries.keys (t.map shortened) = (Entries.keys t).map canonicalKey := by
  rw [Entries.keys, Entries.keys, List.map_map, List.map_map]
  rfl

/-- **The value of a setting is that of its last entry.** -/
theorem get?_canonical (f : Field) (t : Entries) : Entries.get? f.key (canonical t) = given f t := by
  have hspells : (fun p : String × Value => p.1 == f.key) ∘ shortened = fun p => decide (f.Spells p.1) := by
    funext p
    rw [Bool.eq_iff_iff, decide_eq_true_iff, ← canonicalKey_eq_key_iff]
    exact beq_iff_eq
  calc Entries.get? f.key (canonical t)
      = (((t.map shortened).filter fun p => p.1 == f.key).getLast?.map Prod.snd).or none :=
        Entries.get?_foldl_set f.key (t.map shortened) []
    _ = given f t := by
        rw [Option.or_none, List.filter_map, hspells, List.getLast?_map, Option.map_map]
        rfl

/-- **The unknown keys of the table keep their order.** -/
theorem unknownKeys_canonical {t : Entries} (h : (Entries.keys t).Nodup) :
    unknownKeys (canonical t) = (strangers t).map .unknownKey := by
  have hshort : (Entries.keys [] ++ Entries.keys (t.map shortened)).filter
      (fun k => !(Field.all.map Field.key).contains k) = strangers t := by
    rw [keys_map_shortened]
    exact filter_map_canonicalKey (Entries.keys t)
  have hkeys : (Entries.keys (canonical t)).filter (fun k => !(Field.all.map Field.key).contains k)
      = strangers t :=
    (Entries.filter_keys_foldl_set (t.map shortened) (by rw [hshort]; exact h.filter _)).trans hshort
  rw [← hkeys, unknownKeys, Entries.keys, List.filter_map, List.map_map]
  rfl

/-! ## The options of a table -/

/-- The value of a setting as it is read, or the one it has when it is absent. -/
def valueOr (absent : α) (read : Value → Except SettingFault α) : Option Value → Except SettingFault α
  | none => .ok absent
  | some v => read v

theorem settingOr_canonical (absent : α) (read : Value → Except SettingFault α) (t : Entries) (f : Field) :
    settingOr absent read (canonical t) f = valueOr absent read (given f t) := by
  unfold settingOr
  rw [get?_canonical]
  rfl

/-- What is wrong with a value of the setting. -/
def Field.fault? : Field → Value → Option SettingFault
  | .invalid, v => (faultOf (policy v)).head?
  | f, v => (faultOf (flag f v)).head?

/-- What is wrong with the settings, in their order. -/
def settingFaults (t : Entries) : List SettingFault :=
  Field.all.filterMap fun f => (given f t).bind f.fault?

theorem faultOf_eq_nil_iff {r : Except SettingFault α} : faultOf r = [] ↔ ∃ x, r = .ok x := by
  cases r <;> simp [faultOf]

theorem faultOf_valueOr (absent : α) (read : Value → Except SettingFault α) (v? : Option Value) :
    faultOf (valueOr absent read v?) = (v?.bind fun v => (faultOf (read v)).head?).toList := by
  cases v? with
  | none => rfl
  | some v =>
      rw [Option.bind_some, valueOr]
      cases read v <;> rfl

/-- The faults of the three settings are those of their last entries. -/
theorem faultOf_settings (t : Entries) :
    faultOf (valueOr Options.default.linux (flag .linux) (given .linux t))
        ++ faultOf (valueOr Options.default.fuzzy (flag .fuzzy) (given .fuzzy t))
        ++ faultOf (valueOr Options.default.invalid policy (given .invalid t)) = settingFaults t := by
  rw [faultOf_valueOr, faultOf_valueOr, faultOf_valueOr, settingFaults, List.filterMap_eq_flatMap_toList]
  simp only [Field.all, List.flatMap_cons, List.flatMap_nil, List.append_nil, List.append_assoc]
  rfl

/-- The options hold what the last entries of the settings are read as. -/
structure Settles (t : Entries) (o : Options) : Prop where
  linux : valueOr Options.default.linux (flag .linux) (given .linux t) = .ok o.linux
  fuzzy : valueOr Options.default.fuzzy (flag .fuzzy) (given .fuzzy t) = .ok o.fuzzy
  invalid : valueOr Options.default.invalid policy (given .invalid t) = .ok o.invalid

theorem Settles.settingFaults_eq_nil {t : Entries} {o : Options} (h : Settles t o) : settingFaults t = [] := by
  rw [← faultOf_settings, h.linux, h.fuzzy, h.invalid]
  rfl

/-- **A table is read as options if nothing is wrong with it.** -/
theorem ofEntries_cases {t : Entries} (h : (Entries.keys t).Nodup) :
    (∃ o, ofEntries t = .ok o ∧ Settles t o ∧ settingFaults t = [] ∧ strangers t = [])
      ∨ ofEntries t = .error (settingFaults t ++ (strangers t).map .unknownKey)
        ∧ (settingFaults t ≠ [] ∨ strangers t ≠ []) := by
  have hfaults := faultOf_settings t
  unfold ofEntries
  simp only [settingOr_canonical, unknownKeys_canonical h, hfaults]
  split
  · rename_i l z p hl hz hp hstrangers
    have hsettles : Settles t ⟨l, z, p⟩ := ⟨hl, hz, hp⟩
    exact .inl ⟨_, rfl, hsettles, hsettles.settingFaults_eq_nil, List.map_eq_nil_iff.mp hstrangers⟩
  · rename_i hnone
    refine .inr ⟨rfl, Decidable.not_and_iff_not_or_not.mp ?_⟩
    rintro ⟨hsettings, hstrangers⟩
    rw [hsettings, List.append_eq_nil_iff, List.append_eq_nil_iff] at hfaults
    obtain ⟨⟨hl, hz⟩, hp⟩ := hfaults
    obtain ⟨l, hl⟩ := faultOf_eq_nil_iff.mp hl
    obtain ⟨z, hz⟩ := faultOf_eq_nil_iff.mp hz
    obtain ⟨p, hp⟩ := faultOf_eq_nil_iff.mp hp
    exact hnone l z p hl hz hp (by rw [hstrangers]; rfl)

theorem Settles.unique {t : Entries} {o o' : Options} (h : Settles t o) (h' : Settles t o') : o = o' := by
  have hl := h.linux.symm.trans h'.linux
  have hz := h.fuzzy.symm.trans h'.fuzzy
  have hp := h.invalid.symm.trans h'.invalid
  cases o
  cases o'
  cases hl
  cases hz
  cases hp
  rfl

theorem Settles.congr {t u : Entries} {o : Options} (h : Settles t o) (hgiven : ∀ f, given f u = given f t) :
    Settles u o :=
  ⟨by rw [hgiven, h.linux], by rw [hgiven, h.fuzzy], by rw [hgiven, h.invalid]⟩

theorem settingFaults_eq_nil_iff {t : Entries} :
    settingFaults t = [] ↔ ∀ f v, given f t = some v → f.fault? v = none := by
  rw [settingFaults, List.filterMap_eq_nil_iff]
  constructor
  · intro h f v hv
    simpa [hv] using h f f.mem_all
  · intro h f _
    cases hv : given f t with
    | none => rfl
    | some v => exact h f v hv

theorem strangers_eq_nil_iff {t : Entries} : strangers t = [] ↔ ∀ k ∈ Entries.keys t, Known k := by
  rw [strangers, List.filter_eq_nil_iff]
  simp only [decide_not, Bool.not_eq_true', decide_eq_false_iff_not, not_not]

theorem ofEntries_eq_ok_iff {t : Entries} (h : (Entries.keys t).Nodup) {o : Options} :
    ofEntries t = .ok o ↔ strangers t = [] ∧ Settles t o := by
  rcases ofEntries_cases h with ⟨o', hrun, hsettles, -, hstrangers⟩ | ⟨hrun, hsome⟩
  · rw [hrun, Except.ok.injEq]
    constructor
    · rintro rfl
      exact ⟨hstrangers, hsettles⟩
    · rintro ⟨-, hsettles'⟩
      exact hsettles.unique hsettles'
  · rw [hrun]
    refine iff_of_false (by simp) ?_
    rintro ⟨hstrangers, hsettles⟩
    rcases hsome with hsome | hsome
    · exact hsome hsettles.settingFaults_eq_nil
    · exact hsome hstrangers

/-- **All faults are reported**: those of the settings, then the unknown keys. -/
theorem ofEntries_eq_error_iff {t : Entries} (h : (Entries.keys t).Nodup) {fs : List SettingFault} :
    ofEntries t = .error fs ↔ fs ≠ [] ∧ fs = settingFaults t ++ (strangers t).map .unknownKey := by
  rcases ofEntries_cases h with ⟨o, hrun, -, hsettings, hstrangers⟩ | ⟨hrun, hsome⟩
  · rw [hrun, hsettings, hstrangers]
    refine iff_of_false (by simp) ?_
    rintro ⟨hne, heq⟩
    exact hne heq
  · rw [hrun, Except.error.injEq]
    constructor
    · rintro rfl
      refine ⟨?_, rfl⟩
      rw [Ne, List.append_eq_nil_iff, List.map_eq_nil_iff, Decidable.not_and_iff_not_or_not]
      exact hsome
    · exact fun hfs => hfs.2.symm

/-- The last entries and the unknown keys are all that is read from a table. -/
theorem ofEntries_congr {t u : Entries} (ht : (Entries.keys t).Nodup) (hu : (Entries.keys u).Nodup)
    (hgiven : ∀ f, given f t = given f u) (hstrangers : strangers t = strangers u) :
    ofEntries t = ofEntries u := by
  unfold ofEntries
  simp only [settingOr_canonical, unknownKeys_canonical ht, unknownKeys_canonical hu, hgiven, hstrangers]

theorem head?_faultOf_eq_some {r : Except SettingFault α} {fault : SettingFault}
    (h : (faultOf r).head? = some fault) : r = .error fault := by
  cases r with
  | ok x => cases h
  | error e => cases h; rfl

theorem fault_of_flag {f : Field} {v : Value} {fault : SettingFault} (h : flag f v = .error fault) :
    fault = .unreadableFlag f ∨ fault = .notFlag f := by
  unfold flag at h
  grind

theorem fault_of_policy {v : Value} {fault : SettingFault} (h : policy v = .error fault) :
    fault = .unknownPolicy := by
  unfold policy at h
  grind

/-- A fault of a value names its setting. -/
theorem Field.fault?_eq_some {f : Field} {v : Value} {fault : SettingFault} (h : f.fault? v = some fault) :
    fault.key = f.key ∧ ∀ k, fault ≠ .unknownKey k := by
  cases f with
  | invalid =>
      rw [fault_of_policy (head?_faultOf_eq_some h)]
      exact ⟨rfl, by simp⟩
  | linux | fuzzy =>
      rcases fault_of_flag (head?_faultOf_eq_some h) with rfl | rfl
      all_goals exact ⟨rfl, by simp⟩

/-! ## Tables with the same entries -/

/-- A key names only one setting. -/
theorem Field.Spells.unique {f g : Field} {k : String} (hf : f.Spells k) (hg : g.Spells k) : f = g :=
  Field.key_injective ((canonicalKey_eq_key_iff.mpr hf).symm.trans (canonicalKey_eq_key_iff.mpr hg))

/-- What is in front of an entry of the setting does not count. -/
theorem given_append_cons {f : Field} {k : String} (hk : f.Spells k) (before after : Entries) (v : Value) :
    given f (before ++ (k, v) :: after) = given f ((k, v) :: after) := by
  rw [given, given, List.filter_append, List.filter_cons_of_pos (by simpa using hk), List.getLast?_append_cons]

/-- **An entry in front of another one of the same setting does not count**, not even as a fault. -/
theorem ofEntries_shadowed {f : Field} {k k' : String} (hk : f.Spells k) (hk' : f.Spells k')
    {before between after : Entries} {v w : Value}
    (h : (Entries.keys (before ++ (k, v) :: (between ++ (k', w) :: after))).Nodup) :
    ofEntries (before ++ (k, v) :: (between ++ (k', w) :: after))
      = ofEntries (before ++ (between ++ (k', w) :: after)) := by
  have hsub : (before ++ (between ++ (k', w) :: after)).Sublist
      (before ++ (k, v) :: (between ++ (k', w) :: after)) :=
    (List.sublist_cons_self _ _).append_left before
  have hgiven : ∀ g, given g (before ++ (k, v) :: (between ++ (k', w) :: after))
      = given g (before ++ (between ++ (k', w) :: after)) := by
    intro g
    by_cases hg : g.Spells k
    · obtain rfl := hk.unique hg
      rw [← List.cons_append, ← List.append_assoc, given_append_cons hk', ← List.append_assoc,
        given_append_cons hk']
    · rw [given, given, List.filter_append, List.filter_cons_of_neg (by simpa using hg), ← List.filter_append]
  have hstrangers : strangers (before ++ (k, v) :: (between ++ (k', w) :: after))
      = strangers (before ++ (between ++ (k', w) :: after)) := by
    have hknown : Known k := ⟨f, f.mem_all, hk⟩
    rw [strangers, strangers, Entries.keys, Entries.keys, List.map_append, List.map_append, List.map_cons,
      List.filter_append, List.filter_append, List.filter_cons_of_neg (by simpa using hknown)]
  exact ofEntries_congr h ((hsub.map Prod.fst).nodup h) hgiven hstrangers

/-- The same entry, maybe under the other name of its setting. -/
def SameEntry (p q : String × Value) : Prop :=
  p.2 = q.2 ∧ (p.1 = q.1 ∨ ∃ f : Field, f.Spells p.1 ∧ f.Spells q.1)

/-- The same entries in the same order, each under one of the names of its setting. -/
def Respelt (t t' : Entries) : Prop := List.Forall₂ SameEntry t t'

theorem SameEntry.shortened_eq {p q : String × Value} (h : SameEntry p q) : shortened p = shortened q := by
  obtain ⟨hvalue, hkey | ⟨f, hp, hq⟩⟩ := h
  · rw [shortened, shortened, hvalue, hkey]
  · rw [shortened, shortened, hvalue, canonicalKey_eq_key_iff.mpr hp, canonicalKey_eq_key_iff.mpr hq]

theorem Respelt.map_shortened {t t' : Entries} (h : Respelt t t') : t.map shortened = t'.map shortened := by
  induction h with
  | nil => rfl
  | cons hpq _ ih => rw [List.map_cons, List.map_cons, hpq.shortened_eq, ih]

/-- **The names under which settings are given do not matter.** -/
theorem Respelt.ofEntries_eq {t t' : Entries} (h : Respelt t t') : ofEntries t' = ofEntries t := by
  have hcanonical : canonical t' = canonical t := congrArg Entries.ofPairs h.map_shortened.symm
  unfold ofEntries
  rw [hcanonical]

theorem Respelt.strangers_eq {t t' : Entries} (h : Respelt t t') : strangers t' = strangers t := by
  rw [strangers, strangers, ← filter_map_canonicalKey, ← filter_map_canonicalKey, ← keys_map_shortened,
    ← keys_map_shortened, h.map_shortened]

/-- No setting is given twice. -/
def GivenOnce (t : Entries) : Prop := ∀ f : Field, (t.filter fun p => f.Spells p.1).length ≤ 1

theorem given_of_perm {t u : Entries} (honce : GivenOnce t) (h : t.Perm u) (f : Field) :
    given f u = given f t := by
  have heq : ∀ {xs ys : Entries}, xs.Perm ys → xs.length ≤ 1 → ys = xs := by
    intro xs ys hperm hle
    match xs with
    | [] => exact List.perm_nil.mp hperm.symm
    | [x] => exact List.perm_singleton.mp hperm.symm
    | _ :: _ :: _ => simp at hle
  rw [given, given, heq (h.filter _) (honce f)]

/-- **The order of the entries does not matter** to the settings; unknown keys are in their order. -/
theorem ofEntries_of_perm {t u : Entries} (ht : (Entries.keys t).Nodup) (honce : GivenOnce t) (h : t.Perm u) :
    (∀ o, ofEntries t = .ok o → ofEntries u = .ok o)
      ∧ (∀ fs, ofEntries t = .error fs →
        ofEntries u = .error (settingFaults t ++ (strangers u).map .unknownKey))
      ∧ (strangers u).Perm (strangers t) := by
  have hu : (Entries.keys u).Nodup := (h.map Prod.fst).nodup_iff.mp ht
  have hgiven := given_of_perm honce h
  have hstrangers : (strangers u).Perm (strangers t) := (h.map Prod.fst).symm.filter _
  have hfaults : settingFaults u = settingFaults t := by
    simp only [settingFaults, hgiven]
  refine ⟨?_, ?_, hstrangers⟩
  · intro o hok
    obtain ⟨hnone, hsettles⟩ := (ofEntries_eq_ok_iff ht).mp hok
    rw [hnone] at hstrangers
    exact (ofEntries_eq_ok_iff hu).mpr ⟨hstrangers.eq_nil, hsettles.congr hgiven⟩
  · intro fs herror
    obtain ⟨hne, rfl⟩ := (ofEntries_eq_error_iff ht).mp herror
    refine (ofEntries_eq_error_iff hu).mpr ⟨?_, by rw [hfaults]⟩
    intro hnil
    obtain ⟨hsettings, hmap⟩ := List.append_eq_nil_iff.mp hnil
    rw [List.map_eq_nil_iff.mp hmap] at hstrangers
    rw [hsettings, hstrangers.symm.eq_nil] at hne
    exact hne rfl

/-- **Settings do not depend on the order and the names of entries.**  A table, whose keys are distinct, is
    accepted exactly if each key is a name of a setting and the last entry of each setting, under either of its
    names, holds a value of the setting.  These values are the options; a setting without entry has its default.
    Otherwise all faults are reported: one for each setting whose last entry holds something else, in the order
    of the settings, then one for each unknown key, in the order of the table.

    An entry in front of another one of the same setting changes nothing, and nor does the other name of a
    setting.  If no setting is given twice, the order of the entries changes nothing either, except that unknown
    keys are reported in their new order. -/
theorem ofEntries_by_last_entries {t : Entries} (h : (Entries.keys t).Nodup) :
    ((∃ o, ofEntries t = .ok o)
        ↔ (∀ k ∈ Entries.keys t, Known k) ∧ ∀ f v, given f t = some v → f.fault? v = none)
      ∧ (∀ o, ofEntries t = .ok o ↔ (∀ k ∈ Entries.keys t, Known k) ∧ Settles t o)
      ∧ (∀ fs, ofEntries t = .error fs ↔ fs ≠ [] ∧ fs = settingFaults t ++ (strangers t).map .unknownKey)
      ∧ (∀ (f : Field) v fault, f.fault? v = some fault → fault.key = f.key ∧ ∀ k, fault ≠ .unknownKey k)
      ∧ (∀ (f : Field) before k v between k' w after, t = before ++ (k, v) :: (between ++ (k', w) :: after) →
        f.Spells k → f.Spells k' → ofEntries t = ofEntries (before ++ (between ++ (k', w) :: after)))
      ∧ (∀ t', Respelt t t' → ofEntries t' = ofEntries t)
      ∧ (GivenOnce t → ∀ u t', t.Perm u → Respelt u t' →
        (∀ o, ofEntries t' = .ok o ↔ ofEntries t = .ok o)
          ∧ (∀ fs, ofEntries t = .error fs →
            ofEntries t' = .error (settingFaults t ++ (strangers t').map .unknownKey))
          ∧ (strangers t').Perm (strangers t)) := by
  refine ⟨?_, ?_, fun fs => ofEntries_eq_error_iff h, fun f v fault => Field.fault?_eq_some, ?_,
    fun t' hrespelt => hrespelt.ofEntries_eq, ?_⟩
  · rw [← strangers_eq_nil_iff, ← settingFaults_eq_nil_iff]
    rcases ofEntries_cases h with ⟨o, hrun, -, hsettings, hnone⟩ | ⟨hrun, hsome⟩
    · exact iff_of_true ⟨o, hrun⟩ ⟨hnone, hsettings⟩
    · refine iff_of_false (by simp [hrun]) ?_
      rintro ⟨hnone, hsettings⟩
      exact hsome.elim (fun hne => hne hsettings) (fun hne => hne hnone)
  · intro o
    rw [ofEntries_eq_ok_iff h, strangers_eq_nil_iff]
  · rintro f before k v between k' w after rfl hk hk'
    exact ofEntries_shadowed hk hk' h
  · intro honce u t' hperm hrespelt
    obtain ⟨hok, herror, hstrangers⟩ := ofEntries_of_perm h honce hperm
    rw [hrespelt.ofEntries_eq, hrespelt.strangers_eq]
    refine ⟨?_, herror, hstrangers⟩
    intro o
    refine ⟨?_, hok o⟩
    intro hrun
    cases ht : ofEntries t with
    | ok o' => rw [← hrun, hok o' ht]
    | error fs =>
        rw [herror fs ht] at hrun
        cases hrun

/-- A setting under both of its names, the first time with a value that it can not have. -/
def shadowedFlag : Entries :=
  [("code.extractor.fuzzy_parsing", .null), ("invalid_condition", .str "TRUE"), ("fuzzy_parsing", .bool true)]

theorem ofEntries_by_last_entries_shadowedFlag :
    (Entries.keys shadowedFlag).Nodup ∧ ofEntries shadowedFlag = .ok ⟨false, true, .assumeTrue⟩ := by
  have hnodup : (Entries.keys shadowedFlag).Nodup := by decide
  exact ⟨hnodup, ((ofEntries_by_last_entries hnodup).2.1 _).mpr ⟨by decide, ⟨rfl, rfl, rfl⟩⟩⟩

end Settings

end HashIf
