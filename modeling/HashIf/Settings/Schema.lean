import HashIf.Condition.Options
import HashIf.Document.Value
import HashIf.Text.Blank

/-!
# `HashIf.Settings.Schema`: which settings there are and what they may hold

There are three settings.  Each can be given under its own name or under the dotted name that
extractor configurations use.  All faults of a table are reported: those of the settings first, in
the order of the settings, then the unknown keys in the order of the table.

## Contents
- `Field`: the three settings.
- `SettingFault`: what can be wrong.
- `canonical`: the table with every key in its short form.
- `flag`, `policy`: the values of settings.
- `ofEntries`: the options that a table describes.
-/

namespace HashIf.Settings

open HashIf.Condition (Options InvalidPolicy)
open HashIf.Document (Value Entries)

/-- A setting. -/
inductive Field where
  | linux | fuzzy | invalid
  deriving DecidableEq, Repr

namespace Field

/-- The settings in the order of their declaration. -/
def all : List Field := [linux, fuzzy, invalid]

/-- The short name of a setting. -/
def key : Field → String
  | linux => "handle_linux_macros"
  | fuzzy => "fuzzy_parsing"
  | invalid => "invalid_condition"

/-- The name of a setting in extractor configurations. -/
def dottedKey (f : Field) : String := "code.extractor." ++ f.key

end Field

/-- What is wrong with a table of settings. -/
inductive SettingFault where
  /-- A text or an integer that is no truth value. -/
  | unreadableFlag (field : Field)
  /-- A value of a kind that can not be a truth value. -/
  | notFlag (field : Field)
  /-- A value that names no policy. -/
  | unknownPolicy
  /-- A key that is no setting. -/
  | unknownKey (key : String)
  deriving DecidableEq, Repr

namespace SettingFault

/-- The key that the fault is about. -/
def key : SettingFault → String
  | unreadableFlag f | notFlag f => f.key
  | unknownPolicy => Field.invalid.key
  | unknownKey k => k

/-- The wording of a fault. -/
def message : SettingFault → String
  | unreadableFlag _ => "Input should be a valid boolean, unable to interpret input"
  | notFlag _ => "Input should be a valid boolean"
  | unknownPolicy => "Input should be 'EXCEPTION', 'TRUE' or 'ERROR_VARIABLE'"
  | unknownKey _ => "Extra inputs are not permitted"

end SettingFault

/-- The short form of a key. -/
def canonicalKey (key : String) : String :=
  ((Field.all.find? (·.dottedKey == key)).map Field.key).getD key

/-- The table with every key in its short form; the last of several values counts. -/
def canonical (t : Entries) : Entries := Entries.ofPairs (t.map fun p => (canonicalKey p.1, p.2))

/-! ## Truth values -/

/-- The texts for false. -/
def falseWords : List String := ["0", "off", "f", "false", "n", "no"]

/-- The texts for true. -/
def trueWords : List String := ["1", "on", "t", "true", "y", "yes"]

/-- The size of the least signed integer of sixty-four bits. -/
def wordLimit : Int := 9223372036854775808

/-- Whether an integer fits into a signed word of sixty-four bits. -/
def fitsWord (n : Int) : Bool := -wordLimit ≤ n && n < wordLimit

/-- Whether a double stands for an integer strictly between the limits of a signed word. -/
def isWordFloat (x : Binary64) : Bool := x.isIntegral && -wordLimit < x.toInt && x.toInt < wordLimit

/-- The truth value of a setting. -/
def flag (field : Field) : Value → Except SettingFault Bool
  | .bool b => .ok b
  | .int n =>
    if n = 0 then .ok false
    else if n = 1 then .ok true
    else if fitsWord n then .error (.unreadableFlag field)
    else .error (.notFlag field)
  | .float x =>
    if !isWordFloat x then .error (.notFlag field)
    else if x.toInt = 0 then .ok false
    else if x.toInt = 1 then .ok true
    else .error (.unreadableFlag field)
  | .str s =>
    let word := s.toLower
    if falseWords.contains word then .ok false
    else if trueWords.contains word then .ok true
    else .error (.unreadableFlag field)
  | _ => .error (.notFlag field)

/-! ## Policies -/

/-- The capital of a letter that occurs in the name of a policy; the dotless `ı` has the same
    capital as `i`. -/
def capital (c : Char) : Char := if c.toNat = 0x131 then 'I' else c.toUpper

/-- The policy that a setting names, in any case and between any white space. -/
def policy : Value → Except SettingFault InvalidPolicy
  | .str s =>
    match InvalidPolicy.ofName? (String.ofList ((Text.trim s.toList).map capital)) with
    | some p => .ok p
    | none => .error .unknownPolicy
  | _ => .error .unknownPolicy

/-! ## Tables -/

/-- The value of a setting, or the one it has when it is absent. -/
def settingOr (absent : α) (read : Value → Except SettingFault α) (t : Entries) (f : Field) :
    Except SettingFault α :=
  match Entries.get? f.key t with
  | none => .ok absent
  | some v => read v

/-- The fault of a result, if it is one. -/
def faultOf : Except SettingFault α → List SettingFault
  | .ok _ => []
  | .error f => [f]

/-- The keys of a table that are no settings. -/
def unknownKeys (t : Entries) : List SettingFault :=
  (t.filter fun p => !(Field.all.map Field.key).contains p.1).map fun p => .unknownKey p.1

/-- The options that a table describes, or everything that is wrong with it. -/
def ofEntries (table : Entries) : Except (List SettingFault) Options :=
  let t := canonical table
  let linux := settingOr Options.default.linux (flag .linux) t .linux
  let fuzzy := settingOr Options.default.fuzzy (flag .fuzzy) t .fuzzy
  let invalid := settingOr Options.default.invalid policy t .invalid
  let unknown := unknownKeys t
  match linux, fuzzy, invalid, unknown with
  | .ok l, .ok z, .ok p, [] => .ok ⟨l, z, p⟩
  | _, _, _, _ => .error (faultOf linux ++ faultOf fuzzy ++ faultOf invalid ++ unknown)

end HashIf.Settings
