import HashIf.Fault

/-!
# `HashIf.Rejection`: what is reported about a rejected condition

A report has the message, then the condition, then a line of carets under the marked characters.

## Contents
- `markerSet`: offsets in ascending order, each once.
- `caretLine`, `renderReport`: the text of a report.
- `Rejection`: a cause with the condition it was found in and the marked offsets.
- `Failure`: what can end the reading of a condition.
-/

namespace HashIf

/-- Inserts an offset into an ascending list unless it is there already. -/
def insertMarker (k : Int) : List Int → List Int
  | [] => [k]
  | m :: ms => if k < m then k :: m :: ms else if k = m then m :: ms else m :: insertMarker k ms

/-- The offsets in ascending order, each once. -/
def markerSet (ks : List Int) : List Int := ks.foldr insertMarker []

/-- What stands in front of the condition in a report. -/
def conditionLabel : String := "In formula: "

/-- A caret in each marked column, up to the last of the ascending offsets. -/
def carets (markers : List Int) : List Char :=
  let width := (markers.getLast?.getD (-1) + 1).toNat
  (List.range width).map fun (i : Nat) => if markers.contains (i : Int) then '^' else ' '

/-- The line under the condition. -/
def caretLine (markers : List Int) : String :=
  String.ofList (List.replicate conditionLabel.length ' ' ++ carets markers)

/-- The text of a report; without a condition it is the bare message. -/
def renderReport (message : String) (condition : Option String) (markers : List Int) : String :=
  match condition with
  | none => message
  | some text =>
    let head := message ++ "\n" ++ conditionLabel ++ text
    if markers.isEmpty then head else head ++ "\n" ++ caretLine markers

/-- A rejected condition: the cause, the condition if it is known, and ascending offsets. -/
structure Rejection where
  fault : Fault
  condition : Option String
  markers : List Int
  deriving DecidableEq, Repr

namespace Rejection

/-- The report on a cause found in `condition`. -/
def ofLocated (condition : Option String) (f : LocatedFault) : Rejection :=
  ⟨f.fault, condition, f.pos.toList⟩

/-- The text of the report. -/
def render (r : Rejection) : String := renderReport r.fault.message r.condition r.markers

end Rejection

/-- What can end the reading of a condition. -/
inductive Failure where
  /-- The condition is not valid. -/
  | rejected (r : Rejection)
  /-- The condition holds an integer of more digits than can be converted. -/
  | numeralTooLong (digits : Nat)
  deriving DecidableEq, Repr

namespace Failure

/-- The text shown for a failure. -/
def render : Failure → String
  | rejected r => r.render
  | numeralTooLong n =>
    "Exceeds the limit (4300 digits) for integer string conversion: value has " ++ toString n
      ++ " digits; use sys.set_int_max_str_digits() to increase the limit"

end Failure

end HashIf
