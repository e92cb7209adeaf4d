import HashIf.Expr
import HashIf.Fault
import HashIf.Token

/-!
# `HashIf.Expr.Brackets`: from tokens to nested groups

Brackets are matched with a stack of frames.  The innermost frame collects items; an opening
bracket pushes a frame and a closing one turns the innermost frame into a group of the next.

## Contents
- `Frame`, `nest`: the loop over the tokens.
- `ofTokens`: the whole condition as a group, or its only item.
-/

namespace HashIf.Expr

/-- An open bracket, or the start of the text, with the items behind it, the last one first. -/
structure Frame where
  pos : Nat
  items : List Expr

/-- The frame with one more item. -/
def Frame.push (f : Frame) (e : Expr) : Frame := ⟨f.pos, e :: f.items⟩

/-- The group that a closing bracket makes of a frame. -/
def Frame.close (f : Frame) : Expr := .group f.items.reverse (some f.pos)

/-- Reads tokens into the innermost frame; `outer` are the frames around it. -/
def nest (frame : Frame) (outer : List Frame) :
    List Token → Except LocatedFault (Frame × List Frame)
  | [] => .ok (frame, outer)
  | .bracket p true :: ts => nest ⟨p, []⟩ (frame :: outer) ts
  | .bracket p false :: ts =>
    match outer with
    | [] => .error ⟨.tooManyClosing, some p⟩
    | up :: outer => nest (up.push frame.close) outer ts
  | .name p s :: ts => nest (frame.push (.var s (some p))) outer ts
  | .operator p op :: ts => nest (frame.push (.mark op (some p))) outer ts
  | .number p _ v :: ts => nest (frame.push (.num v (some p))) outer ts

/-- The items as one expression: a single item is the expression itself. -/
def ofItems : List Expr → Expr
  | [e] => e
  | items => .group items (some 0)

/-- The expression whose groups are the bracketed parts of the tokens. -/
def ofTokens (tokens : List Token) : Except LocatedFault Expr :=
  match nest ⟨0, []⟩ [] tokens with
  | .error f => .error f
  | .ok (frame, []) => .ok (ofItems frame.items.reverse)
  | .ok (_, _ :: _) =>
    .error ⟨.missingClosing, tokens.getLast?.map fun t => (t.endPos : Int)⟩

end HashIf.Expr
