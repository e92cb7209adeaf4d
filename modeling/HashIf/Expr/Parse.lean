import HashIf.Expr.Brackets
import HashIf.Expr.Frames
import HashIf.Token.Lexer

/-!
# `HashIf.Expr.Parse`: from text to a resolved tree

The text is split into tokens, brackets are matched, calls are joined and operators are bound.
The first fault ends the reading, and every report on it names the whole text.
-/

namespace HashIf.Expr

/-- The resolved tree of nested groups. -/
def bindNested (nested : Expr) : Except LocatedFault Expr :=
  match resolve (detectCalls nested) with
  | .error f => .error f
  | .ok e => if e.hasGroup then .error ⟨.unresolvedGroup, none⟩ else .ok e

/-- The resolved tree of a list of tokens. -/
def resolveTokens [CallStack] (tokens : List Token) : Except LocatedFault Expr :=
  match ofTokens tokens with
  | .error f => .error f
  | .ok nested => CallStack.within (bindingFrames nested) ⟨.nestedTooDeeply, none⟩ (bindNested nested)

/-- The resolved tree of a condition. -/
def parse [CallStack] (text : String) : Except Failure Expr :=
  match Token.lex text with
  | .error f => .error f
  | .ok tokens => (resolveTokens tokens).mapError fun f => .rejected (.ofLocated (some text) f)

end HashIf.Expr
