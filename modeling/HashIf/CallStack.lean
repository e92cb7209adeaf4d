/-!
# `HashIf.CallStack`: the room for nested calls

Three stages of reading a condition are recursions that follow its nesting: the joining of calls, the
binding of operators and the making of a formula.  Each call that is open takes a frame of the call
stack, whose room is limited.  A recursion that would need more frames than there are is given up, and the
condition is refused.

What a recursion needs is counted by functions of its own, beside the recursion.  They count the calls of
the functions that call each other; the helpers that these call and that return at once are left out.

## Contents
- `CallStack`, `CallStack.grown`: the frames that are left.
- `CallStack.within`: a recursion that is given up if it needs more frames.
- `framesInTurn`: two recursions one after the other.
-/

namespace HashIf

/-- The room on the call stack: how many frames are left when the reading of a condition starts. -/
class CallStack where
  frames : Nat

namespace CallStack

/-- The room of a program that starts with a thousand frames, some of which its callers take. -/
instance standard : CallStack := ⟨980⟩

/-- The stack with `n` more frames. -/
abbrev grown (s : CallStack) (n : Nat) : CallStack := ⟨s.frames + n⟩

/-- The result of a recursion that needs `n` frames: `overflow` if there are fewer. -/
@[macro_inline] def within [s : CallStack] (n : Nat) (overflow : ε) (result : Except ε α) :
    Except ε α :=
  if s.frames < n then .error overflow else result

theorem within_eq_ok_iff [s : CallStack] {n : Nat} {overflow : ε} {result : Except ε α} {a : α} :
    within n overflow result = .ok a ↔ n ≤ s.frames ∧ result = .ok a := by
  unfold within
  split
  · rename_i h
    exact ⟨fun h' => (by cases h'), fun ⟨h', _⟩ => absurd h (Nat.not_lt.mpr h')⟩
  · rename_i h
    exact ⟨fun h' => ⟨Nat.not_lt.mp h, h'⟩, fun ⟨_, h'⟩ => h'⟩

/-- A recursion fails because it is given up or by a fault of its own. -/
theorem within_eq_error [CallStack] {n : Nat} {overflow fault : ε} {result : Except ε α}
    (h : within n overflow result = .error fault) : fault = overflow ∨ result = .error fault := by
  unfold within at h
  split at h
  · exact .inl (Except.error.inj h).symm
  · exact .inr h

theorem mapError_within [CallStack] (n : Nat) (overflow : ε) (result : Except ε α) (f : ε → ε') :
    (within n overflow result).mapError f = within n (f overflow) (result.mapError f) := by
  unfold within
  split <;> rfl

end CallStack

/-- The frames that two recursions need in turn, the second one only if the first one has a result. -/
def framesInTurn (result : Except ε α) (first second : Nat) : Nat :=
  match result with
  | .error _ => first
  | .ok _ => max first second

theorem framesInTurn_le (result : Except ε α) (first second : Nat) :
    framesInTurn result first second ≤ max first second := by
  cases result with
  | error _ => exact Nat.le_max_left _ _
  | ok _ => exact Nat.le_refl _

end HashIf
