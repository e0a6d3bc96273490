-- How long someone waits. Patience is counted in waits and not in time: whoever has
-- patience for so many waits gives up at the last of them.

namespace WebRequest

/-- The waits that someone stands before giving up; `none` is without end. -/
abbrev Patience := Option Nat

/-- What is left of the patience after a wait; nothing is left after the last one. -/
def Patience.afterWait : Patience → Option Patience
  | none => some none
  | some n => if 1 < n then some (some (n - 1)) else none

/-- The answer of an operation that may be given up while it waits. -/
inductive Awaited (α : Type) where
  | ready (answer : α)
  | abandoned
  deriving DecidableEq, Repr

/-- The answer with something done to it. -/
def Awaited.map {α β : Type} (f : α → β) : Awaited α → Awaited β
  | .ready a => .ready (f a)
  | .abandoned => .abandoned

@[simp] theorem Patience.afterWait_none : afterWait none = some none := rfl

end WebRequest
