-- The letters and digits of ASCII, and the two case maps that touch only
-- them. Protocol words compare without regard to this case, and to no other.

namespace WebRequest.Text

/-- A text with the capital letters of ASCII made small. -/
def lower (s : String) : String := String.ofList (s.toList.map Char.toLower)

/-- A text with the small letters of ASCII made capital. -/
def upper (s : String) : String := String.ofList (s.toList.map Char.toUpper)

/-- Two texts that differ at most in the case of ASCII letters. -/
def sameWord (a b : String) : Bool := lower a == lower b

/-- A character of a token: the words of the protocol, such as methods and the names of
fields, are made of these. -/
def isTokenChar (c : Char) : Bool := c.isAlphanum || "!#$%&'*+-.^_`|~".toList.contains c

def digitValue (c : Char) : Option Nat :=
  if c.isDigit then some (c.toNat - '0'.toNat) else none

/-- The value of a hexadecimal digit of either case. -/
def hexDigitValue (c : Char) : Option Nat :=
  if c.isDigit then some (c.toNat - '0'.toNat)
  else if 'a' ≤ c ∧ c ≤ 'f' then some (c.toNat - 'a'.toNat + 10)
  else if 'A' ≤ c ∧ c ≤ 'F' then some (c.toNat - 'A'.toNat + 10)
  else none

/-- The two halves of a list around its first element that satisfies `p`, without that
element; `none` when there is no such element. -/
def splitFirst {α : Type} (p : α → Bool) (xs : List α) : Option (List α × List α) :=
  match xs.dropWhile (fun x => !p x) with
  | [] => none
  | _ :: after => some (xs.takeWhile (fun x => !p x), after)

@[simp] theorem splitFirst_nil {α : Type} (p : α → Bool) : splitFirst p [] = none := rfl

theorem splitFirst_cons {α : Type} (p : α → Bool) (x : α) (xs : List α) :
    splitFirst p (x :: xs) =
      if p x then some ([], xs)
      else (splitFirst p xs).map fun (before, after) => (x :: before, after) := by
  by_cases h : p x = true
  · simp [splitFirst, h]
  · simp only [splitFirst, h, List.dropWhile_cons, List.takeWhile_cons, Bool.not_false, if_true]
    cases xs.dropWhile (fun x => !p x) <;> simp

/-- The halves and the element between them make up the list, and the first half is free of
elements that satisfy `p`. -/
theorem splitFirst_eq_some {α : Type} {p : α → Bool} {xs before after : List α}
    (h : splitFirst p xs = some (before, after)) :
    (∀ x ∈ before, p x = false) ∧ ∃ x, p x = true ∧ xs = before ++ x :: after := by
  induction xs generalizing before with
  | nil => simp at h
  | cons x xs ih =>
    rw [splitFirst_cons] at h
    by_cases hx : p x = true
    · simp only [hx, if_true, Option.some.injEq, Prod.mk.injEq] at h
      obtain ⟨rfl, rfl⟩ := h
      exact ⟨by simp, x, hx, rfl⟩
    · simp only [hx] at h
      obtain ⟨⟨b, a⟩, hb, he⟩ := Option.map_eq_some_iff.1 h
      simp only [Prod.mk.injEq] at he
      obtain ⟨rfl, rfl⟩ := he
      obtain ⟨h1, y, hy, rfl⟩ := ih hb
      refine ⟨?_, y, hy, rfl⟩
      intro z hz
      rcases List.mem_cons.1 hz with rfl | hz
      · simpa using hx
      · exact h1 z hz

theorem splitFirst_eq_none {α : Type} {p : α → Bool} {xs : List α} :
    splitFirst p xs = none ↔ ∀ x ∈ xs, p x = false := by
  induction xs with
  | nil => simp
  | cons x xs ih => by_cases hx : p x = true <;> simp [splitFirst_cons, hx, ih]

/-- The first element that satisfies `p` parts a list that is made up around it. -/
theorem splitFirst_append_cons {α : Type} {p : α → Bool} {before : List α} {x : α}
    (none_ : ∀ y ∈ before, p y = false) (hx : p x = true) (after : List α) :
    splitFirst p (before ++ x :: after) = some (before, after) := by
  induction before with
  | nil => simp [splitFirst_cons, hx]
  | cons y before ih =>
    have rest := ih fun z hz => none_ z (List.mem_cons_of_mem y hz)
    simp [splitFirst_cons, none_ y List.mem_cons_self, rest]

end WebRequest.Text
