-- The numbers that decimal digits write. Reading digits from the left gives the number they write,
-- however many zeros lead them, as long as it stays within the bound; a plus sign is passed over.
import Mathlib.Data.Nat.Digits.Defs
import WebRequest.Numeral.Integer

namespace WebRequest.Numeral

/-- The number that digits write, the most significant one first. -/
def valueOf (digits : List Char) : Nat :=
  Nat.ofDigits 10 (digits.reverse.map fun c => c.toNat - '0'.toNat)

/-- A number written in decimal digits; zeros may lead it. -/
structure Denotes (digits : List Char) (n : Nat) : Prop where
  nonempty : digits ≠ []
  digit : ∀ c ∈ digits, c.isDigit = true
  value : valueOf digits = n

@[simp] theorem valueOf_nil : valueOf [] = 0 := rfl

theorem valueOf_cons (c : Char) (cs : List Char) :
    valueOf (c :: cs) = (c.toNat - '0'.toNat) * 10 ^ cs.length + valueOf cs := by
  rw [valueOf, List.reverse_cons, List.map_append, Nat.ofDigits_append, List.map_singleton,
    Nat.ofDigits_singleton, List.length_map, List.length_reverse, Nat.add_comm, Nat.mul_comm]
  rfl

theorem readMagnitude_eq_ok_iff {bound v n : Nat} {excess : IntegerFault} {cs : List Char}
    (within : v ≤ bound) :
    readMagnitude bound excess v cs = .ok n ↔
      (∀ c ∈ cs, c.isDigit = true) ∧ v * 10 ^ cs.length + valueOf cs = n ∧ n ≤ bound := by
  induction cs generalizing v with
  | nil =>
    simp only [readMagnitude, Except.ok.injEq, List.length_nil, valueOf_nil]
    constructor
    · rintro rfl
      simpa using within
    · rintro ⟨-, rfl, -⟩
      simp
  | cons c cs ih =>
    unfold readMagnitude Text.digitValue
    by_cases digit : c.isDigit = true
    · rw [if_pos digit]
      simp only
      have shifted : v * 10 ^ (c :: cs).length + valueOf (c :: cs) =
          (v * 10 + (c.toNat - '0'.toNat)) * 10 ^ cs.length + valueOf cs := by
        rw [valueOf_cons, List.length_cons, Nat.pow_succ]
        ring
      rw [shifted, List.forall_mem_cons, and_iff_right digit]
      by_cases fits : v * 10 + (c.toNat - '0'.toNat) ≤ bound
      · rw [if_pos fits]
        exact ih fits
      · -- what does not fit now fits all the less with digits behind it
        rw [if_neg fits]
        refine iff_of_false (by rintro ⟨⟩) ?_
        rintro ⟨-, rfl, le⟩
        have positive : 1 ≤ 10 ^ cs.length := Nat.one_le_pow _ _ (by decide)
        have grows := Nat.mul_le_mul_left (v * 10 + (c.toNat - '0'.toNat)) positive
        omega
    · rw [if_neg digit]
      refine iff_of_false (by rintro ⟨⟩) ?_
      rintro ⟨digits, -⟩
      exact digit (digits c List.mem_cons_self)

theorem readDigits_eq_ok_iff {bound n : Nat} {excess : IntegerFault} {cs : List Char} :
    readDigits bound excess cs = .ok n ↔ Denotes cs n ∧ n ≤ bound := by
  cases cs with
  | nil => exact iff_of_false nofun fun h => h.1.nonempty rfl
  | cons c cs =>
    have same : readDigits bound excess (c :: cs) = readMagnitude bound excess 0 (c :: cs) := rfl
    rw [same, readMagnitude_eq_ok_iff (Nat.zero_le bound), Nat.zero_mul, Nat.zero_add]
    constructor
    · rintro ⟨digit, value, le⟩
      exact ⟨⟨by simp, digit, value⟩, le⟩
    · rintro ⟨⟨-, digit, value⟩, le⟩
      exact ⟨digit, value, le⟩

/-- A plus sign, or nothing. -/
def IsSign (cs : List Char) : Prop := cs = [] ∨ cs = ['+']

/-- A natural number is read from its digits, with a plus sign in front or without. -/
theorem readNat_eq_ok_iff {max n : Nat} {cs : List Char} :
    readNat max cs = .ok n ↔
      ∃ sign digits, IsSign sign ∧ cs = sign ++ digits ∧ Denotes digits n ∧ n ≤ max := by
  cases cs with
  | nil =>
    refine iff_of_false nofun ?_
    rintro ⟨sign, digits, -, empty, denotes, -⟩
    exact denotes.nonempty (List.append_eq_nil_iff.1 empty.symm).2
  | cons c cs =>
    by_cases plus : c = '+'
    · subst plus
      have behind : readNat max ('+' :: cs) = readDigits max .tooLarge cs := rfl
      rw [behind, readDigits_eq_ok_iff]
      constructor
      · rintro ⟨denotes, le⟩
        exact ⟨['+'], cs, .inr rfl, rfl, denotes, le⟩
      · rintro ⟨_, digits, rfl | rfl, same, denotes, le⟩
        · obtain rfl : '+' :: cs = digits := same
          exact absurd (denotes.digit '+' List.mem_cons_self) (by decide)
        · obtain rfl := (List.cons.inj same).2
          exact ⟨denotes, le⟩
    · have all : readNat max (c :: cs) = readDigits max .tooLarge (c :: cs) := by
        unfold readNat
        split
        · contradiction
        · rename_i same
          exact absurd (List.cons.inj same).1 plus
        · rfl
      rw [all, readDigits_eq_ok_iff]
      constructor
      · rintro ⟨denotes, le⟩
        exact ⟨[], c :: cs, .inl rfl, rfl, denotes, le⟩
      · rintro ⟨_, digits, rfl | rfl, same, denotes, le⟩
        · obtain rfl : c :: cs = digits := same
          exact ⟨denotes, le⟩
        · exact absurd (List.cons.inj same).1 plus

end WebRequest.Numeral
