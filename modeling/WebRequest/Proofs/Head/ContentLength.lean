-- The announced length of a body. It is the number that the first value of its field writes in
-- decimal digits, whatever spaces and tabs are around it, and nothing else is taken for a length;
-- but a plus sign before the digits is passed over. Nothing wraps around, neither at 64 bits nor
-- at 31.
import WebRequest.Head.Basic
import WebRequest.Proofs.Numeral
import WebRequest.Proofs.Text

namespace WebRequest.RequestHead

open Numeral Text

/-! ## The value of a field -/

/-- The value of a field is a text within spaces and tabs. -/
def Surrounds (value : Bytes) (text : List Char) : Prop :=
  ∃ before behind, Bytes.toChars value = before ++ text ++ behind ∧
    ∀ c ∈ before ++ behind, c = ' ' ∨ c = '\t'

/-- A character of a number. -/
def InNumber (c : Char) : Prop := c = '+' ∨ c.isDigit = true

theorem toNat_charOf (b : UInt8) : (Bytes.charOf b).toNat = b.toNat := by
  have bound := UInt8.toNat_lt b
  have valid : b.toNat.isValidChar := .inl (by omega)
  rw [Bytes.charOf, Char.ofNat, dif_pos valid]
  rfl

theorem isPlainByte_iff {b : UInt8} :
    isPlainByte b = true ↔ 32 ≤ b.toNat ∧ b.toNat < 127 ∨ b.toNat = 9 := by
  simp [isPlainByte, UInt8.le_iff_toNat_le, UInt8.lt_iff_toNat_lt, ← UInt8.toNat_inj]

theorem toNat_of_isDigit {c : Char} (h : c.isDigit = true) : 48 ≤ c.toNat ∧ c.toNat ≤ 57 := by
  simpa [Char.isDigit, UInt32.le_iff_toNat_le] using h

theorem blank_of_plain {b : UInt8} (plain : isPlainByte b = true)
    (blank : isBlank (Bytes.charOf b) = true) :
    Bytes.charOf b = ' ' ∨ Bytes.charOf b = '\t' := by
  have number : b.toNat = 32 ∨ b.toNat = 9 := by
    rw [isPlainByte_iff] at plain
    simp [isBlank, toNat_charOf] at blank
    omega
  rcases number with h | h
  · exact .inl (by rw [Bytes.charOf, h])
  · exact .inr (by rw [Bytes.charOf, h])

theorem plain_of_char {b : UInt8}
    (h : (Bytes.charOf b = ' ' ∨ Bytes.charOf b = '\t') ∨ InNumber (Bytes.charOf b)) :
    isPlainByte b = true := by
  rw [isPlainByte_iff, ← toNat_charOf b]
  rcases h with (h | h) | h | h
  · rw [h]; decide
  · rw [h]; decide
  · rw [h]; decide
  · have bounds := toNat_of_isDigit h
    omega

theorem not_isBlank_of_inNumber {c : Char} (h : InNumber c) : isBlank c = false := by
  rcases h with rfl | digit
  · decide
  · exact not_isBlank_of_isAlphanum (by simp [Char.isAlphanum, digit])

/-- What is left of a value without the blanks around it, if that can be a number. -/
theorem strip_valueText?_iff {value : Bytes} {number : List Char}
    (inNumber : ∀ c ∈ number, InNumber c) :
    (∃ s, HeaderFields.valueText? value = some s ∧ strip isBlank s.toList = number) ↔
      Surrounds value number := by
  unfold HeaderFields.valueText?
  constructor
  · rintro ⟨s, text, rfl⟩
    split at text
    · rename_i plain
      cases text
      rw [String.toList_ofList]
      obtain ⟨before, behind, split, taken⟩ := exists_strip isBlank (Bytes.toChars value)
      refine ⟨before, behind, split, fun c hc => ?_⟩
      have sent : c ∈ Bytes.toChars value := by
        rw [split]
        rcases List.mem_append.1 hc with front | back
        · exact List.mem_append_left _ (List.mem_append_left _ front)
        · exact List.mem_append_right _ back
      obtain ⟨b, hb, rfl⟩ := List.mem_map.1 sent
      exact blank_of_plain (List.all_eq_true.1 plain b hb) (taken _ hc)
    · cases text
  · rintro ⟨before, behind, split, blanks⟩
    have plain : value.all isPlainByte = true := by
      rw [List.all_eq_true]
      intro b hb
      have sent : Bytes.charOf b ∈ before ++ number ++ behind := split ▸ List.mem_map_of_mem hb
      apply plain_of_char
      rcases List.mem_append.1 sent with sent | back
      · rcases List.mem_append.1 sent with front | inside
        · exact .inl (blanks _ (List.mem_append_left behind front))
        · exact .inr (inNumber _ inside)
      · exact .inl (blanks _ (List.mem_append_right before back))
    refine ⟨_, if_pos plain, ?_⟩
    rw [String.toList_ofList, split]
    refine strip_append (fun c hc => not_isBlank_of_inNumber (inNumber c hc)) fun c hc => ?_
    rcases blanks c hc with rfl | rfl <;> decide

theorem inNumber_of_denotes {sign digits : List Char} {n : Nat} (h : IsSign sign)
    (denotes : Denotes digits n) : ∀ c ∈ sign ++ digits, InNumber c := by
  intro c hc
  rcases List.mem_append.1 hc with plus | digit
  · rcases h with rfl | rfl
    · cases plus
    · exact .inl (List.mem_singleton.1 plus)
  · exact .inr (denotes.digit c digit)

/-! ## The length -/

theorem values_eq_nil_iff {h : HeaderFields} {name : String} :
    h.values name = [] ↔ ∀ field ∈ h.fields, field.1 ≠ name := by
  simp [HeaderFields.values, List.filterMap_eq_nil_iff]

theorem text?_eq_some_iff {h : HeaderFields} {name s : String} :
    h.text? name = some s ↔
      ∃ value, (h.values name).head? = some value ∧ HeaderFields.valueText? value = some s := by
  rw [HeaderFields.text?, Option.bind_eq_some_iff]

theorem ok_of_toOption {α : Type} {x : Except IntegerFault α} {a : α} (h : x.toOption = some a) :
    x = .ok a := by
  cases x with
  | error f => cases h
  | ok b => exact congrArg Except.ok (Option.some.inj h)

theorem length31?_eq_some_iff {length : Option Nat} {n : Nat} :
    length31? length = some n ↔ length = some n ∧ n ≤ 2 ^ 31 - 1 := by
  rw [length31?, Option.filter_eq_some_iff, decide_eq_true_eq]
  exact and_congr_right fun _ => Nat.lt_iff_le_pred (by decide)

/-- A length is known if and only if the body is not sent in another encoding, and the first value
announced writes it in decimal digits, with a plus sign before them or none, within spaces and tabs,
and it fits into 64 bits. It is known as a number of 31 bits if and only if it fits into them. -/
theorem a_length_is_known_by_its_digits (h : RequestHead) (n : Nat) :
    (h.contentLength = some n ↔
      (∀ field ∈ h.fields.fields, field.1 ≠ "transfer-encoding") ∧
      ∃ value, (h.fields.values "content-length").head? = some value ∧
        ∃ sign digits, IsSign sign ∧ Surrounds value (sign ++ digits) ∧ Denotes digits n ∧
          n ≤ 2 ^ 64 - 1) ∧
    (length31? h.contentLength = some n ↔ h.contentLength = some n ∧ n ≤ 2 ^ 31 - 1) := by
  refine ⟨?_, length31?_eq_some_iff⟩
  rw [← values_eq_nil_iff, contentLength]
  by_cases sent : h.fields.values "transfer-encoding" = []
  · rw [sent]
    simp only [List.isEmpty_nil, if_true, true_and, Option.bind_eq_some_iff, text?_eq_some_iff]
    constructor
    · rintro ⟨s, ⟨value, first, text⟩, read⟩
      obtain ⟨sign, digits, isSign, number, denotes, le⟩ := readNat_eq_ok_iff.1 (ok_of_toOption read)
      refine ⟨value, first, sign, digits, isSign, ?_, denotes, le⟩
      exact (strip_valueText?_iff (inNumber_of_denotes isSign denotes)).1 ⟨s, text, number⟩
    · rintro ⟨value, first, sign, digits, isSign, surrounds, denotes, le⟩
      obtain ⟨s, text, number⟩ :=
        (strip_valueText?_iff (inNumber_of_denotes isSign denotes)).2 surrounds
      refine ⟨s, ⟨value, first, text⟩, ?_⟩
      have read : readNat max64 (strip isBlank s.toList) = .ok n :=
        readNat_eq_ok_iff.2 ⟨sign, digits, isSign, number, denotes, le⟩
      rw [read]
      rfl
  · rw [if_neg (by simpa using sent)]
    exact iff_of_false nofun fun known => sent known.1

/-- A number with a plus sign is no digits, and yet it is taken for a length. -/
theorem a_signed_length_is_known :
    let value := Bytes.ofText "+5"
    let h : RequestHead :=
      { method := "POST", uri := { path := "/" }, version := .v11,
        fields := ⟨[("content-length", value)]⟩ }
    (h.fields.values "content-length").head? = some value ∧ h.contentLength = some 5 ∧
      ∀ digits n, Denotes digits n → ¬ Surrounds value digits := by
  intro value h
  have chars : Bytes.toChars value = ['+', '5'] := by decide +kernel
  refine ⟨by decide +kernel, by decide +kernel, ?_⟩
  rintro digits n denotes ⟨before, behind, split, blanks⟩
  rw [chars] at split
  have plus : '+' ∈ before ++ digits ++ behind := split ▸ List.mem_cons_self
  rcases List.mem_append.1 plus with plus | back
  · rcases List.mem_append.1 plus with front | inside
    · exact absurd (blanks '+' (List.mem_append_left behind front)) (by decide)
    · exact absurd (denotes.digit '+' inside) (by decide)
  · exact absurd (blanks '+' (List.mem_append_right before back)) (by decide)

end WebRequest.RequestHead
