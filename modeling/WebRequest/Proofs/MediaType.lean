-- The essence of a media type and its suffix. A subtype is parted at its last plus sign, and
-- nothing is lost by that. The kind of a body leaves the suffix out, so it is told by an essence
-- that is that of a form, or would be but for a suffix.
import Mathlib.Data.List.Basic
import Mathlib.Data.List.TakeWhile
import WebRequest.Parameters.Parser

namespace WebRequest.MediaType

/-- A suffix as it stands behind the subtype. -/
def suffixChars : Option (List Char) → List Char
  | none => []
  | some suffix => '+' :: suffix

/-- A list with a plus sign in it is what stands before and behind the last one. -/
theorem exists_last_plus {cs : List Char} (h : '+' ∈ cs) :
    ∃ before, cs = before ++ '+' :: (cs.reverse.takeWhile (· ≠ '+')).reverse := by
  have parts := List.takeWhile_append_dropWhile (p := (· ≠ '+')) (l := cs.reverse)
  generalize cs.reverse.takeWhile (· ≠ '+') = behind at parts ⊢
  cases hd : cs.reverse.dropWhile (· ≠ '+') with
  | nil =>
    have none_ := List.dropWhile_eq_nil_iff.1 hd '+' (List.mem_reverse.2 h)
    simp at none_
  | cons c before =>
    have plus : c = '+' := by
      have first := List.head?_dropWhile_not (· ≠ '+') cs.reverse
      rw [hd] at first
      simpa using first
    rw [hd, plus] at parts
    refine ⟨before.reverse, ?_⟩
    calc cs = cs.reverse.reverse := (List.reverse_reverse cs).symm
      _ = (behind ++ '+' :: before).reverse := by rw [parts]
      _ = before.reverse ++ '+' :: behind.reverse := by simp

theorem splitSuffix_append (cs : List Char) :
    (splitSuffix cs).1 ++ suffixChars (splitSuffix cs).2 = cs := by
  unfold splitSuffix
  split
  · rfl
  · rename_i first rest
    split
    · rename_i plus
      obtain ⟨before, split⟩ := exists_last_plus (List.contains_iff_mem.1 plus)
      generalize (rest.reverse.takeWhile (· ≠ '+')).reverse = suffix at split
      subst split
      have length : (before ++ '+' :: suffix).length - suffix.length - 1 = before.length := by
        simp
        omega
      simp only [length, List.take_left, suffixChars, List.cons_append]
    · exact List.append_nil _

variable {m : MediaType} {form : String}

/-- Type and subtype, without the suffix. -/
def bare (m : MediaType) : String := m.type ++ "/" ++ m.subtype

/-- The essence is the given one, or it would be but for a suffix. -/
def Matches (m : MediaType) (form : String) : Prop :=
  m.essence = form ∨ ∃ suffix, m.suffix = some suffix ∧ m.essence = form ++ "+" ++ suffix

theorem toList_essence (m : MediaType) :
    m.essence.toList =
      m.bare.toList ++ suffixChars (splitSuffix m.fullSubtype.toList).2 := by
  have subtype : m.subtype.toList = (splitSuffix m.fullSubtype.toList).1 := String.toList_ofList
  simp only [essence, bare, String.toList_append, List.append_assoc, subtype, splitSuffix_append]

theorem essence_of_no_suffix (h : m.suffix = none) : m.essence = m.bare := by
  have none_ : (splitSuffix m.fullSubtype.toList).2 = none := Option.map_eq_none_iff.1 h
  rw [← String.toList_inj, toList_essence, none_, suffixChars, List.append_nil]

theorem essence_of_suffix {suffix : String} (h : m.suffix = some suffix) :
    m.essence = m.bare ++ "+" ++ suffix := by
  obtain ⟨chars, hchars, rfl⟩ := Option.map_eq_some_iff.1 h
  rw [← String.toList_inj, toList_essence, hchars]
  simp [suffixChars, String.toList_append]

/-- A media type matches a form exactly if its essence without the suffix is that of the form. -/
theorem matches_iff (plain : '+' ∉ form.toList) : m.Matches form ↔ m.bare = form := by
  constructor
  · rintro (same | ⟨suffix, hsuffix, same⟩)
    · cases hs : m.suffix with
      | none => rw [← essence_of_no_suffix hs, same]
      | some suffix =>
        -- a plus sign stands before every suffix, and the form has none
        rw [essence_of_suffix hs] at same
        refine absurd ?_ plain
        simp [← same, String.toList_append]
    · rw [essence_of_suffix hsuffix] at same
      simpa [← String.toList_inj, String.toList_append] using same
  · rintro rfl
    cases hs : m.suffix with
    | none => exact .inl (essence_of_no_suffix hs)
    | some suffix => exact .inr ⟨suffix, hs, essence_of_suffix hs⟩

/-- Type and subtype can be told from what stands around the only slash. -/
theorem bare_eq_iff {type subtype : String} (plain : '/' ∉ type.toList)
    (plain' : '/' ∉ subtype.toList) :
    m.bare = type ++ "/" ++ subtype ↔ m.type = type ∧ m.subtype = subtype := by
  have parts : type.toList ++ '/' :: subtype.toList = m.type.toList ++ '/' :: m.subtype.toList ↔
      type.toList = m.type.toList ∧ '/' = '/' ∧ subtype.toList = m.subtype.toList :=
    List.append_cons_inj_of_notMem plain plain'
  simp only [true_and, String.toList_inj] at parts
  rw [eq_comm, ← String.toList_inj]
  simp only [bare, String.toList_append, List.append_assoc]
  exact parts.trans (and_congr eq_comm eq_comm)

end WebRequest.MediaType

namespace WebRequest.Parameters

/-- The media types of the bodies that are parsed. -/
def forms : List String := ["application/x-www-form-urlencoded", "multipart/form-data"]

theorem urlEncoded_iff {m : MediaType} :
    m.type = "application" ∧ m.subtype = "x-www-form-urlencoded" ↔
      m.Matches "application/x-www-form-urlencoded" := by
  rw [MediaType.matches_iff (by decide)]
  exact (MediaType.bare_eq_iff (by decide) (by decide)).symm

theorem multipart_iff {m : MediaType} :
    m.type = "multipart" ∧ m.subtype = "form-data" ↔ m.Matches "multipart/form-data" := by
  rw [MediaType.matches_iff (by decide)]
  exact (MediaType.bare_eq_iff (by decide) (by decide)).symm

/-- The content is a form, by an essence that is that of a form or would be but for a suffix. -/
def IsForm (content : Option MediaType) : Prop :=
  ∃ m form, content = some m ∧ form ∈ forms ∧ m.Matches form

/-- A body is parsed exactly if its content is a form. -/
theorem kind_ne_other_iff {content : Option MediaType} :
    BodyKind.of content ≠ .other ↔ IsForm content := by
  cases content with
  | none => simp [BodyKind.of, IsForm]
  | some m =>
    have parts : BodyKind.of (some m) ≠ .other ↔
        m.type = "application" ∧ m.subtype = "x-www-form-urlencoded" ∨
          m.type = "multipart" ∧ m.subtype = "form-data" := by
      unfold BodyKind.of
      simp only [Bool.and_eq_true, beq_iff_eq]
      split
      · simp [*]
      · split
        · simp [*]
        · simp [*]
    rw [parts, urlEncoded_iff, multipart_iff]
    simp [IsForm, forms]

theorem isForm_iff_of_no_suffix {m : MediaType} (h : m.suffix = none) :
    IsForm (some m) ↔ m.essence ∈ forms := by
  simp [IsForm, MediaType.Matches, h]

end WebRequest.Parameters
