-- Texts in pieces. Parting a text at separators leaves pieces without separators that are made of
-- what the text is made of; trimming takes away nothing but what it is meant to.
import Mathlib.Data.List.DropRight
import Mathlib.Data.List.TakeWhile
import WebRequest.Text.Ascii
import WebRequest.Text.Blank

namespace WebRequest.Text

variable {α : Type} {p : α → Bool}

/-! ## Pieces -/

/-- A piece between separators: it stands in the text, and no separator is in it. -/
structure PieceOf (p : α → Bool) (xs piece : List α) : Prop where
  within : piece <:+: xs
  free : ∀ x ∈ piece, p x = false

theorem PieceOf.cons {xs piece : List α} (h : PieceOf p xs piece) (x : α) :
    PieceOf p (x :: xs) piece :=
  ⟨h.within.trans (List.suffix_cons x xs).isInfix, h.free⟩

/-- The pieces are pieces, and the first one leads the text. -/
theorem pieces_of_splitOnP {xs first : List α} {others : List (List α)}
    (h : xs.splitOnP p = first :: others) :
    first <+: xs ∧ ∀ piece ∈ first :: others, PieceOf p xs piece := by
  induction xs generalizing first others with
  | nil =>
    cases h
    refine ⟨List.prefix_refl [], ?_⟩
    intro piece hpiece
    obtain rfl := List.mem_singleton.1 hpiece
    exact ⟨List.infix_refl [], by simp⟩
  | cons x xs ih =>
    obtain ⟨lead, rest, split⟩ := List.exists_cons_of_ne_nil (List.splitOnP_ne_nil p xs)
    obtain ⟨leads, pieces⟩ := ih split
    rw [List.splitOnP_cons_eq_if_modifyHead, split] at h
    by_cases separates : p x = true
    · rw [if_pos separates] at h
      cases h
      refine ⟨List.nil_prefix, ?_⟩
      intro piece hpiece
      rcases List.mem_cons.1 hpiece with rfl | hpiece
      · exact { within := List.nil_infix, free := by simp }
      · exact (pieces piece hpiece).cons x
    · rw [if_neg separates] at h
      cases h
      have longer : x :: lead <+: x :: xs := List.cons_prefix_cons.2 ⟨rfl, leads⟩
      refine ⟨longer, ?_⟩
      intro piece hpiece
      rcases List.mem_cons.1 hpiece with rfl | hpiece
      · refine ⟨longer.isInfix, ?_⟩
        intro y hy
        rcases List.mem_cons.1 hy with rfl | hy
        · exact eq_false_of_ne_true separates
        · exact (pieces lead List.mem_cons_self).free y hy
      · exact (pieces piece (List.mem_cons_of_mem lead hpiece)).cons x

theorem pieceOf_of_mem_splitOnP {xs piece : List α} (h : piece ∈ xs.splitOnP p) :
    PieceOf p xs piece := by
  obtain ⟨first, others, split⟩ := List.exists_cons_of_ne_nil (List.splitOnP_ne_nil p xs)
  rw [split] at h
  exact (pieces_of_splitOnP split).2 piece h

theorem head?_splitOnP (p : α → Bool) (xs : List α) :
    (xs.splitOnP p).head? = some (xs.takeWhile fun x => !p x) := by
  induction xs with
  | nil => rfl
  | cons x xs ih =>
    rw [List.splitOnP_cons_eq_if_modifyHead]
    by_cases separates : p x = true
    · simp [separates]
    · simp [separates, ih]

/-! ## Pieces that are kept -/

section Keeping

theorem intercalate_sublist (ys : List α) {l l' : List (List α)} (h : l.Sublist l') :
    (ys.intercalate l).Sublist (ys.intercalate l') := by
  induction h with
  | slnil => exact List.Sublist.refl _
  | @cons l l' x h ih =>
    refine ih.trans ?_
    by_cases empty : l' = []
    · rw [empty, List.intercalate_nil]
      exact List.nil_sublist _
    · rw [List.intercalate_cons_of_ne_nil empty]
      exact List.sublist_append_right _ _
  | @cons_cons l l' x h ih =>
    by_cases empty : l = []
    · rw [empty, List.intercalate_singleton]
      by_cases empty' : l' = []
      · rw [empty', List.intercalate_singleton]
      · rw [List.intercalate_cons_of_ne_nil empty', List.append_assoc]
        exact List.sublist_append_left _ _
    · have empty' : l' ≠ [] := by
        rintro rfl
        exact empty (List.sublist_nil.1 h)
      rw [List.intercalate_cons_of_ne_nil empty, List.intercalate_cons_of_ne_nil empty']
      exact (List.Sublist.refl _).append ih

/-- A way to write elements, under which the separator becomes one of another kind that occurs in
nothing else that is written. -/
structure Writes {β : Type} (write : α → List β) (sep : α) (sep' : β) : Prop where
  separator : write sep = [sep']
  other : ∀ x, sep' ∈ write x → x = sep

variable {β : Type} {write : α → List β} {sep : α} {sep' : β}

theorem Writes.flatMap_intercalate (h : Writes write sep sep') (pieces : List (List α)) :
    ([sep].intercalate pieces).flatMap write =
      [sep'].intercalate (pieces.map (·.flatMap write)) := by
  induction pieces with
  | nil => rfl
  | cons piece pieces ih =>
    by_cases empty : pieces = []
    · rw [empty, List.map_singleton, List.intercalate_singleton, List.intercalate_singleton]
    · rw [List.map_cons, List.intercalate_cons_of_ne_nil empty,
        List.intercalate_cons_of_ne_nil (by simpa using empty), ← ih]
      simp [h.separator]

variable [BEq α] [LawfulBEq α] [BEq β] [LawfulBEq β]

/-- A list without those of its pieces between separators that are not to be kept. -/
def keeping (sep : α) (keep : List α → Bool) (xs : List α) : List α :=
  [sep].intercalate ((xs.splitOn sep).filter keep)

theorem not_mem_of_mem_splitOn {xs piece : List α} (h : piece ∈ xs.splitOn sep) :
    sep ∉ piece := by
  intro hsep
  rw [List.splitOn_eq_splitOnP] at h
  have other := (pieceOf_of_mem_splitOnP h).free sep hsep
  simp at other

/-- The pieces of what is kept are those that are kept, if there are any. -/
theorem splitOn_keeping {keep : List α → Bool} {xs : List α}
    (some_ : (xs.splitOn sep).filter keep ≠ []) :
    (keeping sep keep xs).splitOn sep = (xs.splitOn sep).filter keep := by
  refine List.splitOn_intercalate sep (fun piece hpiece => ?_) some_
  exact not_mem_of_mem_splitOn (List.mem_filter.1 hpiece).1

theorem keeping_sublist (sep : α) (keep : List α → Bool) (xs : List α) :
    (keeping sep keep xs).Sublist xs := by
  have whole := intercalate_sublist [sep] (List.filter_sublist (p := keep) (l := xs.splitOn sep))
  rwa [List.intercalate_splitOn] at whole

/-- What is written is parted where the list is. -/
theorem Writes.splitOn_flatMap (h : Writes write sep sep') (xs : List α) :
    (xs.flatMap write).splitOn sep' = (xs.splitOn sep).map (·.flatMap write) := by
  have pieces : xs.flatMap write = [sep'].intercalate ((xs.splitOn sep).map (·.flatMap write)) := by
    rw [← h.flatMap_intercalate, List.intercalate_splitOn]
  rw [pieces]
  apply List.splitOn_intercalate
  · intro written hwritten
    obtain ⟨piece, hpiece, rfl⟩ := List.mem_map.1 hwritten
    intro hmem
    obtain ⟨x, hx, hsep⟩ := List.mem_flatMap.1 hmem
    rw [h.other x hsep] at hx
    exact not_mem_of_mem_splitOn hpiece hx
  · rw [List.splitOn_eq_splitOnP]
    simp

/-- It makes no difference whether pieces are left out before or after the writing. -/
theorem Writes.flatMap_keeping (h : Writes write sep sep') (keep : List β → Bool) (xs : List α) :
    (keeping sep (fun piece => keep (piece.flatMap write)) xs).flatMap write =
      keeping sep' keep (xs.flatMap write) := by
  unfold keeping
  rw [h.flatMap_intercalate, h.splitOn_flatMap, List.filter_map]
  rfl

end Keeping

/-! ## Trimming -/

theorem dropWhile_of_free {xs : List α} (h : ∀ x ∈ xs.head?, p x = false) :
    xs.dropWhile p = xs := by
  cases xs with
  | nil => rfl
  | cons x xs =>
    have hx : p x = false := h x rfl
    rw [List.dropWhile_cons_of_neg (ne_true_of_eq_false hx)]

theorem dropEnd_snoc {x : α} (h : p x = false) (xs : List α) :
    dropEnd p (xs ++ [x]) = xs ++ [x] := by
  have stops : ∀ y ∈ (xs ++ [x]).reverse.head?, p y = false := by
    simpa using h
  rw [dropEnd, dropWhile_of_free stops, List.reverse_reverse]

theorem dropEnd_append {behind : List α} (h : ∀ x ∈ behind, p x = true) (xs : List α) :
    dropEnd p (xs ++ behind) = dropEnd p xs := by
  have taken : ∀ x ∈ behind.reverse, p x = true := fun x hx => h x (List.mem_reverse.1 hx)
  rw [dropEnd, List.reverse_append, List.dropWhile_append_of_pos taken, dropEnd]

theorem dropEnd_of_free {xs : List α} (h : ∀ x ∈ xs, p x = false) : dropEnd p xs = xs := by
  have stops : ∀ x ∈ xs.reverse.head?, p x = false :=
    fun x hx => h x (List.mem_reverse.1 (List.mem_of_mem_head? hx))
  rw [dropEnd, dropWhile_of_free stops, List.reverse_reverse]

theorem strip_of_free {xs : List α} (h : ∀ x ∈ xs, p x = false) : strip p xs = xs := by
  rw [strip, dropWhile_of_free fun x hx => h x (List.mem_of_mem_head? hx), dropEnd_of_free h]

theorem dropEnd_within (p : α → Bool) (xs : List α) : dropEnd p xs <+: xs := by
  have tail := List.dropWhile_suffix p (l := xs.reverse)
  rw [← List.reverse_prefix, List.reverse_reverse] at tail
  exact tail

theorem strip_within (p : α → Bool) (xs : List α) : strip p xs <:+: xs :=
  (dropEnd_within p (xs.dropWhile p)).isInfix.trans (List.dropWhile_suffix p).isInfix

/-- An end of the kind that is taken goes, and what is not of the kind stays. -/
theorem strip_snoc {xs : List α} {x : α} (h : ∀ y ∈ xs, p y = false) (hx : p x = true) :
    strip p (xs ++ [x]) = xs := by
  cases xs with
  | nil => simp [strip, dropEnd, hx]
  | cons y xs =>
    have stops : ∀ z ∈ (y :: xs ++ [x]).head?, p z = false := by
      rintro z ⟨⟩
      exact h y List.mem_cons_self
    have taken : ∀ z ∈ [x], p z = true := by simpa using hx
    rw [strip, dropWhile_of_free stops, dropEnd_append taken, dropEnd_of_free h]

/-- Two ends of the kind that is taken go, and what is between them stays. -/
theorem strip_between {xs : List α} {x y : α} (h : ∀ z ∈ xs, p z = false) (hx : p x = true)
    (hy : p y = true) : strip p (x :: (xs ++ [y])) = xs := by
  have inside := strip_snoc h hy
  rw [strip] at inside ⊢
  rw [List.dropWhile_cons_of_pos hx, inside]

/-- With something at the end that is not taken, and more behind it that is, only the front is
trimmed. -/
theorem strip_append_cons {xs behind : List α} {x : α} (hx : p x = false)
    (taken : ∀ y ∈ behind, p y = true) :
    strip p (xs ++ x :: behind) = xs.dropWhile p ++ [x] := by
  have front : (xs ++ x :: behind).dropWhile p = xs.dropWhile p ++ [x] ++ behind := by
    rw [List.dropWhile_append]
    split
    · rename_i all
      rw [List.isEmpty_iff.1 all, List.dropWhile_cons_of_neg (ne_true_of_eq_false hx)]
      rfl
    · rw [List.append_assoc]
      rfl
  rw [strip, front, dropEnd_append taken, dropEnd_snoc hx]

theorem mem_strip {xs : List α} {x : α} (hx : p x = false) (h : x ∈ xs) : x ∈ strip p xs := by
  have stays {ys : List α} (hy : x ∈ ys) : x ∈ ys.dropWhile p := by
    rw [← List.takeWhile_append_dropWhile (p := p) (l := ys), List.mem_append] at hy
    rcases hy with taken | left
    · rw [List.mem_takeWhile_imp taken] at hx
      cases hx
    · exact left
  exact List.mem_reverse.2 (stays (List.mem_reverse.2 (stays h)))

theorem strip_eq_nil_iff {xs : List α} : strip p xs = [] ↔ ∀ x ∈ xs, p x = true := by
  constructor
  · intro nothing x hx
    by_contra stays
    have left := mem_strip (eq_false_of_ne_true stays) hx
    rw [nothing] at left
    cases left
  · intro all
    rw [strip, List.dropWhile_eq_nil_iff.2 all]
    rfl

/-- What is taken stands at the ends. -/
theorem exists_strip (p : α → Bool) (xs : List α) :
    ∃ before behind, xs = before ++ strip p xs ++ behind ∧ ∀ x ∈ before ++ behind, p x = true := by
  have taken {ys : List α} : ∀ x ∈ ys.takeWhile p, p x = true := fun x hx =>
    List.mem_takeWhile_imp hx
  refine ⟨xs.takeWhile p, ((xs.dropWhile p).reverse.takeWhile p).reverse, ?_, ?_⟩
  · rw [List.append_assoc, strip, dropEnd, ← List.reverse_append, List.takeWhile_append_dropWhile,
      List.reverse_reverse, List.takeWhile_append_dropWhile]
  · intro x hx
    rcases List.mem_append.1 hx with front | back
    · exact taken x front
    · exact taken x (List.mem_reverse.1 back)

/-- What stands at the ends is taken. -/
theorem strip_append {before xs behind : List α} (free : ∀ x ∈ xs, p x = false)
    (taken : ∀ x ∈ before ++ behind, p x = true) : strip p (before ++ xs ++ behind) = xs := by
  have front : ∀ x ∈ before, p x = true := fun x hx => taken x (List.mem_append_left behind hx)
  have back : ∀ x ∈ behind, p x = true := fun x hx => taken x (List.mem_append_right before hx)
  cases xs with
  | nil =>
    rw [List.append_nil]
    exact strip_eq_nil_iff.2 taken
  | cons x xs =>
    have stops : ∀ y ∈ (x :: xs ++ behind).head?, p y = false := by
      rintro y ⟨⟩
      exact free x List.mem_cons_self
    rw [strip, List.append_assoc, List.dropWhile_append_of_pos front, dropWhile_of_free stops,
      dropEnd_append back, dropEnd_of_free free]

theorem strip_strip (p : α → Bool) (xs : List α) : strip p (strip p xs) = strip p xs := by
  have front : (dropEnd p (xs.dropWhile p)).dropWhile p = dropEnd p (xs.dropWhile p) := by
    apply dropWhile_of_free
    intro x hx
    have leads : x ∈ (xs.dropWhile p).head? := by
      obtain ⟨behind, split⟩ := dropEnd_within p (xs.dropWhile p)
      rw [← split, List.head?_append, Option.mem_def.1 hx]
      rfl
    have stops := List.head?_dropWhile_not p xs
    rw [Option.mem_def.1 leads] at stops
    exact stops
  rw [strip, strip, front, dropEnd, dropEnd, List.reverse_reverse, List.dropWhile_idempotent]

/-! ## Letters -/

theorem isAlpha_iff (c : Char) :
    c.isAlpha = true ↔ 65 ≤ c.toNat ∧ c.toNat ≤ 90 ∨ 97 ≤ c.toNat ∧ c.toNat ≤ 122 := by
  unfold Char.isAlpha Char.isUpper Char.isLower
  simp [UInt32.le_iff_toNat_le]

theorem not_isBlank_of_isAlphanum {c : Char} (h : c.isAlphanum = true) : isBlank c = false := by
  have bounds : 48 ≤ c.toNat ∧ c.toNat ≤ 122 := by
    rw [Char.isAlphanum, Bool.or_eq_true, isAlpha_iff] at h
    simp [Char.isDigit, UInt32.le_iff_toNat_le] at h
    omega
  simp [isBlank]
  omega

theorem toNat_toLower (c : Char) :
    c.toLower.toNat = if 65 ≤ c.toNat ∧ c.toNat ≤ 90 then c.toNat + 32 else c.toNat := by
  unfold Char.toLower
  split
  · rename_i h
    simp [UInt32.le_iff_toNat_le] at h
    simp [h]
    omega
  · rename_i h
    simp [UInt32.le_iff_toNat_le] at h
    rw [if_neg (by omega)]

theorem toNat_toUpper (c : Char) :
    c.toUpper.toNat = if 97 ≤ c.toNat ∧ c.toNat ≤ 122 then c.toNat - 32 else c.toNat := by
  unfold Char.toUpper
  split
  · rename_i h
    simp [UInt32.le_iff_toNat_le] at h
    simp [h]
    omega
  · rename_i h
    simp [UInt32.le_iff_toNat_le] at h
    rw [if_neg (by omega)]

theorem isAlpha_toLower (c : Char) : c.toLower.isAlpha = c.isAlpha := by
  rw [Bool.eq_iff_iff, isAlpha_iff, isAlpha_iff, toNat_toLower]
  split <;> omega

theorem toLower_toLower (c : Char) : c.toLower.toLower = c.toLower := by
  apply Char.toNat_inj.1
  rw [toNat_toLower c.toLower, if_neg]
  rw [toNat_toLower c]
  split <;> omega

theorem toUpper_toUpper (c : Char) : c.toUpper.toUpper = c.toUpper := by
  apply Char.toNat_inj.1
  rw [toNat_toUpper c.toUpper, if_neg]
  rw [toNat_toUpper c]
  split <;> omega

theorem lower_lower (s : String) : lower (lower s) = lower s := by
  have twice : Char.toLower ∘ Char.toLower = Char.toLower := funext toLower_toLower
  simp [lower, twice]

theorem upper_upper (s : String) : upper (upper s) = upper s := by
  have twice : Char.toUpper ∘ Char.toUpper = Char.toUpper := funext toUpper_toUpper
  simp [upper, twice]

/-- A capital letter is a letter, and any other character is its own capital. -/
theorem isAlphanum_toUpper {c : Char} (h : c.isAlphanum = true) : c.toUpper.isAlphanum = true := by
  by_cases small : 97 ≤ c.toNat ∧ c.toNat ≤ 122
  · have letter : c.toUpper.isAlpha = true := by
      rw [isAlpha_iff, toNat_toUpper, if_pos small]
      omega
    simp [Char.isAlphanum, letter]
  · have same : c.toUpper = c := by
      apply Char.toNat_inj.1
      rw [toNat_toUpper, if_neg small]
    rw [same, h]

/-- Making letters small gives a character that is no letter from itself only. -/
theorem toLower_eq_iff {c d : Char} (h : d.isAlpha = false) : c.toLower = d ↔ c = d := by
  have plain : ∀ e : Char, e.isAlpha = false → e.toLower = e := by
    intro e he
    apply Char.toNat_inj.1
    rw [toNat_toLower]
    rw [Bool.eq_false_iff, ne_eq, isAlpha_iff] at he
    rw [if_neg (by omega)]
  constructor
  · rintro rfl
    rw [isAlpha_toLower] at h
    exact (plain c h).symm
  · rintro rfl
    exact plain c h

theorem mem_map_toLower_iff {cs : List Char} {d : Char} (h : d.isAlpha = false) :
    d ∈ cs.map Char.toLower ↔ d ∈ cs := by
  simp [List.mem_map, toLower_eq_iff h]

end WebRequest.Text
