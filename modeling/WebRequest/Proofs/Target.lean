-- Paths that are canonical already. Making a path canonical gives such a path, and changes none
-- of them; so a path comes back as it was exactly if it was canonical.
import Mathlib.Data.List.Basic
import WebRequest.Proofs.Text
import WebRequest.Target

namespace WebRequest.Target

/-! ## Segments -/

/-- A segment that stands for itself. -/
def Ordinary (segment : List Char) : Prop :=
  segment ≠ [] ∧ segment ≠ ['.'] ∧ segment ≠ ['.', '.']

instance (segment : List Char) : Decidable (Ordinary segment) :=
  inferInstanceAs (Decidable (_ ∧ _ ∧ _))

/-- The path starts with a slash, has no dot segments, and no empty segment but perhaps the last
one. -/
def Canonical (path : List Char) : Prop :=
  ∃ inner last, segments path = [] :: (inner ++ [last]) ∧ (∀ s ∈ inner, Ordinary s) ∧
    (last = [] ∨ Ordinary last)

/-- Segments behind slashes. -/
def behindSlashes (left : List (List Char)) : List Char := left.flatMap fun s => '/' :: s

theorem intercalate_segments (path : List Char) : ['/'].intercalate (segments path) = path := by
  have split_ : segments path = path.splitOn '/' := by
    rw [List.splitOn_eq_splitOnP]
    rfl
  rw [split_, List.intercalate_splitOn]

theorem segments_of_no_slash {s : List Char} (h : '/' ∉ s) : segments s = [s] := by
  apply List.splitOnP_eq_singleton
  intro c hc
  exact decide_eq_false fun he => h (he ▸ hc)

theorem segments_append_slash {s : List Char} (h : '/' ∉ s) (rest : List Char) :
    segments (s ++ '/' :: rest) = s :: segments rest := by
  apply List.splitOnP_append_cons_of_forall_mem
  · intro c hc
    exact decide_eq_false fun he => h (he ▸ hc)
  · rfl

theorem segments_slash (rest : List Char) : segments ('/' :: rest) = [] :: segments rest :=
  segments_append_slash List.not_mem_nil rest

theorem segments_behindSlashes {left : List (List Char)} (h : ∀ s ∈ left, '/' ∉ s)
    (rest : List Char) :
    segments (behindSlashes left ++ '/' :: rest) = [] :: (left ++ segments rest) := by
  induction left with
  | nil => exact segments_slash rest
  | cons s left ih =>
    have hs := h s List.mem_cons_self
    have hleft := fun t ht => h t (List.mem_cons_of_mem s ht)
    -- the rest of the path starts with a slash, whether or not more segments follow
    obtain ⟨more, hmore⟩ : ∃ more, behindSlashes left ++ '/' :: rest = '/' :: more := by
      cases left with
      | nil => exact ⟨rest, rfl⟩
      | cons t left => exact ⟨_, rfl⟩
    have follows := ih hleft
    rw [hmore, segments_slash, List.cons.injEq] at follows
    calc segments (behindSlashes (s :: left) ++ '/' :: rest)
        = segments ('/' :: (s ++ '/' :: more)) := by
          rw [← hmore]
          simp [behindSlashes]
      _ = [] :: s :: segments more := by rw [segments_slash, segments_append_slash hs]
      _ = [] :: (s :: left ++ segments rest) := by rw [follows.2, List.cons_append]

theorem intercalate_eq (inner : List (List Char)) (last : List Char) :
    ['/'].intercalate ([] :: (inner ++ [last])) = behindSlashes inner ++ '/' :: last := by
  have behind (s : List Char) : ['/'].intercalate (s :: (inner ++ [last])) =
      s ++ (behindSlashes inner ++ '/' :: last) := by
    induction inner generalizing s with
    | nil => simp [behindSlashes]
    | cons t inner ih =>
      rw [List.cons_append, List.intercalate_cons_cons, ih]
      simp [behindSlashes]
  exact behind []

theorem eq_behindSlashes {path : List Char} {inner : List (List Char)} {last : List Char}
    (h : segments path = [] :: (inner ++ [last])) : path = behindSlashes inner ++ '/' :: last := by
  rw [← intercalate_eq, ← h, intercalate_segments]

theorem no_slash_of_mem_segments {path s : List Char} (h : s ∈ segments path) : '/' ∉ s := by
  intro hmem
  have free := (Text.pieceOf_of_mem_splitOnP h).free '/' hmem
  simp at free

/-! ## What is left of a path -/

/-- The segments that can be left: they stand for themselves and have no slash in them. -/
def Left (left : List (List Char)) : Prop := ∀ s ∈ left, Ordinary s ∧ '/' ∉ s

theorem cancel_of_ordinary {segment : List Char} (h : Ordinary segment)
    (left : List (List Char)) : cancel left segment = some (segment :: left) := by
  obtain ⟨empty, dot, dots⟩ := h
  unfold cancel
  rw [if_neg (not_or.2 ⟨empty, dot⟩), if_neg dots]

theorem left_of_cancel {left left' : List (List Char)} {segment : List Char} (h : Left left)
    (slash : '/' ∉ segment) (hc : cancel left segment = some left') : Left left' := by
  unfold cancel at hc
  split at hc
  · cases hc
    exact h
  · rename_i plain
    split at hc
    · cases left with
      | nil => cases hc
      | cons s rest =>
        cases hc
        exact fun t ht => h t (List.mem_cons_of_mem s ht)
    · rename_i dots
      cases hc
      intro t ht
      rcases List.mem_cons.1 ht with rfl | ht
      · exact ⟨⟨fun he => plain (.inl he), fun hd => plain (.inr hd), dots⟩, slash⟩
      · exact h t ht

theorem left_of_foldlM {parts left left' : List (List Char)} (h : Left left)
    (slash : ∀ s ∈ parts, '/' ∉ s) (hf : parts.foldlM cancel left = some left') : Left left' := by
  induction parts generalizing left with
  | nil =>
    cases hf
    exact h
  | cons s parts ih =>
    rw [List.foldlM_cons, Option.bind_eq_bind, Option.bind_eq_some_iff] at hf
    obtain ⟨next, hnext, hrest⟩ := hf
    have kept := left_of_cancel h (slash s List.mem_cons_self) hnext
    exact ih kept (fun t ht => slash t (List.mem_cons_of_mem s ht)) hrest

theorem left_of_remaining {path : List Char} {left : List (List Char)}
    (h : remaining? path = some left) : Left left := by
  obtain ⟨reversed, hr, rfl⟩ := Option.map_eq_some_iff.1 h
  have kept : Left reversed :=
    left_of_foldlM (by simp [Left]) (fun s hs => no_slash_of_mem_segments hs) hr
  intro s hs
  exact kept s (List.mem_reverse.1 hs)

/-- Of ordinary and empty segments, the ordinary ones are left. -/
theorem foldlM_of_plain {parts : List (List Char)} (h : ∀ s ∈ parts, s = [] ∨ Ordinary s)
    (left : List (List Char)) :
    parts.foldlM cancel left = some ((parts.filter (· ≠ [])).reverse ++ left) := by
  induction parts generalizing left with
  | nil => rfl
  | cons s parts ih =>
    have rest := ih fun t ht => h t (List.mem_cons_of_mem s ht)
    rcases h s List.mem_cons_self with rfl | ordinary
    · have passed : cancel left [] = some left := rfl
      rw [List.foldlM_cons, passed, Option.bind_eq_bind, Option.bind_some, rest]
      rfl
    · rw [List.foldlM_cons, cancel_of_ordinary ordinary, Option.bind_eq_bind, Option.bind_some,
        rest]
      simp [ordinary.1]

/-! ## Canonical paths -/

/-- The canonical form of a path with some segments left. -/
theorem canonical?_of_remaining {path : List Char} {left : List (List Char)}
    (h : remaining? path = some left) :
    canonical? path = some (if left = [] then ['/'] else
      behindSlashes left ++ if path.getLast? = some '/' then ['/'] else []) := by
  unfold canonical?
  rw [h]
  cases left <;> rfl

theorem canonical_behindSlashes {inner : List (List Char)} {last : List Char}
    (h : Left inner) (slash : '/' ∉ last) (hlast : last = [] ∨ Ordinary last) :
    Canonical (behindSlashes inner ++ '/' :: last) := by
  refine ⟨inner, last, ?_, fun s hs => (h s hs).1, hlast⟩
  rw [segments_behindSlashes (fun s hs => (h s hs).2), segments_of_no_slash slash]

theorem canonical_of_canonical? {path made : List Char} (h : canonical? path = some made) :
    Canonical made := by
  obtain ⟨left, hr, -⟩ := Option.map_eq_some_iff.1 h
  have kept := left_of_remaining hr
  rw [canonical?_of_remaining hr, Option.some.injEq] at h
  subst h
  rcases List.eq_nil_or_concat left with rfl | ⟨inner, last, rfl⟩
  · exact @canonical_behindSlashes [] [] (by simp [Left]) List.not_mem_nil (.inl rfl)
  · rw [List.concat_eq_append] at kept ⊢
    have hinner : Left inner := fun s hs => kept s (by simp [hs])
    obtain ⟨ordinary, slash⟩ := kept last (by simp)
    rw [if_neg (by simp)]
    split
    · exact canonical_behindSlashes kept List.not_mem_nil (.inl rfl)
    · have written : behindSlashes (inner ++ [last]) ++ [] =
          behindSlashes inner ++ '/' :: last := by
        simp [behindSlashes]
      rw [written]
      exact canonical_behindSlashes hinner slash (.inr ordinary)

theorem canonical?_of_canonical {path : List Char} (h : Canonical path) :
    canonical? path = some path := by
  obtain ⟨inner, last, hsegments, hinner, hlast⟩ := h
  have written := eq_behindSlashes hsegments
  have slash : '/' ∉ last := by
    apply @no_slash_of_mem_segments path
    rw [hsegments]
    simp
  have plain : ∀ s ∈ segments path, s = [] ∨ Ordinary s := by
    rw [hsegments]
    intro s hs
    simp only [List.mem_cons, List.mem_append, List.not_mem_nil, or_false] at hs
    rcases hs with rfl | hs | rfl
    · exact .inl rfl
    · exact .inr (hinner s hs)
    · exact hlast
  have remaining : remaining? path = some (inner ++ [last].filter (· ≠ [])) := by
    unfold remaining?
    rw [foldlM_of_plain plain, hsegments]
    simpa using fun s hs => (hinner s hs).1
  rw [canonical?_of_remaining remaining]
  rcases hlast with rfl | ordinary
  · have ends : path.getLast? = some '/' := by simp [written]
    rw [if_pos ends]
    by_cases none_ : inner = []
    · simp [written, none_, behindSlashes]
    · simp [written, none_]
  · have ends : path.getLast? ≠ some '/' := by
      rw [written, List.getLast?_append_cons, List.getLast?_cons_of_ne_nil ordinary.1]
      exact fun he => slash (List.mem_of_getLast? he)
    rw [if_neg ends]
    simp [written, ordinary.1, behindSlashes]

theorem Canonical.head? {path : List Char} (h : Canonical path) : path.head? = some '/' := by
  obtain ⟨inner, last, hsegments, -, -⟩ := h
  rw [eq_behindSlashes hsegments]
  cases inner <;> rfl

theorem resolveChars?_eq_self_iff {path : List Char} :
    resolveChars? path path = some path ↔ Canonical (path.takeWhile (· ≠ '?')) := by
  have parts : path.takeWhile (· ≠ '?') ++ path.dropWhile (· ≠ '?') = path :=
    List.takeWhile_append_dropWhile
  unfold resolveChars?
  constructor
  · intro h
    split at h
    · cases h
    · obtain ⟨made, hmade, same⟩ := Option.map_eq_some_iff.1 h
      have unchanged : made = path.takeWhile (· ≠ '?') :=
        List.append_cancel_right (same.trans parts.symm)
      rw [← unchanged]
      exact canonical_of_canonical? hmade
  · intro h
    have nonempty : ¬ path.isEmpty = true := by
      intro empty
      rw [List.isEmpty_iff.1 empty] at h
      cases h.head?
    have absolute : joined path (path.takeWhile (· ≠ '?')) = path.takeWhile (· ≠ '?') :=
      if_pos h.head?
    rw [if_neg nonempty]
    simp only [absolute, canonical?_of_canonical h, Option.map_some, parts]

/-- A path that is resolved against itself comes back as it was exactly if it is canonical up to
its query. -/
theorem resolve?_eq_self_iff {path : String} :
    resolve? path path = some path ↔ Canonical (path.toList.takeWhile (· ≠ '?')) := by
  rw [← resolveChars?_eq_self_iff]
  unfold resolve?
  constructor
  · intro h
    obtain ⟨made, hmade, rfl⟩ := Option.map_eq_some_iff.1 h
    rw [String.toList_ofList] at hmade ⊢
    exact hmade
  · intro h
    rw [h, Option.map_some, String.ofList_toList]

end WebRequest.Target
