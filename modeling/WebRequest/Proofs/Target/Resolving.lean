-- What a target is resolved to. Each `..` takes back the nearest segment before it that is still
-- there; a target is refused exactly when some front part of its path has more of them than
-- segments to take back. What is made of a target is canonical, and it is its own target.
import Mathlib.Data.List.DropRight
import Mathlib.Data.List.Induction
import WebRequest.Proofs.Target

namespace WebRequest.Target

/-! ## Cancelling -/

/-- The segment that takes back another one. -/
def dots : List Char := ['.', '.']

/-- Segments of which nothing is left: each that stands for itself is taken back by a `..`, and what
stands between the two cancels out as well. -/
inductive Cancels : List (List Char) → Prop
  | nil : Cancels []
  | idle {s : List Char} {rest : List (List Char)} (idle : s = [] ∨ s = ['.'])
      (cancels : Cancels rest) : Cancels (s :: rest)
  | pair {s : List Char} {inner rest : List (List Char)} (ordinary : Ordinary s)
      (within : Cancels inner) (cancels : Cancels rest) :
      Cancels (s :: (inner ++ dots :: rest))

/-- The segments that are left of a path: ordinary ones, with nothing but what cancels out before,
between and behind them. -/
inductive Leaves : List (List Char) → List (List Char) → Prop
  | none {parts : List (List Char)} (cancels : Cancels parts) : Leaves parts []
  | segment {before rest left : List (List Char)} {s : List Char} (cancels : Cancels before)
      (ordinary : Ordinary s) (leaves : Leaves rest left) :
      Leaves (before ++ s :: rest) (s :: left)

theorem Cancels.append {a b : List (List Char)} (ha : Cancels a) (hb : Cancels b) :
    Cancels (a ++ b) := by
  induction ha with
  | nil => exact hb
  | idle idle _ ih => exact .idle idle ih
  | pair ordinary within _ _ ih =>
    rw [List.cons_append, List.append_assoc, List.cons_append]
    exact .pair ordinary within ih

theorem Leaves.append_cancels {parts left behind : List (List Char)} (h : Leaves parts left)
    (cancels : Cancels behind) : Leaves (parts ++ behind) left := by
  induction h with
  | none before => exact .none (before.append cancels)
  | segment before ordinary _ ih =>
    rw [List.append_assoc, List.cons_append]
    exact .segment before ordinary ih

theorem Leaves.append_ordinary {parts left : List (List Char)} {s : List Char}
    (h : Leaves parts left) (ordinary : Ordinary s) : Leaves (parts ++ [s]) (left ++ [s]) := by
  induction h with
  | none before => exact .segment before ordinary (.none .nil)
  | segment before first _ ih =>
    rw [List.append_assoc, List.cons_append, List.cons_append]
    exact .segment before first ih

/-- Behind the last segment left, all cancels out. -/
theorem Leaves.split_last {parts left : List (List Char)} {s : List Char}
    (h : Leaves parts (left ++ [s])) :
    ∃ before behind, parts = before ++ s :: behind ∧ Leaves before left ∧ Ordinary s ∧
      Cancels behind := by
  induction left generalizing parts with
  | nil =>
    cases h with
    | @segment before rest _ _ cancels ordinary leaves =>
      cases leaves with
      | none behind => exact ⟨before, rest, rfl, .none cancels, ordinary, behind⟩
  | cons t left ih =>
    cases h with
    | @segment front rest _ _ cancels ordinary leaves =>
      obtain ⟨before, behind, rfl, leaves', last, cancels'⟩ := ih leaves
      refine ⟨front ++ t :: before, behind, ?_, .segment cancels ordinary leaves', last, cancels'⟩
      simp

theorem Leaves.append_dots {parts left : List (List Char)} {s : List Char}
    (h : Leaves parts (left ++ [s])) : Leaves (parts ++ [dots]) left := by
  obtain ⟨before, behind, rfl, leaves, ordinary, cancels⟩ := h.split_last
  have pair : Cancels (s :: (behind ++ [dots])) := .pair ordinary cancels .nil
  rw [List.append_assoc, List.cons_append]
  exact leaves.append_cancels pair

theorem Leaves.mem {parts left : List (List Char)} (h : Leaves parts left) {s : List Char}
    (hs : s ∈ left) : s ∈ parts := by
  induction h with
  | none _ => cases hs
  | @segment before rest left t _ _ _ ih =>
    rcases List.mem_cons.1 hs with rfl | hs
    · simp
    · simp [ih hs]

/-- What one more segment does: it changes nothing, it is left, or it takes back the last one. -/
theorem cancel_cases (left : List (List Char)) (s : List Char) :
    (s = [] ∨ s = ['.']) ∧ cancel left s = some left ∨
      Ordinary s ∧ cancel left s = some (s :: left) ∨ s = dots ∧ cancel left s = left.tail? := by
  by_cases idle : s = [] ∨ s = ['.']
  · exact .inl ⟨idle, if_pos idle⟩
  · by_cases up : s = dots
    · subst up
      cases left <;> exact .inr (.inr ⟨rfl, rfl⟩)
    · have ordinary : Ordinary s := ⟨fun h => idle (.inl h), fun h => idle (.inr h), up⟩
      exact .inr (.inl ⟨ordinary, cancel_of_ordinary ordinary left⟩)

theorem foldlM_snoc (parts : List (List Char)) (s : List Char) (left : List (List Char)) :
    (parts ++ [s]).foldlM cancel left =
      (parts.foldlM cancel left).bind fun reached => cancel reached s := by
  rw [List.foldlM_append, Option.bind_eq_bind]
  simp

/-- The segments that are left, in reverse, after all have been taken. -/
theorem leaves_of_foldlM {parts reversed : List (List Char)}
    (h : parts.foldlM cancel [] = some reversed) : Leaves parts reversed.reverse := by
  induction parts using List.reverseRecOn generalizing reversed with
  | nil =>
    cases h
    exact .none .nil
  | append_singleton parts s ih =>
    rw [foldlM_snoc] at h
    obtain ⟨reached, hreached, hs⟩ := Option.bind_eq_some_iff.1 h
    have leaves := ih hreached
    rcases cancel_cases reached s with ⟨idle, same⟩ | ⟨ordinary, more⟩ | ⟨rfl, back⟩
    · cases same.symm.trans hs
      exact leaves.append_cancels (.idle idle .nil)
    · cases more.symm.trans hs
      rw [List.reverse_cons]
      exact leaves.append_ordinary ordinary
    · cases reached with
      | nil => cases back.symm.trans hs
      | cons t reached =>
        cases back.symm.trans hs
        rw [List.reverse_cons] at leaves
        exact leaves.append_dots

/-! ## Climbing above the root -/

/-- A front part has more `..` than segments for them to take back. -/
def Climbs (parts : List (List Char)) : Prop :=
  ∃ front, front <+: parts ∧ front.countP (fun s => decide (Ordinary s)) < front.count dots

/-- Each ordinary segment is left or has been taken back. -/
theorem countP_of_foldlM {parts reversed : List (List Char)}
    (h : parts.foldlM cancel [] = some reversed) :
    parts.countP (fun s => decide (Ordinary s)) = reversed.length + parts.count dots := by
  induction parts using List.reverseRecOn generalizing reversed with
  | nil =>
    cases h
    rfl
  | append_singleton parts s ih =>
    rw [foldlM_snoc] at h
    obtain ⟨reached, hreached, hs⟩ := Option.bind_eq_some_iff.1 h
    have before := ih hreached
    rw [List.countP_append, List.count_append, before]
    rcases cancel_cases reached s with ⟨idle, same⟩ | ⟨ordinary, more⟩ | ⟨rfl, back⟩
    · cases same.symm.trans hs
      rcases idle with rfl | rfl <;> rfl
    · cases more.symm.trans hs
      have other : s ≠ dots := ordinary.2.2
      simp only [List.countP_singleton, ordinary, decide_true, if_true, List.length_cons]
      rw [List.count_eq_zero_of_not_mem (fun h => other (List.mem_singleton.1 h).symm)]
      omega
    · cases reached with
      | nil => cases back.symm.trans hs
      | cons t reached =>
        cases back.symm.trans hs
        have special : ¬ Ordinary dots := fun ordinary => ordinary.2.2 rfl
        simp [special]
        omega

theorem foldlM_eq_none_iff {parts : List (List Char)} :
    parts.foldlM cancel [] = none ↔ Climbs parts := by
  constructor
  · intro h
    induction parts using List.reverseRecOn with
    | nil => cases h
    | append_singleton parts s ih =>
      cases hp : parts.foldlM cancel [] with
      | none =>
        obtain ⟨front, isFront, more⟩ := ih hp
        exact ⟨front, isFront.trans (List.prefix_append parts [s]), more⟩
      | some reached =>
        -- the last segment is refused, so it is `..` and there is nothing to take back
        rw [foldlM_snoc, hp, Option.bind_some] at h
        have balance := countP_of_foldlM hp
        rcases cancel_cases reached s with ⟨-, same⟩ | ⟨-, more⟩ | ⟨rfl, back⟩
        · cases same.symm.trans h
        · cases more.symm.trans h
        · cases reached with
          | cons t reached => cases back.symm.trans h
          | nil =>
            have special : ¬ Ordinary dots := fun ordinary => ordinary.2.2 rfl
            refine ⟨parts ++ [dots], List.prefix_rfl, ?_⟩
            rw [List.countP_append, List.count_append, balance]
            simp [special]
  · rintro ⟨front, ⟨behind, rfl⟩, more⟩
    rw [List.foldlM_append]
    cases hf : front.foldlM cancel [] with
    | none => rfl
    | some reached =>
      have balance := countP_of_foldlM hf
      omega

/-! ## What a target names -/

/-- A target that starts with a slash names itself. Any other one starts in the directory of the
current path: the path up to its last slash, or the root if it has none. -/
inductive Names (current : List Char) : List Char → List Char → Prop
  | absolute (rest : List Char) : Names current ('/' :: rest) ('/' :: rest)
  | relative {target before file : List Char} (relative : target.head? ≠ some '/')
      (split : current = before ++ '/' :: file) (last : '/' ∉ file) :
      Names current target (before ++ '/' :: target)
  | fromRoot {target : List Char} (relative : target.head? ≠ some '/') (flat : '/' ∉ current) :
      Names current target ('/' :: target)

theorem directory_of_split {before file : List Char} (last : '/' ∉ file) :
    directory (before ++ '/' :: file) = before ++ ['/'] := by
  have passed : ∀ c ∈ file.reverse, decide (c ≠ '/') = true := by
    intro c hc
    exact decide_eq_true fun same => last (same ▸ List.mem_reverse.1 hc)
  unfold directory
  rw [List.reverse_append, List.reverse_cons, List.append_assoc,
    List.dropWhile_append_of_pos passed]
  simp

theorem directory_of_flat {path : List Char} (flat : '/' ∉ path) : directory path = ['/'] := by
  have passed : path.reverse.dropWhile (· ≠ '/') = [] := by
    rw [List.dropWhile_eq_nil_iff]
    intro c hc
    exact decide_eq_true fun same => flat (same ▸ List.mem_reverse.1 hc)
  unfold directory
  rw [passed]

theorem exists_last_slash {path : List Char} (h : '/' ∈ path) :
    ∃ before file, path = before ++ '/' :: file ∧ '/' ∉ file := by
  obtain ⟨file, before, split, last⟩ := List.eq_append_cons_of_mem (List.mem_reverse.2 h)
  refine ⟨before.reverse, file.reverse, ?_, fun hmem => last (List.mem_reverse.1 hmem)⟩
  rw [← List.reverse_reverse path, split]
  simp

theorem names_joined (current target : List Char) :
    Names current target (joined current target) := by
  unfold joined
  by_cases absolute : target.head? = some '/'
  · rw [if_pos absolute]
    cases target with
    | nil => cases absolute
    | cons c rest =>
      cases absolute
      exact .absolute rest
  · rw [if_neg absolute]
    by_cases slash : '/' ∈ current
    · obtain ⟨before, file, rfl, last⟩ := exists_last_slash slash
      rw [directory_of_split last, List.append_assoc]
      exact .relative absolute rfl last
    · rw [directory_of_flat slash]
      exact .fromRoot absolute slash

/-- The segments left of a path as they are written: a slash, slashes between them, and one behind
them if the path ends with one. -/
def written (left : List (List Char)) (path : List Char) : List Char :=
  '/' :: ['/'].intercalate left ++
    if left ≠ [] ∧ path.getLast? = some '/' then ['/'] else []

theorem behindSlashes_eq {left : List (List Char)} (h : left ≠ []) :
    behindSlashes left = '/' :: ['/'].intercalate left := by
  induction left with
  | nil => exact absurd rfl h
  | cons s left ih =>
    cases left with
    | nil => simp [behindSlashes]
    | cons t left =>
      have rest := ih (List.cons_ne_nil t left)
      rw [List.intercalate_cons_cons, List.append_assoc, List.singleton_append, ← rest]
      rfl

theorem canonical?_eq_written {path : List Char} {left : List (List Char)}
    (h : remaining? path = some left) : canonical? path = some (written left path) := by
  rw [canonical?_of_remaining h]
  by_cases none_ : left = []
  · subst none_
    rfl
  · rw [if_neg none_, behindSlashes_eq none_]
    simp [written, none_]

/-! ## No question mark -/

theorem mem_written {left : List (List Char)} {path : List Char} {c : Char}
    (h : c ∈ written left path) : c = '/' ∨ ∃ s ∈ left, c ∈ s := by
  unfold written at h
  by_cases none_ : left = []
  · subst none_
    exact .inl (by simpa using h)
  · rw [← behindSlashes_eq none_, behindSlashes, List.mem_append, List.mem_flatMap] at h
    rcases h with ⟨s, hs, hc⟩ | hc
    · rcases List.mem_cons.1 hc with rfl | hc
      · exact .inl rfl
      · exact .inr ⟨s, hs, hc⟩
    · split at hc
      · exact .inl (List.mem_singleton.1 hc)
      · cases hc

theorem mem_directory {path : List Char} {c : Char} (h : c ∈ directory path) :
    c = '/' ∨ c ∈ path := by
  by_cases slash : '/' ∈ path
  · obtain ⟨before, file, rfl, last⟩ := exists_last_slash slash
    rw [directory_of_split last, List.mem_append, List.mem_singleton] at h
    rcases h with h | h
    · exact .inr (List.mem_append_left _ h)
    · exact .inl h
  · rw [directory_of_flat slash] at h
    exact .inl (List.mem_singleton.1 h)

theorem plain_joined {current target : List Char} (plain : '?' ∉ current)
    (plain' : '?' ∉ target) : '?' ∉ joined current target := by
  unfold joined
  split
  · exact plain'
  · intro hmem
    rcases List.mem_append.1 hmem with h | h
    · rcases mem_directory h with same | h
      · cases same
      · exact plain h
    · exact plain' h

theorem plain_written {left : List (List Char)} {path : List Char} (plain : '?' ∉ path)
    (leaves : Leaves (segments path) left) : '?' ∉ written left path := by
  intro hmem
  rcases mem_written hmem with same | ⟨s, hs, hc⟩
  · cases same
  · exact plain ((Text.pieceOf_of_mem_splitOnP (leaves.mem hs)).within.subset hc)

/-! ## Resolving -/

/-- A target of a canonical path and a query is resolved to itself, against any path. -/
theorem resolveChars?_of_canonical {path query : List Char} (h : Canonical path)
    (plain : '?' ∉ path) (behind : query.dropWhile (· ≠ '?') = query) (current : List Char) :
    resolveChars? current (path ++ query) = some (path ++ query) := by
  have passed : ∀ c ∈ path, decide (c ≠ '?') = true := by
    intro c hc
    exact decide_eq_true fun same => plain (same ▸ hc)
  have none_ : query.takeWhile (· ≠ '?') = [] := by
    have parts := List.takeWhile_append_dropWhile (p := (· ≠ '?')) (l := query)
    rw [behind] at parts
    exact List.append_left_eq_self.1 parts
  have nonempty : ¬ (path ++ query).isEmpty = true := by
    intro empty
    rw [List.isEmpty_iff, List.append_eq_nil_iff] at empty
    rw [empty.1] at h
    cases h.head?
  have absolute : joined current path = path := if_pos h.head?
  unfold resolveChars?
  rw [if_neg nonempty]
  simp only [List.takeWhile_append_of_pos passed, List.dropWhile_append_of_pos passed, none_,
    behind, List.append_nil, absolute, canonical?_of_canonical h, Option.map_some]

theorem resolve?_eq (current target : String) :
    resolve? current target =
      if target = "" then none
      else (canonical? (joined current.toList (target.toList.takeWhile (· ≠ '?')))).map
        fun made => String.ofList (made ++ target.toList.dropWhile (· ≠ '?')) := by
  unfold resolve? resolveChars?
  by_cases empty : target = ""
  · rw [if_pos empty, empty]
    rfl
  · have nonempty : ¬ target.toList.isEmpty = true := by
      intro h
      exact empty (String.toList_eq_nil_iff.1 (List.isEmpty_iff.1 h))
    rw [if_neg empty, if_neg nonempty, Option.map_map]
    rfl

/-- A target is refused exactly if it is empty or climbs above the root. Otherwise it is resolved to
what is left of the path it names, with its query as it was: this is canonical, and no resolving
changes it any more. -/
theorem targets_are_confined_and_canonical (current target : String)
    (plain : '?' ∉ current.toList) :
    let path := target.toList.takeWhile (· ≠ '?')
    let query := target.toList.dropWhile (· ≠ '?')
    let named := joined current.toList path
    Names current.toList path named ∧
      (resolve? current target = none ↔ target = "" ∨ Climbs (segments named)) ∧
      ∀ made, resolve? current target = some made →
        ∃ left, Leaves (segments named) left ∧
          made.toList = written left named ++ query ∧
          Canonical (written left named) ∧ '?' ∉ written left named ∧
          ∀ other, resolve? other made = some made := by
  intro path query named
  have unasked : '?' ∉ path := by
    intro hmem
    simpa using List.mem_takeWhile_imp hmem
  refine ⟨names_joined _ _, ?_, ?_⟩
  · rw [resolve?_eq, ← foldlM_eq_none_iff]
    by_cases empty : target = ""
    · simp [empty]
    · simp [empty, canonical?, remaining?, named, path]
  · intro made hmade
    rw [resolve?_eq] at hmade
    split at hmade
    · cases hmade
    · obtain ⟨canonical, hcanonical, rfl⟩ := Option.map_eq_some_iff.1 hmade
      obtain ⟨left, hleft, -⟩ := Option.map_eq_some_iff.1 hcanonical
      obtain ⟨reversed, hreversed, rfl⟩ := Option.map_eq_some_iff.1 hleft
      have leaves := leaves_of_foldlM hreversed
      have same : canonical = written reversed.reverse named :=
        Option.some.inj (hcanonical.symm.trans (canonical?_eq_written hleft))
      subst same
      have isCanonical := canonical_of_canonical? hcanonical
      have plain' := plain_written (plain_joined plain unasked) leaves
      refine ⟨_, leaves, String.toList_ofList, isCanonical, plain', ?_⟩
      intro other
      unfold resolve?
      have behind : query.dropWhile (· ≠ '?') = query := List.dropWhile_idempotent _ _
      rw [String.toList_ofList, resolveChars?_of_canonical isCanonical plain' behind]
      rfl

theorem a_target_goes_up_and_down :
    '?' ∉ "/shop/a/cart".toList ∧
      resolve? "/shop/a/cart" "../b/.//c/../d/?x=../1" = some "/shop/b/d/?x=../1" ∧
      ∀ other, resolve? other "/shop/b/d/?x=../1" = some "/shop/b/d/?x=../1" := by
  have plain : '?' ∉ "/shop/a/cart".toList := by decide
  have made : resolve? "/shop/a/cart" "../b/.//c/../d/?x=../1" = some "/shop/b/d/?x=../1" := by
    decide +kernel
  obtain ⟨-, -, all⟩ :=
    targets_are_confined_and_canonical "/shop/a/cart" "../b/.//c/../d/?x=../1" plain
  obtain ⟨-, -, -, -, -, same⟩ := all _ made
  exact ⟨plain, made, same⟩

end WebRequest.Target
