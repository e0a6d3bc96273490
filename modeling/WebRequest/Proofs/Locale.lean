-- Tags that are parsed and written again. A tag is read by its places: language, country, variant.
-- It is written without the parts that are empty, so that a variant without a country stands in the
-- place of the country, and is read as one. All other locales are read back as they are.
import WebRequest.Locale
import WebRequest.Proofs.Text

namespace WebRequest.Locale

open Text

/-! ## Parsing -/

/-- What parsing makes: a language in small letters, a country in digits and capital letters, and a
variant in which there may be hyphens. -/
structure Formed (l : Locale) : Prop where
  named : l.language.toList ≠ []
  language : ∀ c ∈ l.language.toList, c.isAlpha = true
  small : lower l.language = l.language
  country : ∀ c ∈ l.country.toList, c.isAlphanum = true
  capital : upper l.country = l.country
  variant : isSubtag l.variant.toList = true

/-- A subtag without separators has no hyphens either. -/
theorem isAlphanum_of_isSubtag {cs : List Char} (h : isSubtag cs = true)
    (free : ∀ c ∈ cs, isSeparator c = false) : ∀ c ∈ cs, c.isAlphanum = true := by
  intro c hc
  have known := List.all_eq_true.1 h c hc
  have other := free c hc
  simp only [isSeparator, Bool.or_eq_false_iff, decide_eq_false_iff_not] at other
  simpa [other.1] using known

theorem ofChars?_of_pieces {cs language : List Char} {rest : List (List Char)}
    (pieces : (strip isBlank cs).splitOnP isSeparator = language :: rest) (named : language ≠ [])
    (letters : ∀ c ∈ language, c.isAlpha = true)
    (country : isSubtag (rest.head?.getD []) = true)
    (variant : isSubtag (['-'].intercalate (rest.drop 1)) = true) :
    ofChars? cs =
      some { of (String.ofList language) (String.ofList (rest.head?.getD [])) with
        variant := String.ofList (['-'].intercalate (rest.drop 1)) } := by
  have all : language.all Char.isAlpha = true := List.all_eq_true.2 letters
  have some_ : language.isEmpty = false := by simpa using named
  unfold ofChars?
  rw [pieces]
  simp only [some_, all, country, variant, Bool.not_true, Bool.or_self, Bool.false_eq_true,
    if_false]

theorem formed_of_ofChars? {cs : List Char} {l : Locale} (h : ofChars? cs = some l) :
    l.Formed := by
  unfold ofChars? at h
  cases hp : (strip isBlank cs).splitOnP isSeparator with
  | nil =>
    rw [hp] at h
    cases h
  | cons language rest =>
    have free := (pieces_of_splitOnP hp).2
    simp only [hp] at h
    split at h
    · cases h
    · rename_i accepted
      simp only [Bool.or_eq_true, not_or, Bool.not_eq_true', Bool.not_eq_false] at accepted
      obtain ⟨⟨⟨named, letters⟩, country⟩, variant⟩ := accepted
      have plain : ∀ c ∈ rest.head?.getD [], c.isAlphanum = true := by
        apply isAlphanum_of_isSubtag country
        cases rest with
        | nil => simp
        | cons first others => exact (free first (by simp)).free
      cases h
      refine ⟨?_, ?_, lower_lower _, ?_, upper_upper _, ?_⟩
      · simpa [of, lower] using named
      · intro c hc
        simp only [of, lower, String.toList_ofList] at hc
        obtain ⟨d, hd, rfl⟩ := List.mem_map.1 hc
        rw [isAlpha_toLower]
        exact List.all_eq_true.1 letters d hd
      · intro c hc
        simp only [of, upper, String.toList_ofList] at hc
        obtain ⟨d, hd, rfl⟩ := List.mem_map.1 hc
        exact isAlphanum_toUpper (plain d hd)
      · rw [String.toList_ofList]
        exact variant

/-! ## Tags in pieces -/

/-- A part of a tag with the hyphen before it, unless it is empty. -/
def marked (part : String) : List Char := if part = "" then [] else '-' :: part.toList

theorem toList_tag (l : Locale) :
    l.tag.toList = l.language.toList ++ (marked l.country ++ marked l.variant) := by
  have part (s : String) : (if s = "" then "" else "-" ++ s).toList = marked s := by
    unfold marked
    split <;> simp
  simp [tag, part]

/-- The pieces of a part that may be empty. -/
def piecesOf (part : String) : List (List Char) :=
  if part = "" then [] else part.toList.splitOnP isSeparator

theorem ne_underscore_of_isSubtag {cs : List Char} (h : isSubtag cs = true) : '_' ∉ cs := by
  intro hmem
  exact absurd (List.all_eq_true.1 h '_' hmem) (by decide)

theorem free_of_isSubtag {cs : List Char} (h : isSubtag cs = true)
    (none_ : ∀ c ∈ cs, decide (c = '-') = false) : ∀ c ∈ cs, isSeparator c = false := by
  intro c hc
  have underscore : c ≠ '_' := fun same => ne_underscore_of_isSubtag h (same ▸ hc)
  simp [isSeparator, none_ c hc, underscore]

theorem intercalate_splitOnP {cs : List Char} (h : '_' ∉ cs) :
    ['-'].intercalate (cs.splitOnP isSeparator) = cs := by
  have hyphens : cs.splitOnP isSeparator = cs.splitOn '-' := by
    induction cs with
    | nil => rfl
    | cons c cs ih =>
      simp only [List.mem_cons, not_or] at h
      have other : isSeparator c = (c == '-') := by
        simp [isSeparator, Ne.symm h.1, Bool.beq_eq_decide_eq]
      rw [List.splitOnP_cons_eq_if_modifyHead, List.splitOn_cons_eq_if_modifyHead, ih h.2, other]
  rw [hyphens, List.intercalate_splitOn]

theorem intercalate_piecesOf {part : String} (h : isSubtag part.toList = true) :
    ['-'].intercalate (piecesOf part) = part.toList := by
  unfold piecesOf
  split
  · rename_i empty
    rw [empty]
    rfl
  · exact intercalate_splitOnP (ne_underscore_of_isSubtag h)

theorem splitOnP_marked {front : List Char} (free : ∀ c ∈ front, isSeparator c = false)
    (part : String) : (front ++ marked part).splitOnP isSeparator = front :: piecesOf part := by
  unfold marked piecesOf
  split
  · rw [List.append_nil, List.splitOnP_eq_singleton free]
  · rw [List.splitOnP_append_cons_of_forall_mem free '-' (by decide)]

theorem not_isSeparator_of_isAlphanum {c : Char} (h : c.isAlphanum = true) :
    isSeparator c = false := by
  simp only [isSeparator, Bool.or_eq_false_iff, decide_eq_false_iff_not]
  constructor
  · rintro rfl
    exact absurd h (by decide)
  · rintro rfl
    exact absurd h (by decide)

theorem not_isBlank_of_mem_tag {l : Locale} (h : l.Formed) :
    ∀ c ∈ l.tag.toList, isBlank c = false := by
  have mark (part : String) (inside : ∀ c ∈ part.toList, c.isAlphanum = true ∨ c = '-') :
      ∀ c ∈ marked part, isBlank c = false := by
    intro c hc
    have known : c.isAlphanum = true ∨ c = '-' := by
      unfold marked at hc
      split at hc
      · cases hc
      · rcases List.mem_cons.1 hc with same | hc
        · exact .inr same
        · exact inside c hc
    rcases known with alphanum | rfl
    · exact not_isBlank_of_isAlphanum alphanum
    · decide
  intro c hc
  rw [toList_tag, List.mem_append, List.mem_append] at hc
  rcases hc with hc | hc | hc
  · exact not_isBlank_of_isAlphanum (by simp [Char.isAlphanum, h.language c hc])
  · exact mark l.country (fun d hd => .inl (h.country d hd)) c hc
  · refine mark l.variant (fun d hd => ?_) c hc
    simpa using List.all_eq_true.1 h.variant d hd

/-! ## Reading tags -/

/-- The locale that is read of a tag that was written without a country: the first piece of the
variant, up to a hyphen, stands in the place of the country. -/
def shifted (l : Locale) : Locale :=
  match splitFirst (· = '-') l.variant.toList with
  | none => { l with country := upper l.variant, variant := "" }
  | some (first, others) =>
    { l with country := upper (String.ofList first), variant := String.ofList others }

/-- The locale that is read of the tag of a locale. -/
def reread (l : Locale) : Locale := if l.country = "" then l.shifted else l

/-- No other part stands in the place of an empty country. -/
def KeepsPlaces (l : Locale) : Prop := l.country = "" → l.variant = ""

theorem reread_eq_self_iff {l : Locale} : l.reread = l ↔ l.KeepsPlaces := by
  unfold reread KeepsPlaces
  by_cases absent : l.country = ""
  · rw [if_pos absent]
    constructor
    · intro same _
      have variant : l.shifted.variant = l.variant := congrArg Locale.variant same
      unfold shifted at variant
      rcases hs : splitFirst (· = '-') l.variant.toList with _ | ⟨first, others⟩
      · rw [hs] at variant
        exact variant.symm
      · -- a variant is longer than what stands behind its first hyphen
        obtain ⟨-, c, -, whole⟩ := splitFirst_eq_some hs
        rw [hs, ← String.toList_inj, String.toList_ofList] at variant
        rw [variant] at whole
        have length := congrArg List.length whole
        simp only [List.length_append, List.length_cons] at length
        omega
    · intro keeps
      have variant := keeps absent
      obtain ⟨language, country, variant'⟩ := l
      subst absent variant
      rfl
  · rw [if_neg absent]
    exact iff_of_true rfl fun absent' => absurd absent' absent

theorem piecesOf_of_none {part : String} (h : isSubtag part.toList = true)
    (whole : splitFirst (· = '-') part.toList = none) :
    piecesOf part = if part = "" then [] else [part.toList] := by
  rw [piecesOf, List.splitOnP_eq_singleton (free_of_isSubtag h (splitFirst_eq_none.1 whole))]

theorem piecesOf_of_some {part : String} (h : isSubtag part.toList = true)
    {first others : List Char} (parts : splitFirst (· = '-') part.toList = some (first, others)) :
    piecesOf part = first :: others.splitOnP isSeparator ∧
      isSubtag first = true ∧ isSubtag others = true := by
  obtain ⟨none_, c, hc, whole⟩ := splitFirst_eq_some parts
  have some_ : part ≠ "" := by
    rintro rfl
    simp at whole
  rw [whole, isSubtag, List.all_append, List.all_cons, Bool.and_eq_true, Bool.and_eq_true] at h
  obtain ⟨before, -, behind⟩ := h
  have free := free_of_isSubtag before none_
  have separates : isSeparator c = true := by
    rw [of_decide_eq_true hc]
    rfl
  rw [piecesOf, if_neg some_, whole, List.splitOnP_append_cons_of_forall_mem free c separates]
  exact ⟨rfl, before, behind⟩

theorem not_isSeparator_of_formed {l : Locale} (h : l.Formed) :
    (∀ c ∈ l.language.toList, isSeparator c = false) ∧
      ∀ c ∈ l.country.toList, isSeparator c = false := by
  constructor
  · intro c hc
    exact not_isSeparator_of_isAlphanum (by simp [Char.isAlphanum, h.language c hc])
  · intro c hc
    exact not_isSeparator_of_isAlphanum (h.country c hc)

/-- What is read of a tag, by its pieces behind the language. -/
theorem ofTag?_of_pieces {l : Locale} (h : l.Formed) {rest : List (List Char)}
    {country variant : List Char}
    (pieces : l.tag.toList.splitOnP isSeparator = l.language.toList :: rest)
    (second : rest.head?.getD [] = country) (others : ['-'].intercalate (rest.drop 1) = variant)
    (hc : isSubtag country = true) (hv : isSubtag variant = true) :
    ofTag? l.tag =
      some { l with
        country := upper (String.ofList country), variant := String.ofList variant } := by
  have trimmed : strip isBlank l.tag.toList = l.tag.toList :=
    strip_of_free (not_isBlank_of_mem_tag h)
  have pieces' : (strip isBlank l.tag.toList).splitOnP isSeparator = l.language.toList :: rest := by
    rw [trimmed]
    exact pieces
  subst second others
  rw [ofTag?, ofChars?_of_pieces pieces' h.named h.language hc hv]
  simp [of, h.small]

theorem ofTag?_tag_of_country {l : Locale} (h : l.Formed) (present : l.country ≠ "") :
    ofTag? l.tag = some l := by
  obtain ⟨language, country⟩ := not_isSeparator_of_formed h
  have pieces : l.tag.toList.splitOnP isSeparator =
      l.language.toList :: l.country.toList :: piecesOf l.variant := by
    rw [toList_tag, marked, if_neg present, List.cons_append,
      List.splitOnP_append_cons_of_forall_mem language '-' (by decide), splitOnP_marked country]
  have subtag : isSubtag l.country.toList = true := by
    rw [isSubtag, List.all_eq_true]
    intro c hc
    simp [h.country c hc]
  rw [ofTag?_of_pieces h pieces rfl (intercalate_piecesOf h.variant) subtag h.variant]
  simp [h.capital]

theorem ofTag?_tag_of_no_country {l : Locale} (h : l.Formed) (absent : l.country = "") :
    ofTag? l.tag = some l.shifted := by
  have pieces : l.tag.toList.splitOnP isSeparator = l.language.toList :: piecesOf l.variant := by
    rw [toList_tag, absent]
    exact splitOnP_marked (not_isSeparator_of_formed h).1 l.variant
  unfold shifted
  rcases hs : splitFirst (· = '-') l.variant.toList with _ | ⟨first, others⟩
  · have parts := piecesOf_of_none h.variant hs
    have country : (piecesOf l.variant).head?.getD [] = l.variant.toList := by
      rw [parts]
      split
      · rename_i empty
        rw [empty]
        rfl
      · rfl
    have variant : (piecesOf l.variant).drop 1 = [] := by
      rw [parts]
      split <;> rfl
    have others : ['-'].intercalate ((piecesOf l.variant).drop 1) = [] := by
      rw [variant]
      rfl
    rw [ofTag?_of_pieces h pieces country others h.variant rfl, String.ofList_toList]
  · obtain ⟨parts, before, behind⟩ := piecesOf_of_some h.variant hs
    have country : (piecesOf l.variant).head?.getD [] = first := by
      rw [parts]
      rfl
    have variant : ['-'].intercalate ((piecesOf l.variant).drop 1) = others := by
      rw [parts]
      exact intercalate_splitOnP (ne_underscore_of_isSubtag behind)
    exact ofTag?_of_pieces h pieces country variant before behind

/-- The tag of a parsed locale is always accepted, and this is what is read of it. -/
theorem ofTag?_tag {l : Locale} (h : l.Formed) : ofTag? l.tag = some l.reread := by
  unfold reread
  split
  · exact ofTag?_tag_of_no_country h (by assumption)
  · exact ofTag?_tag_of_country h (by assumption)

/-! ## The law -/

/-- The tag of a parsed locale is accepted. What is read of it is the locale itself exactly if it
has a country or no variant; otherwise the variant is shifted to the place of the country. So
parsing and writing again changes nothing in the tags of locales that keep their places, and no two
such locales share a tag. -/
theorem a_tag_is_read_back_iff_the_places_are_kept {text : String} {l : Locale}
    (parsed : ofTag? text = some l) :
    ofTag? l.tag = some l.reread ∧ (l.reread = l ↔ l.KeepsPlaces) ∧
      (l.KeepsPlaces → (ofTag? l.tag).map tag = some l.tag) ∧
      ∀ text' l', ofTag? text' = some l' → l'.tag = l.tag →
        l'.reread = l.reread ∧ (l.KeepsPlaces → l'.KeepsPlaces → l' = l) := by
  have read := ofTag?_tag (formed_of_ofChars? parsed)
  refine ⟨read, reread_eq_self_iff, ?_, ?_⟩
  · intro keeps
    rw [read, reread_eq_self_iff.2 keeps]
    rfl
  · intro text' l' parsed' shared
    have read' := ofTag?_tag (formed_of_ofChars? parsed')
    rw [shared, read, Option.some.injEq] at read'
    refine ⟨read'.symm, fun keeps keeps' => ?_⟩
    rw [← reread_eq_self_iff.2 keeps, ← reread_eq_self_iff.2 keeps', read']

/-- A tag with a blank before it, capital letters, and a variant that begins with a hyphen. -/
theorem a_tag_with_empty_pieces_is_read_back :
    ofTag? " SL_it__a-b" = some ⟨"sl", "IT", "-a-b"⟩ ∧
      ofTag? "sl-IT--a-b" = some ⟨"sl", "IT", "-a-b"⟩ := by
  have parsed : ofTag? " SL_it__a-b" = some ⟨"sl", "IT", "-a-b"⟩ := by decide
  have tagged : tag ⟨"sl", "IT", "-a-b"⟩ = "sl-IT--a-b" := by decide
  obtain ⟨read, same, -⟩ := a_tag_is_read_back_iff_the_places_are_kept parsed
  rw [tagged, same.2 (fun absent => absurd absent (by decide))] at read
  exact ⟨parsed, read⟩

/-- A variant without a country is read back as a country. -/
theorem a_variant_without_a_country_is_not_read_back :
    ofTag? "en--posix" = some ⟨"en", "", "posix"⟩ ∧ tag ⟨"en", "", "posix"⟩ = "en-posix" ∧
      ofTag? "en-posix" = some ⟨"en", "POSIX", ""⟩ ∧
      ¬ ∀ text l, ofTag? text = some l → ofTag? l.tag = some l := by
  have parsed : ofTag? "en--posix" = some ⟨"en", "", "posix"⟩ := by decide
  have tagged : tag ⟨"en", "", "posix"⟩ = "en-posix" := by decide
  have read : ofTag? "en-posix" = some ⟨"en", "POSIX", ""⟩ := by decide
  refine ⟨parsed, tagged, read, ?_⟩
  intro all
  have same := all _ _ parsed
  rw [tagged, read] at same
  simp at same

end WebRequest.Locale
