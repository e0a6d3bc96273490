-- The two readings of a content type. The charset that a request declares is looked for between
-- semicolons, without regard to quotes; the media type has its parameters from a reader that knows
-- quotes. Both find the same charset unless a value in quotes has a semicolon in it.
import WebRequest.Head.Basic
import WebRequest.Proofs.MediaType.Charset

namespace WebRequest.RequestHead

open MediaType Text

/-! ## Pieces that declare a charset -/

theorem sameWord_charset_iff {name : List Char} :
    sameWord (String.ofList name) "charset" = true ↔ IsCharset name := by
  have word : lower "charset" = "charset" := by decide +kernel
  unfold sameWord IsCharset
  rw [beq_iff_eq, word, lower, String.toList_ofList, ← String.toList_inj, String.toList_ofList]
  rfl

theorem free_of_not_mem {xs : List Char} {d : Char} (h : d ∉ xs) :
    ∀ c ∈ xs, decide (c = d) = false := by
  intro c hc
  exact decide_eq_false fun same => h (same ▸ hc)

/-- What a piece declares, by its name and its value. -/
theorem charsetOf?_eq {name value : List Char} (plain : '=' ∉ name) :
    charsetOf? (name ++ '=' :: value) =
      if IsCharset (strip isBlank name) ∧ strip (· = '"') (strip isBlank value) ≠ [] then
        some (strip (· = '"') (strip isBlank value))
      else none := by
  unfold charsetOf?
  rw [splitFirst_append_cons (free_of_not_mem plain) (decide_eq_true rfl)]
  by_cases named : IsCharset (strip isBlank name)
  · simp only [sameWord_charset_iff, named, if_true, true_and]
    by_cases empty : strip (· = '"') (strip isBlank value) = []
    · simp [empty]
    · simp [empty]
  · simp only [sameWord_charset_iff, named, if_false, false_and]

theorem charsetOf?_of_no_equals {piece : List Char} (plain : '=' ∉ piece) :
    charsetOf? piece = none := by
  unfold charsetOf?
  rw [splitFirst_eq_none.2 (free_of_not_mem plain)]

/-- A piece is without an equals sign, or it has a name and a value around the first one. -/
theorem piece_cases (piece : List Char) :
    '=' ∉ piece ∨ ∃ name value, piece = name ++ '=' :: value ∧ '=' ∉ name := by
  by_cases h : '=' ∈ piece
  · obtain ⟨name, value, split, plain⟩ := List.eq_append_cons_of_mem h
    exact .inr ⟨name, value, split, plain⟩
  · exact .inl h

theorem within_of_charsetOf? {piece c : List Char} (h : charsetOf? piece = some c) :
    c <:+: piece := by
  rcases piece_cases piece with plain | ⟨name, value, rfl, plain⟩
  · rw [charsetOf?_of_no_equals plain] at h
    cases h
  · rw [charsetOf?_eq plain] at h
    split at h
    · cases h
      have inside := (strip_within (· = '"') _).trans (strip_within isBlank value)
      exact inside.trans ((List.suffix_cons '=' value).trans (List.suffix_append name _)).isInfix
    · cases h

/-- A piece that declares a charset: its name, an equals sign, and something that is not blank. -/
def Declares (piece : List Char) : Prop :=
  ∃ name value, piece = name ++ '=' :: value ∧ IsCharset (strip isBlank name) ∧
    ∃ c ∈ value, isBlank c = false

/-- A value that hides a declaration: it stands behind one of the semicolons in the value, and
before the next. -/
def Hides (value : List Char) : Prop :=
  ∃ piece ∈ (value.splitOnP (· = ';')).tail, Declares piece

/-- The name of a charset has no equals sign in it, with whatever blanks around it. -/
theorem not_mem_of_isCharset {name : List Char} (named : IsCharset (strip isBlank name)) :
    '=' ∉ name := by
  intro h
  have stays : '=' ∈ strip isBlank name := mem_strip (by decide) h
  rw [← mem_map_toLower_iff (by decide)] at stays
  have word : '=' ∉ "charset".toList := by decide
  exact word (named ▸ stays)

theorem declares_iff {name value : List Char} (plain : '=' ∉ name) :
    Declares (name ++ '=' :: value) ↔
      IsCharset (strip isBlank name) ∧ ∃ c ∈ value, isBlank c = false := by
  constructor
  · rintro ⟨name', value', same, named, some_⟩
    have split := splitFirst_append_cons (free_of_not_mem plain) (decide_eq_true rfl) value
    rw [same, splitFirst_append_cons (free_of_not_mem (not_mem_of_isCharset named))
      (decide_eq_true rfl)] at split
    cases split
    exact ⟨named, some_⟩
  · rintro ⟨named, some_⟩
    exact ⟨name, value, rfl, named, some_⟩

theorem not_declares_of_no_equals {piece : List Char} (plain : '=' ∉ piece) : ¬Declares piece := by
  rintro ⟨name, value, rfl, -⟩
  simp at plain

/-- Without quotes, blanks are all that is taken from a value. -/
theorem isSome_charsetOf?_iff {piece : List Char} (unquoted : '"' ∉ piece) :
    (charsetOf? piece).isSome ↔ Declares piece := by
  rcases piece_cases piece with plain | ⟨name, value, rfl, plain⟩
  · simp [charsetOf?_of_no_equals plain, not_declares_of_no_equals plain]
  · have free : ∀ c ∈ strip isBlank value, decide (c = '"') = false :=
      free_of_not_mem fun h => unquoted (by simp [(strip_sublist isBlank value).mem h])
    have left : strip isBlank value ≠ [] ↔ ∃ c ∈ value, isBlank c = false := by
      simp [strip_eq_nil_iff]
    rw [charsetOf?_eq plain, strip_of_free free, declares_iff plain, ← left]
    simp only [Option.isSome_ite]

theorem not_isBlank_quote : isBlank '"' = false := by decide

/-- A piece with a closing quote and blanks behind it declares its value without the blanks before
it. -/
theorem charsetOf?_closed {name value blanks : List Char} (plain : '=' ∉ name)
    (unquoted : '"' ∉ value) (taken : ∀ c ∈ blanks, isBlank c = true) :
    charsetOf? (name ++ '=' :: (value ++ '"' :: blanks)) =
      if IsCharset (strip isBlank name) ∧ value.dropWhile isBlank ≠ [] then
        some (value.dropWhile isBlank)
      else none := by
  have free : ∀ c ∈ value.dropWhile isBlank, decide (c = '"') = false :=
    free_of_not_mem fun hmem => unquoted ((List.dropWhile_sublist isBlank).mem hmem)
  rw [charsetOf?_eq plain, strip_append_cons not_isBlank_quote taken,
    strip_snoc free (decide_eq_true rfl)]

/-- A closing quote with blanks behind it neither makes a piece declare something nor keeps it from
that, and nothing of it is declared. -/
theorem charsetOf?_closed_spec {piece blanks : List Char} (unquoted : '"' ∉ piece)
    (taken : ∀ c ∈ blanks, isBlank c = true) :
    ((charsetOf? (piece ++ '"' :: blanks)).isSome ↔ Declares piece) ∧
      ∀ c, charsetOf? (piece ++ '"' :: blanks) = some c → c <:+: piece := by
  rcases piece_cases piece with plain | ⟨name, value, rfl, plain⟩
  · have plain' : '=' ∉ piece ++ '"' :: blanks := by
      have none_ : '=' ∉ blanks := fun h => absurd (taken '=' h) (by decide)
      simp [plain, none_]
    simp [charsetOf?_of_no_equals plain', not_declares_of_no_equals plain]
  · have unquoted' : '"' ∉ value := fun h => unquoted (by simp [h])
    have left : value.dropWhile isBlank ≠ [] ↔ ∃ c ∈ value, isBlank c = false := by simp
    have inside : value.dropWhile isBlank <:+: name ++ '=' :: value :=
      ((List.dropWhile_suffix isBlank).trans
        ((List.suffix_cons '=' value).trans (List.suffix_append name _))).isInfix
    rw [List.append_assoc, List.cons_append, charsetOf?_closed plain unquoted' taken,
      declares_iff plain, ← left]
    refine ⟨by simp only [Option.isSome_ite], ?_⟩
    intro c hc
    split at hc
    · cases hc
      exact inside
    · cases hc

/-! ## Texts in pieces -/

/-- What the first of the pieces that declare something declares. -/
def declaredAmong (text : List Char) : Option (List Char) :=
  (text.splitOnP (· = ';')).findSome? charsetOf?

theorem declaredAmong_of_no_semicolon {text : List Char} (h : ';' ∉ text) :
    declaredAmong text = charsetOf? text := by
  rw [declaredAmong, List.splitOnP_eq_singleton (free_of_not_mem h)]
  simp

theorem declaredAmong_append (before after : List Char) :
    declaredAmong (before ++ ';' :: after) = (declaredAmong before).or (declaredAmong after) := by
  rw [declaredAmong, List.splitOnP_append_cons before after (decide_eq_true rfl),
    List.findSome?_append, declaredAmong, declaredAmong]

/-- What stands before the first semicolon is no parameter. -/
theorem declaredIn?_append {front : List Char} (h : ';' ∉ front) (text : List Char) :
    declaredIn? (front ++ ';' :: text) = declaredAmong text := by
  rw [declaredIn?, List.splitOnP_append_cons_of_forall_mem (free_of_not_mem h) ';'
    (decide_eq_true rfl), List.drop_one, List.tail_cons, declaredAmong]

theorem no_semicolon_of_declaredAmong {text c : List Char} (h : declaredAmong text = some c) :
    ';' ∉ c := by
  obtain ⟨piece, hpiece, declared⟩ := List.exists_of_findSome?_eq_some h
  intro hmem
  have inPiece : ';' ∈ piece := (within_of_charsetOf? declared).subset hmem
  simpa using (pieceOf_of_mem_splitOnP hpiece).free ';' inPiece

theorem within_of_declaredAmong {text c : List Char} (h : declaredAmong text = some c) :
    c <:+: text := by
  obtain ⟨piece, hpiece, declared⟩ := List.exists_of_findSome?_eq_some h
  exact (within_of_charsetOf? declared).trans (pieceOf_of_mem_splitOnP hpiece).within

theorem isSome_declaredAmong_iff {text : List Char} (unquoted : '"' ∉ text) :
    (declaredAmong text).isSome ↔ ∃ piece ∈ text.splitOnP (· = ';'), Declares piece := by
  rw [declaredAmong, List.findSome?_isSome_iff]
  refine exists_congr fun piece => and_congr_right fun hpiece => ?_
  exact isSome_charsetOf?_iff fun h =>
    unquoted ((pieceOf_of_mem_splitOnP hpiece).within.subset h)

/-- A text has no semicolon, or it is what stands before and behind the last one. -/
theorem last_semicolon (text : List Char) :
    ';' ∉ text ∨ ∃ before after, text = before ++ ';' :: after ∧ ';' ∉ after := by
  by_cases h : ';' ∈ text.reverse
  · obtain ⟨after, before, split, none_⟩ := List.eq_append_cons_of_mem h
    refine .inr ⟨before.reverse, after.reverse, ?_, by simpa using none_⟩
    rw [← List.reverse_reverse text, split]
    simp
  · exact .inl (by simpa using h)

/-- A closing quote and blanks behind a text change nothing of what it declares. -/
theorem declaredAmong_closed {text blanks : List Char} (unquoted : '"' ∉ text)
    (taken : ∀ c ∈ blanks, isBlank c = true) :
    ((declaredAmong (text ++ '"' :: blanks)).isSome ↔
        ∃ piece ∈ text.splitOnP (· = ';'), Declares piece) ∧
      ∀ c, declaredAmong (text ++ '"' :: blanks) = some c → c <:+: text := by
  have closing {piece : List Char} (h : ';' ∉ piece) : ';' ∉ piece ++ '"' :: blanks := by
    have none_ : ';' ∉ blanks := fun h => absurd (taken ';' h) (by decide)
    simp [h, none_]
  rcases last_semicolon text with none_ | ⟨before, after, rfl, none_⟩
  · rw [declaredAmong_of_no_semicolon (closing none_),
      List.splitOnP_eq_singleton (free_of_not_mem none_)]
    simpa using charsetOf?_closed_spec unquoted taken
  · have last := @charsetOf?_closed_spec after blanks (fun h => unquoted (by simp [h])) taken
    have first := @isSome_declaredAmong_iff before fun h => unquoted (by simp [h])
    rw [List.append_assoc, List.cons_append, declaredAmong_append,
      declaredAmong_of_no_semicolon (closing none_),
      List.splitOnP_append_cons before after (decide_eq_true rfl),
      List.splitOnP_eq_singleton (free_of_not_mem none_)]
    constructor
    · simp [Option.isSome_or, first, last.1, or_and_right, exists_or]
    · intro c hc
      rcases Option.or_eq_some_iff.1 hc with hc | ⟨-, hc⟩
      · exact (within_of_declaredAmong hc).trans (List.prefix_append _ _).isInfix
      · exact (last.2 c hc).trans
          ((List.suffix_cons ';' after).trans (List.suffix_append before _)).isInfix

/-- Without quotes, a value hides a declaration exactly if it would declare something itself. -/
theorem hides_iff {value : List Char} (unquoted : '"' ∉ value) :
    Hides value ↔ (declaredIn? value).isSome := by
  rw [declaredIn?, List.drop_one, List.findSome?_isSome_iff, Hides]
  refine exists_congr fun piece => and_congr_right fun hpiece => ?_
  exact (isSome_charsetOf?_iff fun h =>
    unquoted ((pieceOf_of_mem_splitOnP (List.mem_of_mem_tail hpiece)).within.subset h)).symm

/-! ## Parameters -/

theorem not_isBlank_of_isTokenChar {c : Char} (h : isTokenChar c = true) : isBlank c = false := by
  have marks : "!#$%&'*+-.^_`|~".toList.all (!isBlank ·) = true := by decide
  simp only [isTokenChar, Bool.or_eq_true, List.contains_iff_mem] at h
  rcases h with alphanum | mark
  · exact not_isBlank_of_isAlphanum alphanum
  · simpa using List.all_eq_true.1 marks c mark

theorem strip_of_token {cs : List Char} (h : ∀ c ∈ cs, isTokenChar c = true) :
    strip isBlank cs = cs :=
  strip_of_free fun c hc => not_isBlank_of_isTokenChar (h c hc)

theorem not_mem_of_token {cs : List Char} (h : ∀ c ∈ cs, isTokenChar c = true) {d : Char}
    (hd : isTokenChar d = false) : d ∉ cs := by
  intro hmem
  rw [h d hmem] at hd
  cases hd

theorem isBlank_of_mem_replicate {n : Nat} : ∀ c ∈ List.replicate n ' ', isBlank c = true := by
  intro c hc
  rw [List.eq_of_mem_replicate hc]
  decide

theorem strip_name {p : WrittenParameter} (proper : WrittenParameter.Proper p) :
    strip isBlank (List.replicate p.lead ' ' ++ p.name) = p.name := by
  rw [strip, List.dropWhile_append_of_pos isBlank_of_mem_replicate]
  exact strip_of_token proper.name

theorem no_equals_in_name {p : WrittenParameter} (proper : WrittenParameter.Proper p) :
    '=' ∉ List.replicate p.lead ' ' ++ p.name := by
  have none_ : '=' ∉ p.name := not_mem_of_token proper.name (by decide)
  simp [none_]

/-- Blanks and quotes around a value are taken. -/
theorem strip_written {p : WrittenParameter} (proper : WrittenParameter.Proper p)
    (unquoted : '"' ∉ p.value) :
    strip (· = '"') (strip isBlank
      ((if p.quoted then '"' :: (p.value ++ ['"']) else p.value) ++ List.replicate p.trail ' ')) =
      p.value := by
  have free : ∀ c ∈ p.value, decide (c = '"') = false := free_of_not_mem unquoted
  cases hq : p.quoted with
  | true =>
    have front : ('"' :: p.value).dropWhile isBlank = '"' :: p.value :=
      dropWhile_of_free (by rintro c ⟨⟩; exact not_isBlank_quote)
    have outer : strip isBlank (('"' :: p.value) ++ '"' :: List.replicate p.trail ' ') =
        ('"' :: p.value).dropWhile isBlank ++ ['"'] :=
      strip_append_cons not_isBlank_quote isBlank_of_mem_replicate
    rw [front] at outer
    simp only [if_true, List.cons_append, List.append_assoc, List.nil_append] at outer ⊢
    rw [outer]
    exact strip_between free (decide_eq_true rfl) (decide_eq_true rfl)
  | false =>
    rw [proper.behind hq, List.replicate_zero, List.append_nil, if_neg Bool.false_ne_true,
      strip_of_token (proper.value hq), strip_of_free free]

/-- Without semicolons in its value, a parameter declares it exactly if it is that of a charset. -/
theorem charsetOf?_sent {p : WrittenParameter} (proper : WrittenParameter.Proper p)
    (unquoted : '"' ∉ p.value) :
    charsetOf? (WrittenParameter.sent p) = if NamesCharset p then some p.value else none := by
  rw [WrittenParameter.sent, charsetOf?_eq (no_equals_in_name proper), strip_name proper,
    strip_written proper unquoted]
  rfl

theorem no_semicolon_in_sent {p : WrittenParameter} (proper : WrittenParameter.Proper p)
    (plain : ';' ∉ p.value) : ';' ∉ WrittenParameter.sent p := by
  have none_ : ';' ∉ p.name := not_mem_of_token proper.name (by decide)
  cases hq : p.quoted with
  | true => simp [WrittenParameter.sent, hq, none_, plain]
  | false => simp [WrittenParameter.sent, hq, none_, plain]

theorem not_hides_of_no_semicolon {value : List Char} (plain : ';' ∉ value) : ¬Hides value := by
  rintro ⟨piece, hpiece, -⟩
  rw [List.splitOnP_eq_singleton (free_of_not_mem plain)] at hpiece
  cases hpiece

theorem declaredAmong_sent_of_charset {p : WrittenParameter} (proper : WrittenParameter.Proper p)
    (unquoted : '"' ∉ p.value) (plain : ';' ∉ p.value) (names : NamesCharset p) :
    declaredAmong (WrittenParameter.sent p) = some p.value := by
  rw [declaredAmong_of_no_semicolon (no_semicolon_in_sent proper plain),
    charsetOf?_sent proper unquoted, if_pos names]

/-- Another parameter declares something exactly if its value hides a declaration, and then what
stands in the value. -/
theorem declaredAmong_sent_of_other {p : WrittenParameter} (proper : WrittenParameter.Proper p)
    (unquoted : '"' ∉ p.value) (other : ¬NamesCharset p) :
    ((declaredAmong (WrittenParameter.sent p)).isSome ↔ Hides p.value) ∧
      ∀ c, declaredAmong (WrittenParameter.sent p) = some c → c <:+: p.value := by
  by_cases plain : ';' ∈ p.value
  · obtain ⟨first, behind, split, none_⟩ := List.eq_append_cons_of_mem plain
    have quoted : p.quoted = true := by
      by_contra bare
      exact not_mem_of_token (proper.value (eq_false_of_ne_true bare)) (by decide) plain
    have named : ¬IsCharset p.name := fun named => other ⟨named, List.ne_nil_of_mem plain⟩
    have noName : ';' ∉ p.name := not_mem_of_token proper.name (by decide)
    -- the piece with the name ends in the value, and the others are those of the value
    have pieces : WrittenParameter.sent p =
        (List.replicate p.lead ' ' ++ p.name ++ '=' :: ('"' :: first)) ++
          ';' :: (behind ++ '"' :: List.replicate p.trail ' ') := by
      simp [WrittenParameter.sent, quoted, split]
    have lead : declaredAmong
        (List.replicate p.lead ' ' ++ p.name ++ '=' :: ('"' :: first)) = none := by
      rw [declaredAmong_of_no_semicolon (by simp [noName, none_]),
        charsetOf?_eq (no_equals_in_name proper), strip_name proper, if_neg (named ·.1)]
    obtain ⟨declares, within⟩ := @declaredAmong_closed behind (List.replicate p.trail ' ')
      (fun h => unquoted (by simp [split, h])) isBlank_of_mem_replicate
    rw [pieces, declaredAmong_append, lead, Option.none_or]
    refine ⟨?_, ?_⟩
    · rw [declares, Hides, split, List.splitOnP_append_cons_of_forall_mem (free_of_not_mem none_)
        ';' (decide_eq_true rfl), List.tail_cons]
    · intro c hc
      rw [split]
      exact (within c hc).trans
        ((List.suffix_cons ';' behind).trans (List.suffix_append first _)).isInfix
  · rw [declaredAmong_of_no_semicolon (no_semicolon_in_sent proper plain),
      charsetOf?_sent proper unquoted, if_neg other]
    simp [not_hides_of_no_semicolon plain]

/-! ## Lists of parameters -/

variable {ps : List WrittenParameter}

/-- What the first parameter that declares something declares. -/
def declaredBy (ps : List WrittenParameter) : Option (List Char) :=
  ps.findSome? fun p => declaredAmong (WrittenParameter.sent p)

theorem declaredBy_cons (p : WrittenParameter) (ps : List WrittenParameter) :
    declaredBy (p :: ps) = (declaredAmong (WrittenParameter.sent p)).or (declaredBy ps) := by
  rw [declaredBy, List.findSome?_cons]
  cases declaredAmong (WrittenParameter.sent p) with
  | none => rfl
  | some c => rfl

theorem declaredAmong_blanks {blanks : List Char} (blank : ∀ c ∈ blanks, c = ' ') :
    declaredAmong blanks = none := by
  have noSemicolon : ';' ∉ blanks := fun h => absurd (blank ';' h) (by decide)
  have noEquals : '=' ∉ blanks := fun h => absurd (blank '=' h) (by decide)
  rw [declaredAmong_of_no_semicolon noSemicolon, charsetOf?_of_no_equals noEquals]

theorem declaredAmong_parameters {ending : List Char} (isEnding : IsEnding ending)
    (ps : List WrittenParameter) (front : List Char) :
    declaredAmong (front ++ (ps.flatMap (fun p => ';' :: WrittenParameter.sent p) ++ ending)) =
      (declaredAmong front).or (declaredBy ps) := by
  induction ps generalizing front with
  | nil =>
    rcases isEnding with rfl | ⟨blanks, rfl, blank⟩
    · simp [declaredBy]
    · rw [List.flatMap_nil, List.nil_append, declaredAmong_append, declaredAmong_blanks blank]
      rfl
  | cons p ps ih =>
    rw [List.flatMap_cons, List.cons_append, List.cons_append, List.append_assoc,
      declaredAmong_append, ih, declaredBy_cons]

/-- The pieces of a media type are those of its parameters. -/
theorem declaredIn?_of_spells {cs : List Char} {m : MediaType} (spells : Spells cs m ps) :
    declaredIn? cs = declaredBy ps := by
  obtain ⟨type, subtype, ending, rfl, ofType, ofSubtype, isEnding⟩ := spells.text
  have front : ';' ∉ type ++ '/' :: subtype := by
    simp [not_mem_of_token ofType (d := ';') (by decide),
      not_mem_of_token ofSubtype (d := ';') (by decide)]
  have parts (list : List Char) :
      type ++ '/' :: (subtype ++ list) = (type ++ '/' :: subtype) ++ list := by simp
  rw [parts]
  cases ps with
  | nil =>
    rcases isEnding with rfl | ⟨blanks, rfl, blank⟩
    · rw [List.flatMap_nil, List.append_nil, List.append_nil, declaredIn?,
        List.splitOnP_eq_singleton (free_of_not_mem front)]
      rfl
    · rw [List.flatMap_nil, List.nil_append, declaredIn?_append front,
        declaredAmong_blanks blank]
      rfl
  | cons p ps =>
    rw [List.flatMap_cons, List.cons_append, List.cons_append, declaredIn?_append front,
      List.append_assoc, declaredAmong_parameters isEnding, declaredBy_cons]

/-- With nothing hidden before it, the first charset is declared, unless a semicolon parts it. -/
theorem declaredBy_of_none_hides (proper : ∀ p ∈ ps, WrittenParameter.Proper p)
    (unquoted : ∀ p ∈ ps, '"' ∉ p.value) (open_ : ∀ p ∈ leading ps, ¬Hides p.value) :
    ps.find? (NamesCharset ·) = none ∧ declaredBy ps = none ∨
      ∃ p, ps.find? (NamesCharset ·) = some p ∧
        (';' ∉ p.value → declaredBy ps = some p.value) := by
  induction ps with
  | nil => exact .inl ⟨rfl, rfl⟩
  | cons p ps ih =>
    have first := proper p List.mem_cons_self
    have clean := unquoted p List.mem_cons_self
    by_cases names : NamesCharset p
    · refine .inr ⟨p, by simp [names], ?_⟩
      intro plain
      simp [declaredBy, declaredAmong_sent_of_charset first clean plain names]
    · have nothing : declaredAmong (WrittenParameter.sent p) = none := by
        rw [← Option.not_isSome_iff_eq_none, (declaredAmong_sent_of_other first clean names).1]
        exact open_ p (by simp [leading, names])
      have rest := ih (fun q hq => proper q (List.mem_cons_of_mem p hq))
        (fun q hq => unquoted q (List.mem_cons_of_mem p hq))
        fun q hq => open_ q (by simp [leading, names] at hq ⊢; exact .inr hq)
      simpa [declaredBy, nothing, names] using rest

/-- With something hidden before the first charset, the declared charset stands in such a value. -/
theorem declaredBy_of_hides (proper : ∀ p ∈ ps, WrittenParameter.Proper p)
    (unquoted : ∀ p ∈ ps, '"' ∉ p.value) (hidden : ∃ p ∈ leading ps, Hides p.value) :
    ∃ p ∈ leading ps, Hides p.value ∧ ∃ c, declaredBy ps = some c ∧ c <:+: p.value := by
  induction ps with
  | nil => simp [leading] at hidden
  | cons p ps ih =>
    have first := proper p List.mem_cons_self
    have clean := unquoted p List.mem_cons_self
    obtain ⟨q, hq, hides⟩ := hidden
    by_cases names : NamesCharset p
    · simp [leading, names] at hq
    · have other := declaredAmong_sent_of_other first clean names
      simp only [leading, names, not_false_eq_true, decide_true, List.takeWhile_cons_of_pos]
        at hq ⊢
      by_cases here : Hides p.value
      · obtain ⟨c, hc⟩ := Option.isSome_iff_exists.1 (other.1.2 here)
        refine ⟨p, List.mem_cons_self, here, c, ?_, other.2 c hc⟩
        simp [declaredBy, hc]
      · have nothing : declaredAmong (WrittenParameter.sent p) = none := by
          rw [← Option.not_isSome_iff_eq_none, other.1]
          exact here
        have later : q ∈ leading ps := by
          rcases List.mem_cons.1 hq with rfl | hq
          · exact absurd hides here
          · exact hq
        obtain ⟨r, hr, hidesR, c, hc, within⟩ :=
          ih (fun q hq => proper q (List.mem_cons_of_mem p hq))
            (fun q hq => unquoted q (List.mem_cons_of_mem p hq)) ⟨q, later, hides⟩
        refine ⟨r, List.mem_cons_of_mem p hr, hidesR, c, ?_, within⟩
        simpa [declaredBy, nothing] using hc

/-! ## The two readings -/

theorem exists_text_of_contentType {h : RequestHead} {m : MediaType}
    (accepted : h.contentType = some m) :
    ∃ cs, ofChars? cs = some m ∧ h.declaredCharset = (declaredIn? cs).map String.ofList := by
  obtain ⟨text, field, read⟩ := Option.bind_eq_some_iff.1 accepted
  refine ⟨text.toList, read, ?_⟩
  rw [declaredCharset, field, Option.bind_some]

theorem lower_recorded {p : WrittenParameter} (named : IsCharset p.name) :
    lower (recorded p).2 = lower (String.ofList p.value) := by
  have small : (recorded p).2 = lower (String.ofList p.value) := by
    simp [lower, recorded, recordedValue_of_isCharset named, lowered]
  rw [small, lower_lower]

/-- The two readings of a content type agree in the charset, up to the case of its letters, as long
as no parameter before it hides a declaration and the charset itself has no semicolon. Where a value
before it hides a declaration, the declared charset is a part of such a value. -/
theorem the_declared_charset_is_that_of_the_media_type {h : RequestHead} {m : MediaType}
    (accepted : h.contentType = some m)
    (documented : ∀ p ∈ m.parameters, '"' ∉ p.2.toList) :
    ((∀ p ∈ m.beforeCharset, ¬Hides p.2.toList) →
        (h.declaredCharset.map lower = m.charset?.map lower ↔
          ∀ c, m.charset? = some c → ';' ∉ c.toList)) ∧
      ((∃ p ∈ m.beforeCharset, Hides p.2.toList) →
        ∃ p ∈ m.beforeCharset, Hides p.2.toList ∧
          ∃ c, h.declaredCharset = some c ∧ c.toList <:+: p.2.toList) := by
  obtain ⟨cs, read, declared⟩ := exists_text_of_contentType accepted
  obtain ⟨ps, spells⟩ := exists_spells read
  obtain ⟨parameters, unquoted⟩ := parameters_of_spells spells documented
  rw [declaredIn?_of_spells spells] at declared
  rw [declared, beforeCharset_of_parameters parameters, charset?_of_parameters parameters]
  have value {p : WrittenParameter} (hp : p ∈ leading ps) :
      (recorded p).2.toList = p.value := by
    have other : ¬NamesCharset p := by simpa using List.mem_takeWhile_imp hp
    rw [recorded, String.toList_ofList, recordedValue_of_not_namesCharset other]
  constructor
  · intro open_
    have open' : ∀ p ∈ leading ps, ¬Hides p.value := by
      intro p hp
      rw [← value hp]
      exact open_ (recorded p) (List.mem_map_of_mem hp)
    rcases declaredBy_of_none_hides spells.proper unquoted open' with
      ⟨none_, nothing⟩ | ⟨p, first, spec⟩
    · simp [none_, nothing]
    · have names : NamesCharset p := by simpa using List.find?_some first
      have marks : ';' ∈ (recorded p).2.toList ↔ ';' ∈ p.value := by
        rw [recorded, String.toList_ofList]
        exact mem_recordedValue_iff (by decide)
      simp only [first, Option.map_some, Option.some.injEq, forall_eq', marks,
        lower_recorded names.1]
      constructor
      · intro same parted
        obtain ⟨c, hc, equal⟩ : ∃ c, declaredBy ps = some c ∧
            c.map Char.toLower = p.value.map Char.toLower := by
          simpa [lower, ← String.toList_inj] using same
        obtain ⟨q, -, hq⟩ := List.exists_of_findSome?_eq_some hc
        refine no_semicolon_of_declaredAmong hq ?_
        rw [← mem_map_toLower_iff (by decide)] at parted ⊢
        rw [equal]
        exact parted
      · intro plain
        rw [spec plain]
        rfl
  · rintro ⟨_, before, hidden⟩
    obtain ⟨p, hp, rfl⟩ := List.mem_map.1 before
    rw [value hp] at hidden
    obtain ⟨q, hq, hides, c, hc, within⟩ :=
      declaredBy_of_hides spells.proper unquoted ⟨p, hp, hidden⟩
    refine ⟨recorded q, List.mem_map_of_mem hq, ?_, String.ofList c, ?_, ?_⟩
    · rw [value hq]
      exact hides
    · rw [hc]
      rfl
    · rw [value hq, String.toList_ofList]
      exact within

/-- The head of a request with a body of the given content type. -/
def sentAs (contentType : String) : RequestHead :=
  { method := "POST", uri := { path := "/" }, version := .v11,
    fields := ⟨[("content-type", Bytes.ofText contentType)]⟩ }

/-- A boundary with a semicolon in it, before a charset in quotes and capital letters. -/
def shouting : RequestHead :=
  sentAs "multipart/form-data; boundary=\"a;b\"; Charset=\"UTF-8\""

def shoutingType : MediaType :=
  { type := "multipart", fullSubtype := "form-data",
    parameters := [("boundary", "a;b"), ("charset", "utf-8")],
    text := "multipart/form-data; boundary=\"a;b\"; charset=\"utf-8\"" }

theorem a_semicolon_alone_hides_nothing :
    shouting.contentType = some shoutingType ∧
      (∀ p ∈ shoutingType.parameters, '"' ∉ p.2.toList) ∧
      shouting.declaredCharset = some "UTF-8" ∧
      shouting.declaredCharset.map lower = shoutingType.charset?.map lower := by
  have accepted : shouting.contentType = some shoutingType := by decide +kernel
  have documented : ∀ p ∈ shoutingType.parameters, '"' ∉ p.2.toList := by decide
  have open_ : ∀ p ∈ shoutingType.beforeCharset, ¬Hides p.2.toList := by
    have nothing : ∀ p ∈ shoutingType.beforeCharset,
        '"' ∉ p.2.toList ∧ (declaredIn? p.2.toList).isSome = false := by decide +kernel
    intro p hp
    rw [hides_iff (nothing p hp).1, (nothing p hp).2]
    exact Bool.false_ne_true
  have plain : ∀ c, shoutingType.charset? = some c → ';' ∉ c.toList := by
    rintro c ⟨⟩
    decide
  have agree := (the_declared_charset_is_that_of_the_media_type accepted documented).1 open_
  exact ⟨accepted, documented, by decide +kernel, agree.2 plain⟩

/-- What stands in a boundary is declared as the charset, where the media type has none. -/
theorem a_boundary_declares_a_charset :
    let h := sentAs "multipart/form-data; boundary=\"a;charset=utf-16le\""
    ∃ m, h.contentType = some m ∧ m.parameters = [("boundary", "a;charset=utf-16le")] ∧
      m.charset? = none ∧ h.declaredCharset = some "utf-16le" :=
  ⟨{ type := "multipart", fullSubtype := "form-data",
     parameters := [("boundary", "a;charset=utf-16le")],
     text := "multipart/form-data; boundary=\"a;charset=utf-16le\"" },
    by decide +kernel, rfl, by decide, by decide +kernel⟩

end WebRequest.RequestHead
