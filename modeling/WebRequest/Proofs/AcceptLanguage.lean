-- The negotiation of languages. An entry of the header is acceptable by its tag and its first
-- weight; all acceptable entries are kept, the heaviest first, and those of one weight in the order
-- of the header. What is ranked so is determined by the entries, so that it does not matter how
-- they are cut into header values, and one more entry leaves the others where they are.
import Mathlib.Data.List.Basic
import WebRequest.AcceptLanguage
import WebRequest.Proofs.Text
import WebRequest.Request.Basic

namespace WebRequest.AcceptLanguage

open Text

/-! ## Rankings -/

/-- The same elements, the heaviest first; those of one weight stay in their order. -/
structure Ranks {α : Type} (offered ranking : List (Nat × α)) : Prop where
  perm : ranking.Perm offered
  sorted : ranking.Pairwise fun a b => b.1 ≤ a.1
  stable : ∀ w, ranking.filter (·.1 = w) = offered.filter (·.1 = w)

namespace Ranks

variable {α : Type} {offered ranking ranking' : List (Nat × α)}

/-- Some of the elements are ranked among themselves as they are among all. -/
theorem filter (h : Ranks offered ranking) (p : Nat × α → Bool) :
    Ranks (offered.filter p) (ranking.filter p) := by
  refine ⟨h.perm.filter p, h.sorted.filter p, fun w => ?_⟩
  rw [List.filter_comm, h.stable, List.filter_comm]

theorem mem_of_same {first second : List (Nat × α)}
    (same : ∀ w, first.filter (·.1 = w) = second.filter (·.1 = w)) {a : Nat × α}
    (ha : a ∈ first) : a ∈ second := by
  have kept : a ∈ first.filter (·.1 = a.1) := List.mem_filter.2 ⟨ha, decide_eq_true rfl⟩
  rw [same] at kept
  exact List.mem_of_mem_filter kept

theorem le_of_mem_sorted {a b : Nat × α} (sorted : (a :: ranking).Pairwise fun a b => b.1 ≤ a.1)
    (hb : b ∈ a :: ranking) : b.1 ≤ a.1 := by
  rcases List.mem_cons.1 hb with rfl | hb
  · exact Nat.le_refl _
  · exact (List.pairwise_cons.1 sorted).1 b hb

/-- An order that is kept for each weight, with the heaviest first, is the only one. -/
theorem eq_of_sorted {first second : List (Nat × α)}
    (sorted : first.Pairwise fun a b => b.1 ≤ a.1) (sorted' : second.Pairwise fun a b => b.1 ≤ a.1)
    (same : ∀ w, first.filter (·.1 = w) = second.filter (·.1 = w)) : first = second := by
  have same' : ∀ w, second.filter (·.1 = w) = first.filter (·.1 = w) := fun w => (same w).symm
  induction first generalizing second with
  | nil =>
    cases second with
    | nil => rfl
    | cons b _ => cases mem_of_same same' List.mem_cons_self
  | cons a first ih =>
    cases second with
    | nil => cases mem_of_same same List.mem_cons_self
    | cons b second =>
      have below : b.1 ≤ a.1 := le_of_mem_sorted sorted (mem_of_same same' List.mem_cons_self)
      have above : a.1 ≤ b.1 := le_of_mem_sorted sorted' (mem_of_same same List.mem_cons_self)
      have weight : a.1 = b.1 := Nat.le_antisymm above below
      have heads := same a.1
      rw [List.filter_cons_of_pos (by simp), List.filter_cons_of_pos (by simp [weight])] at heads
      obtain ⟨rfl, -⟩ := List.cons.inj heads
      have rest : ∀ w, first.filter (·.1 = w) = second.filter (·.1 = w) := by
        intro w
        have both := same w
        by_cases hw : a.1 = w
        · rw [List.filter_cons_of_pos (by simp [hw]),
            List.filter_cons_of_pos (by simp [hw])] at both
          exact (List.cons.inj both).2
        · rwa [List.filter_cons_of_neg (by simp [hw]),
            List.filter_cons_of_neg (by simp [hw])] at both
      rw [ih (List.pairwise_cons.1 sorted).2 (List.pairwise_cons.1 sorted').2 rest
        fun w => (rest w).symm]

theorem unique (h : Ranks offered ranking) (h' : Ranks offered ranking') : ranking = ranking' :=
  eq_of_sorted h.sorted h'.sorted fun w => (h.stable w).trans (h'.stable w).symm

/-- Behind an element, nothing is heavier. -/
theorem filter_eq_nil_of_sorted {a : Nat × α}
    (sorted : (a :: ranking).Pairwise fun a b => b.1 ≤ a.1) {p : Nat × α → Bool}
    (heavy : ∀ b, p b = true → a.1 < b.1) : ranking.filter p = [] := by
  rw [List.filter_eq_nil_iff]
  intro b hb
  have below := le_of_mem_sorted sorted (List.mem_cons_of_mem a hb)
  intro kept
  have above := heavy b kept
  omega

/-- A ranking in three parts, around the elements of a weight. -/
theorem parts (h : Ranks offered ranking) (w : Nat) :
    ranking = ranking.filter (w < ·.1) ++ offered.filter (·.1 = w) ++ ranking.filter (·.1 < w) := by
  rw [← h.stable w]
  have sorted := h.sorted
  clear h
  induction ranking with
  | nil => rfl
  | cons a ranking ih =>
    have split := ih (List.pairwise_cons.1 sorted).2
    rcases Nat.lt_trichotomy a.1 w with below | same | above
    · have heavier : ranking.filter (w < ·.1) = [] :=
        filter_eq_nil_of_sorted sorted fun b hb => below.trans (of_decide_eq_true hb)
      have even : ranking.filter (·.1 = w) = [] :=
        filter_eq_nil_of_sorted sorted fun b hb => below.trans_eq (of_decide_eq_true hb).symm
      rw [heavier, even] at split
      simpa [Nat.not_lt.2 (Nat.le_of_lt below), Nat.ne_of_lt below, below, heavier, even]
        using split
    · have heavier : ranking.filter (w < ·.1) = [] :=
        filter_eq_nil_of_sorted sorted fun b hb => same.trans_lt (of_decide_eq_true hb)
      rw [heavier] at split
      simpa [same, heavier] using split
    · rw [List.filter_cons_of_pos (by simpa using above), List.filter_cons_of_neg (by simp; omega),
        List.filter_cons_of_neg (by simp; omega), List.cons_append, List.cons_append, ← split]

/-- One more element stands at one place of the ranking, and all others stay as they are. -/
theorem insert {front back : List (Nat × α)} {a : Nat × α} (h : Ranks (front ++ back) ranking)
    (h' : Ranks (front ++ a :: back) ranking') :
    ∃ before after, ranking = before ++ after ∧ ranking' = before ++ a :: after := by
  -- the elements of other weights are offered alike, and so they are ranked alike
  have others (p : Nat × α → Bool) (left : p a = false) :
      ranking'.filter p = ranking.filter p := by
    have same : (front ++ a :: back).filter p = (front ++ back).filter p := by
      simp [left]
    exact (same ▸ h'.filter p).unique (h.filter p)
  have heavier := others (a.1 < ·.1) (by simp)
  have lighter := others (·.1 < a.1) (by simp)
  refine ⟨ranking.filter (a.1 < ·.1) ++ front.filter (·.1 = a.1),
    back.filter (·.1 = a.1) ++ ranking.filter (·.1 < a.1), ?_, ?_⟩
  · simpa using h.parts a.1
  · have all := h'.parts a.1
    rw [heavier, lighter] at all
    simpa using all

end Ranks

theorem ranks_mergeSort {α : Type} (offered : List (Nat × α)) :
    Ranks offered (offered.mergeSort fun a b => b.1 ≤ a.1) := by
  have trans (a b c : Nat × α) (hab : decide (b.1 ≤ a.1) = true)
      (hbc : decide (c.1 ≤ b.1) = true) : decide (c.1 ≤ a.1) = true := by
    simp only [decide_eq_true_eq] at *
    omega
  have total (a b : Nat × α) : (decide (b.1 ≤ a.1) || decide (a.1 ≤ b.1)) = true := by
    simp only [Bool.or_eq_true, decide_eq_true_eq]
    omega
  have perm := List.mergeSort_perm offered fun a b => decide (b.1 ≤ a.1)
  refine ⟨perm, ?_, fun w => ?_⟩
  · simpa using List.pairwise_mergeSort trans total offered
  · -- the elements of one weight are sorted as they are, so they stay in their order
    have even : (offered.filter (·.1 = w)).Pairwise fun a b => decide (b.1 ≤ a.1) = true := by
      apply List.pairwise_of_forall_mem_list
      intro a ha b hb
      have wa := of_decide_eq_true (List.mem_filter.1 ha).2
      have wb := of_decide_eq_true (List.mem_filter.1 hb).2
      simp [wa, wb]
    have kept := List.sublist_mergeSort trans total even List.filter_sublist
    have among := kept.filter (·.1 = w)
    rw [List.filter_filter] at among
    simp only [Bool.and_self] at among
    exact (among.eq_of_length (perm.filter _).length_eq.symm).symm

/-! ## Entries -/

/-- The tag of an entry: what stands before the first semicolon, without the blanks around it. -/
def tagOf (entry : List Char) : List Char := strip isBlank (entry.takeWhile (· ≠ ';'))

/-- The parameters of an entry: the pieces between the semicolons behind the tag. -/
def parametersOf (entry : List Char) : List (List Char) := (entry.splitOnP (· = ';')).drop 1

/-- The weight that parameters give: that of the first one for quality, if it is accepted, and one
thousand if there is none. -/
inductive Weighs (parameters : List (List Char)) : Nat → Prop
  | unstated (none_ : ∀ p ∈ parameters, ∀ text, strip isBlank p ≠ 'q' :: '=' :: text) :
      Weighs parameters 1000
  | stated {before behind : List (List Char)} {p text : List Char} {w : Nat}
      (first : parameters = before ++ p :: behind)
      (others : ∀ p ∈ before, ∀ text, strip isBlank p ≠ 'q' :: '=' :: text)
      (written : strip isBlank p = 'q' :: '=' :: text) (accepted : quality? text = some w) :
      Weighs parameters w

/-- An entry asks for a locale with a weight. -/
structure Acceptable (entry : List Char) (w : Nat) (l : Locale) : Prop where
  named : tagOf entry ≠ []
  proper : tagOf entry ≠ ['*']
  parsed : Locale.ofChars? (tagOf entry) = some l
  weighs : Weighs (parametersOf entry) w
  positive : w ≠ 0

theorem qualityText?_eq_some_iff {p text : List Char} :
    qualityText? p = some text ↔ strip isBlank p = 'q' :: '=' :: text := by
  unfold qualityText?
  split
  · rename_i rest written
    rw [written]
    simp
  · rename_i other
    simp only [reduceCtorEq, false_iff]
    exact other text

theorem qualityText?_eq_none_iff {p : List Char} :
    qualityText? p = none ↔ ∀ text, strip isBlank p ≠ 'q' :: '=' :: text := by
  simp only [Option.eq_none_iff_forall_ne_some, ne_eq, qualityText?_eq_some_iff]

theorem weight?_eq_some_iff {parameters : List (List Char)} {w : Nat} :
    weight? parameters = some w ↔ Weighs parameters w := by
  unfold weight?
  constructor
  · intro h
    split at h
    · rename_i none_
      cases h
      rw [List.findSome?_eq_none_iff] at none_
      exact .unstated fun p hp => qualityText?_eq_none_iff.1 (none_ p hp)
    · rename_i text found
      obtain ⟨before, p, behind, first, written, others⟩ := List.findSome?_eq_some_iff.1 found
      exact .stated first (fun q hq => qualityText?_eq_none_iff.1 (others q hq))
        (qualityText?_eq_some_iff.1 written) h
  · intro weighs
    cases weighs with
    | unstated none_ =>
      have nothing : parameters.findSome? qualityText? = none := by
        rw [List.findSome?_eq_none_iff]
        exact fun p hp => qualityText?_eq_none_iff.2 (none_ p hp)
      rw [nothing]
    | @stated before behind p text _ first others written accepted =>
      have found : parameters.findSome? qualityText? = some text :=
        List.findSome?_eq_some_iff.2 ⟨before, p, behind, first, qualityText?_eq_some_iff.2 written,
          fun q hq => qualityText?_eq_none_iff.2 (others q hq)⟩
      rw [found]
      exact accepted

theorem entry?_eq_some_iff {entry : List Char} {w : Nat} {l : Locale} :
    entry? entry = some (w, l) ↔ Acceptable entry w l := by
  obtain ⟨name, parameters, pieces⟩ :=
    List.exists_cons_of_ne_nil (List.splitOnP_ne_nil (· = ';') entry)
  have tag : strip isBlank name = tagOf entry := by
    have first := head?_splitOnP (· = ';') entry
    rw [pieces, List.head?_cons, Option.some.injEq] at first
    simp only [tagOf, first, ne_eq, decide_not]
  have behind : parameters = parametersOf entry := by
    rw [parametersOf, pieces]
    rfl
  unfold entry?
  simp only [pieces, tag, behind]
  constructor
  · intro h
    split at h
    · cases h
    · rename_i usable
      obtain ⟨named, proper⟩ := not_or.1 usable
      split at h
      · cases h
      · cases h
      · rename_i w' positive weighs
        obtain ⟨l', parsed, same⟩ := Option.map_eq_some_iff.1 h
        cases same
        exact ⟨named, proper, parsed, weight?_eq_some_iff.1 weighs, positive⟩
  · intro acceptable
    rw [if_neg (not_or.2 ⟨acceptable.named, acceptable.proper⟩),
      weight?_eq_some_iff.2 acceptable.weighs]
    cases w with
    | zero => exact absurd rfl acceptable.positive
    | succ w =>
      rw [acceptable.parsed]
      rfl

theorem entries_plain {values : List String} (plain : ∀ v ∈ values, ',' ∉ v.toList) :
    entries values = values.map String.toList := by
  have alone : ∀ v ∈ values, v.toList.splitOnP (· = ',') = [v.toList] := by
    intro v hv
    apply List.splitOnP_eq_singleton
    intro c hc
    exact decide_eq_false fun same => plain v hv (same ▸ hc)
  rw [entries, List.flatMap_congr alone, ← List.map_eq_flatMap]

/-- A comma in a header value parts it as the values are parted. -/
theorem entries_joined (front back : List String) (a b : String) :
    entries (front ++ (a ++ "," ++ b) :: back) = entries (front ++ a :: b :: back) := by
  have parted : (a ++ "," ++ b).toList.splitOnP (· = ',') =
      a.toList.splitOnP (· = ',') ++ b.toList.splitOnP (· = ',') := by
    have joined : (a ++ "," ++ b).toList = a.toList ++ ',' :: b.toList := by simp
    rw [joined, List.splitOnP_append_cons _ _ (by decide)]
  simp only [entries, List.flatMap_append, List.flatMap_cons, parted, List.append_assoc]

theorem negotiate_eq_nil_iff {values : List String} :
    negotiate values = [] ↔ ∀ entry ∈ entries values, ∀ w l, ¬ Acceptable entry w l := by
  rw [negotiate, List.map_eq_nil_iff, ← List.length_eq_zero_iff, (ranked_perm values).length_eq,
    List.length_eq_zero_iff, List.filterMap_eq_nil_iff]
  constructor
  · intro none_ entry hentry w l acceptable
    have kept := entry?_eq_some_iff.2 acceptable
    rw [none_ entry hentry] at kept
    cases kept
  · intro none_ entry hentry
    rw [Option.eq_none_iff_forall_ne_some]
    intro a kept
    exact none_ entry hentry a.1 a.2 (entry?_eq_some_iff.1 kept)

/-- The locale of one more entry, if it is acceptable, stands at one place among the others. -/
theorem negotiate_added {values values' : List String} {front back : List (List Char)}
    {entry : List Char} (split : entries values = front ++ back)
    (split' : entries values' = front ++ entry :: back) :
    ∃ before after, negotiate values = before ++ after ∧
      negotiate values' = before ++ (Option.map (·.2) <| entry? entry).toList ++ after := by
  have ranks := ranks_mergeSort ((entries values).filterMap entry?)
  have ranks' := ranks_mergeSort ((entries values').filterMap entry?)
  rw [split, List.filterMap_append] at ranks
  rw [split', List.filterMap_append, List.filterMap_cons] at ranks'
  simp only [negotiate, ranked, split, split', List.filterMap_append, List.filterMap_cons]
  cases hentry : entry? entry with
  | none => exact ⟨_, [], (List.append_nil _).symm, by simp⟩
  | some a =>
    rw [hentry] at ranks'
    obtain ⟨before, after, placed, placed'⟩ := ranks.insert ranks'
    refine ⟨before.map (·.2), after.map (·.2), ?_, ?_⟩
    · rw [placed, List.map_append]
    · rw [placed']
      simp

/-! ## The law -/

/-- The header of a request that names its languages. -/
def languagesOf (r : Request) : List String := r.head.fields.texts "accept-language"

/-- Negotiation ranks exactly the acceptable entries. So it does not matter how they are cut into
header values, and one more entry leaves all others where they are. A request has a locale in any
case, and the preferred one leads the list. -/
theorem negotiation_ranks_the_acceptable_entries :
    (∀ entry w l, entry? entry = some (w, l) ↔ Acceptable entry w l) ∧
    (∀ values, Ranks ((entries values).filterMap entry?) (ranked values) ∧
      negotiate values = (ranked values).map (·.2)) ∧
    (∀ values, (∀ v ∈ values, ',' ∉ v.toList) → entries values = values.map String.toList) ∧
    (∀ front back a b,
      negotiate (front ++ (a ++ "," ++ b) :: back) = negotiate (front ++ a :: b :: back)) ∧
    (∀ values values' front entry back, entries values = front ++ back →
      entries values' = front ++ entry :: back →
      ∃ before after, negotiate values = before ++ after ∧
        negotiate values' = before ++ (Option.map (·.2) <| entry? entry).toList ++ after) ∧
    ∀ r : Request, r.locales.head? = some r.locale ∧
      ((∃ entry ∈ entries (languagesOf r), ∃ w l, Acceptable entry w l) ∧
          r.locales = negotiate (languagesOf r) ∨
        (∀ entry ∈ entries (languagesOf r), ∀ w l, ¬ Acceptable entry w l) ∧
          r.locales = [r.settings.defaultLocale]) := by
  refine ⟨fun _ _ _ => entry?_eq_some_iff, fun values => ⟨ranks_mergeSort _, rfl⟩,
    fun _ => entries_plain, ?_, ?_, ?_⟩
  · intro front back a b
    rw [negotiate, ranked, entries_joined]
    rfl
  · intro values values' front entry back split split'
    exact negotiate_added split split'
  · intro r
    refine ⟨r.head?_locales, ?_⟩
    unfold Request.locales
    split
    · rename_i nothing
      exact .inr ⟨negotiate_eq_nil_iff.1 nothing, rfl⟩
    · rename_i some_
      refine .inl ⟨?_, rfl⟩
      by_contra none_
      apply some_
      rw [negotiate_eq_nil_iff]
      intro entry hentry w l acceptable
      exact none_ ⟨entry, hentry, w, l, acceptable⟩

/-- A second entry of a weight is put behind the first, whichever value it is in. -/
theorem a_second_choice_is_put_behind_the_first :
    entries ["fr;q=0.5", "ja"] = ["fr;q=0.5", "ja"].map String.toList ∧
      entries ["fr;q=0.5,de;q=0.5,ja"] =
        ["fr;q=0.5".toList] ++ "de;q=0.5".toList :: ["ja".toList] ∧
      ∃ before after, negotiate ["fr;q=0.5", "ja"] = before ++ after ∧
        negotiate ["fr;q=0.5,de;q=0.5,ja"] = before ++ [⟨"de", "", ""⟩] ++ after := by
  obtain ⟨-, -, alone, -, added, -⟩ := negotiation_ranks_the_acceptable_entries
  have values := alone ["fr;q=0.5", "ja"] (by decide)
  have values' : entries ["fr;q=0.5,de;q=0.5,ja"] =
      ["fr;q=0.5".toList] ++ "de;q=0.5".toList :: ["ja".toList] := by decide
  have accepted : entry? "de;q=0.5".toList = some (500, ⟨"de", "", ""⟩) := by decide +kernel
  have placed := added _ _ ["fr;q=0.5".toList] _ _ values values'
  rw [accepted] at placed
  exact ⟨values, values', placed⟩

end WebRequest.AcceptLanguage
