-- The charset of a media type. It is that of the first parameter with the name of a charset and a
-- value; as long as no value has a quote in it, that is the first such parameter that was written.
import WebRequest.Proofs.MediaType.Written
import WebRequest.Proofs.Text

namespace WebRequest.MediaType

/-- The name of the parameter that gives a charset, in any case. -/
def IsCharset (name : List Char) : Prop := lowered name = "charset".toList

instance (name : List Char) : Decidable (IsCharset name) := inferInstanceAs (Decidable (_ = _))

/-- The parameter gives a charset: it has the name of one, and a value that is not empty. -/
def NamesCharset (p : WrittenParameter) : Prop := IsCharset p.name ∧ p.value ≠ []

instance (p : WrittenParameter) : Decidable (NamesCharset p) :=
  inferInstanceAs (Decidable (_ ∧ _))

/-- The parameters before the first that gives a charset. -/
def leading (ps : List WrittenParameter) : List WrittenParameter :=
  ps.takeWhile fun p => ¬NamesCharset p

/-- A parameter as it is recorded, in texts. -/
def recorded (p : WrittenParameter) : String × String :=
  (String.ofList (lowered p.name), String.ofList (WrittenParameter.recordedValue p))

/-- The recorded parameter gives a charset: it has the name of one, and a value that is not
empty. -/
def givesCharset (p : String × String) : Bool := p.1 == "charset" && p.2 != ""

/-- The charset of a media type. -/
def charset? (m : MediaType) : Option String := (m.parameters.find? givesCharset).map (·.2)

/-- The parameters before the one that gives the charset. -/
def beforeCharset (m : MediaType) : List (String × String) :=
  m.parameters.takeWhile fun p => !givesCharset p

theorem recordedValue_of_isCharset {p : WrittenParameter} (h : IsCharset p.name) :
    WrittenParameter.recordedValue p = lowered p.value := if_pos h

theorem recordedValue_of_not_isCharset {p : WrittenParameter} (h : ¬IsCharset p.name) :
    WrittenParameter.recordedValue p = p.value := if_neg h

/-- Only letters are recorded differently. -/
theorem mem_recordedValue_iff {p : WrittenParameter} {d : Char} (h : d.isAlpha = false) :
    d ∈ WrittenParameter.recordedValue p ↔ d ∈ p.value := by
  by_cases named : IsCharset p.name
  · rw [recordedValue_of_isCharset named]
    exact Text.mem_map_toLower_iff h
  · rw [recordedValue_of_not_isCharset named]

theorem recordedValue_of_not_namesCharset {p : WrittenParameter} (h : ¬NamesCharset p) :
    WrittenParameter.recordedValue p = p.value := by
  by_cases named : IsCharset p.name
  · have empty : p.value = [] := by
      by_contra some_
      exact h ⟨named, some_⟩
    rw [recordedValue_of_isCharset named, empty]
    rfl
  · exact recordedValue_of_not_isCharset named

theorem givesCharset_recorded (p : WrittenParameter) :
    givesCharset (recorded p) = decide (NamesCharset p) := by
  have name : String.ofList (lowered p.name) = "charset" ↔ IsCharset p.name := by
    rw [← String.toList_inj, String.toList_ofList, IsCharset]
  have value (named : IsCharset p.name) :
      String.ofList (WrittenParameter.recordedValue p) = "" ↔ p.value = [] := by
    rw [recordedValue_of_isCharset named, ← String.toList_inj, String.toList_ofList, lowered]
    exact List.map_eq_nil_iff
  rw [Bool.eq_iff_iff, decide_eq_true_iff, givesCharset, recorded, Bool.and_eq_true, beq_iff_eq,
    bne_iff_ne, name]
  exact and_congr_right fun named => not_congr (value named)

/-- The five characters that may be recorded for UTF-8 have a quote among them; all else is recorded
parameter by parameter. -/
theorem record_cases (ps : List WrittenParameter) :
    record ps = ps.map (fun p => (lowered p.name, WrittenParameter.recordedValue p)) ∨
      ∃ p ∈ record ps, '"' ∈ p.2 := by
  rcases ps with _ | ⟨p, _ | ⟨q, rest⟩⟩
  · exact .inl rfl
  · exact .inl rfl
  · simp only [record]
    split
    · exact .inr ⟨_, List.mem_cons_self, by simp⟩
    · exact .inl rfl

variable {cs : List Char} {m : MediaType} {ps : List WrittenParameter}

theorem parameters_of_spells (spells : Spells cs m ps)
    (documented : ∀ p ∈ m.parameters, '"' ∉ p.2.toList) :
    m.parameters = ps.map recorded ∧ ∀ p ∈ ps, '"' ∉ p.value := by
  have parameters : m.parameters = ps.map recorded := by
    rcases record_cases ps with same | ⟨p, hp, quote⟩
    · rw [spells.parameters, same, List.map_map]
      rfl
    · refine absurd ?_ (documented (String.ofList p.1, String.ofList p.2) ?_)
      · rw [String.toList_ofList]
        exact quote
      · rw [spells.parameters]
        exact List.mem_map_of_mem hp
  refine ⟨parameters, ?_⟩
  intro p hp quote
  refine documented (recorded p) ?_ ?_
  · rw [parameters]
    exact List.mem_map_of_mem hp
  · rw [recorded, String.toList_ofList]
    exact (mem_recordedValue_iff (by decide)).2 quote

theorem charset?_of_parameters (h : m.parameters = ps.map recorded) :
    m.charset? = (ps.find? (NamesCharset ·)).map fun p => (recorded p).2 := by
  have same : givesCharset ∘ recorded = fun p => decide (NamesCharset p) :=
    funext givesCharset_recorded
  rw [charset?, h, List.find?_map, same, Option.map_map]
  rfl

theorem beforeCharset_of_parameters (h : m.parameters = ps.map recorded) :
    m.beforeCharset = (leading ps).map recorded := by
  have same : (fun p => !givesCharset p) ∘ recorded = fun p => decide (¬NamesCharset p) := by
    funext p
    simp [givesCharset_recorded]
  rw [beforeCharset, h, List.takeWhile_map, same, leading]

end WebRequest.MediaType
