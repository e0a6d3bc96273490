-- What a media type was written as. Reading a media type loses nothing: the text is the type, a
-- slash, the subtype, and each parameter behind its semicolon as it was sent.
import Mathlib.Data.List.TakeWhile
import WebRequest.Head.MediaType

namespace WebRequest.MediaType

/-! ## Parameters -/

/-- The parameter as it was sent, behind its semicolon. -/
def WrittenParameter.sent (p : WrittenParameter) : List Char :=
  List.replicate p.lead ' ' ++ p.name ++ '=' ::
    ((if p.quoted then '"' :: (p.value ++ ['"']) else p.value) ++ List.replicate p.trail ' ')

/-- What a parameter that has been read is made of: the name is a token, and so is a value without
quotes. -/
structure WrittenParameter.Proper (p : WrittenParameter) : Prop where
  name : ∀ c ∈ p.name, Text.isTokenChar c = true
  value : p.quoted = false → ∀ c ∈ p.value, Text.isTokenChar c = true
  behind : p.quoted = false → p.trail = 0

theorem leadingBlanks_append (cs : List Char) :
    List.replicate (leadingBlanks cs) ' ' ++ cs.dropWhile (· = ' ') = cs := by
  have blanks : cs.takeWhile (· = ' ') = List.replicate (leadingBlanks cs) ' ' := by
    rw [List.eq_replicate_iff]
    refine ⟨rfl, ?_⟩
    intro c hc
    simpa using List.mem_takeWhile_imp hc
  rw [← blanks, List.takeWhile_append_dropWhile]

theorem readQuoted?_eq {lead : Nat} {name cs rest : List Char} {p : WrittenParameter}
    (h : readQuoted? lead name cs = some (p, rest)) :
    cs = p.value ++ '"' :: (List.replicate p.trail ' ' ++ rest) ∧
      p.lead = lead ∧ p.name = name ∧ p.quoted = true := by
  cases cs with
  | nil => cases h
  | cons first more =>
    have parts := List.takeWhile_append_dropWhile (p := (· ≠ '"')) (l := more)
    simp only [readQuoted?] at h
    split at h
    · cases h
    · rename_i quote behind hb
      have closing : quote = '"' := by
        have first := List.head?_dropWhile_not (· ≠ '"') more
        rw [hb] at first
        simpa using first
      split at h
      · simp only [Option.some.injEq, Prod.mk.injEq] at h
        obtain ⟨rfl, rfl⟩ := h
        refine ⟨?_, rfl, rfl, rfl⟩
        simp only [leadingBlanks_append, List.cons_append]
        rw [closing] at hb
        rw [← hb, parts]
      · cases h

theorem readBare?_eq {lead : Nat} {name cs rest : List Char} {p : WrittenParameter}
    (h : readBare? lead name cs = some (p, rest)) :
    cs = p.value ++ rest ∧ p.lead = lead ∧ p.name = name ∧ p.quoted = false ∧ p.trail = 0 ∧
      ∀ c ∈ p.value, Text.isTokenChar c = true := by
  simp only [readBare?] at h
  split at h
  · simp only [Option.some.injEq, Prod.mk.injEq] at h
    obtain ⟨rfl, rfl⟩ := h
    exact ⟨List.takeWhile_append_dropWhile.symm, rfl, rfl, rfl, rfl,
      fun c hc => List.mem_takeWhile_imp hc⟩
  · cases h

theorem readParameter?_eq {cs rest : List Char} {p : WrittenParameter}
    (h : readParameter? cs = some (p, rest)) :
    cs = WrittenParameter.sent p ++ rest ∧ WrittenParameter.Proper p := by
  have blanks := leadingBlanks_append cs
  have parts := List.takeWhile_append_dropWhile (p := Text.isTokenChar)
    (l := cs.dropWhile (· = ' '))
  have token : ∀ c ∈ (cs.dropWhile (· = ' ')).takeWhile Text.isTokenChar,
      Text.isTokenChar c = true := fun c hc => List.mem_takeWhile_imp hc
  unfold readParameter? at h
  simp only at h
  split at h
  · cases h
  · split at h
    · rename_i after he
      obtain ⟨split, lead, name, quoted⟩ := readQuoted?_eq h
      refine ⟨?_, ?_, ?_, ?_⟩
      · rw [← blanks, ← parts, he, split]
        simp [WrittenParameter.sent, lead, name, quoted]
      · rw [name]
        exact token
      · rw [quoted]
        rintro ⟨⟩
      · rw [quoted]
        rintro ⟨⟩
    · rename_i after _ he
      obtain ⟨split, lead, name, quoted, trail, value⟩ := readBare?_eq h
      refine ⟨?_, ?_, fun _ => value, fun _ => trail⟩
      · rw [← blanks, ← parts, he, split]
        simp [WrittenParameter.sent, lead, name, quoted, trail]
      · rw [name]
        exact token
    · cases h

/-! ## Media types -/

/-- What may follow the last parameter: nothing, or a semicolon and blanks. -/
def IsEnding (ending : List Char) : Prop :=
  ending = [] ∨ ∃ blanks, ending = ';' :: blanks ∧ ∀ c ∈ blanks, c = ' '

theorem readParameters?_eq {cs ending : List Char} {ps : List WrittenParameter}
    (h : readParameters? cs = some (ps, ending)) :
    cs = ps.flatMap (fun p => ';' :: WrittenParameter.sent p) ++ ending ∧ IsEnding ending ∧
      ∀ p ∈ ps, WrittenParameter.Proper p := by
  fun_induction readParameters? cs generalizing ps ending with
  | case1 =>
    cases h
    exact ⟨rfl, .inl rfl, by simp⟩
  | case2 => cases h
  | case3 c rest semicolon blanks =>
    cases h
    have hc : c = ';' := by simpa using semicolon
    subst hc
    refine ⟨rfl, .inr ⟨rest, rfl, ?_⟩, by simp⟩
    simpa using blanks
  | case4 => cases h
  | case5 c rest semicolon _ p after read ih =>
    have hc : c = ';' := by simpa using semicolon
    subst hc
    obtain ⟨⟨ps', ending'⟩, hrest, he⟩ := Option.map_eq_some_iff.1 h
    cases he
    obtain ⟨written, proper⟩ := readParameter?_eq read
    obtain ⟨rest', isEnding, others⟩ := ih hrest
    refine ⟨?_, isEnding, ?_⟩
    · rw [written, rest', List.flatMap_cons]
      simp
    · intro q hq
      rcases List.mem_cons.1 hq with rfl | hq
      · exact proper
      · exact others q hq

/-- A text that is read as a media type, and the parameters that it was written with. -/
structure Spells (cs : List Char) (m : MediaType) (ps : List WrittenParameter) : Prop where
  text : ∃ type subtype ending,
    cs = type ++ '/' ::
        (subtype ++ (ps.flatMap (fun p => ';' :: WrittenParameter.sent p) ++ ending)) ∧
      (∀ c ∈ type, Text.isTokenChar c = true) ∧ (∀ c ∈ subtype, Text.isTokenChar c = true) ∧
      IsEnding ending
  proper : ∀ p ∈ ps, WrittenParameter.Proper p
  parameters : m.parameters = (record ps).map fun p => (String.ofList p.1, String.ofList p.2)

/-- Nothing of a text is lost when it is read as a media type. -/
theorem exists_spells {cs : List Char} {m : MediaType} (h : ofChars? cs = some m) :
    ∃ ps, Spells cs m ps := by
  have parts := List.takeWhile_append_dropWhile (p := Text.isTokenChar) (l := cs)
  simp only [ofChars?] at h
  split at h
  · rename_i rest he
    have parts' := List.takeWhile_append_dropWhile (p := Text.isTokenChar) (l := rest)
    split at h
    · cases h
    · obtain ⟨⟨ps, ending⟩, hread, rfl⟩ := Option.map_eq_some_iff.1 h
      obtain ⟨list, isEnding, proper⟩ := readParameters?_eq hread
      have token (cs : List Char) : ∀ c ∈ cs.takeWhile Text.isTokenChar,
          Text.isTokenChar c = true := fun c hc => List.mem_takeWhile_imp hc
      refine ⟨ps, ⟨cs.takeWhile Text.isTokenChar, rest.takeWhile Text.isTokenChar, ending, ?_,
        token cs, token rest, isEnding⟩, proper, rfl⟩
      rw [← list, parts', ← he, parts]
  · cases h

end WebRequest.MediaType
