-- The laws of the table of parameters: what an added value changes, that the index, the entries
-- and the count never drift apart, and that a table built from pairs answers every question as
-- the pairs themselves would.
import Mathlib.Algebra.GroupWithZero.Nat
import Mathlib.Data.List.Induction
import Std.Data.HashMap.Lemmas
import WebRequest.Parameters.Table

namespace WebRequest.Parameters

/-! ## Pairs -/

/-- The values of a name among pairs, in order. -/
def valuesOf (pairs : List (String × String)) (name : String) : List String :=
  (pairs.filter fun p => p.1 = name).map Prod.snd

/-- The names among pairs, in the order of their first occurrence. -/
def namesOf (pairs : List (String × String)) : List String := (pairs.map Prod.fst).eraseDups

theorem mem_namesOf {pairs : List (String × String)} {name : String} :
    name ∈ namesOf pairs ↔ ∃ value, (name, value) ∈ pairs := by
  simp [namesOf, List.mem_eraseDups]

theorem valuesOf_snoc (pairs : List (String × String)) (p : String × String) (name : String) :
    valuesOf (pairs ++ [p]) name =
      if p.1 = name then valuesOf pairs name ++ [p.2] else valuesOf pairs name := by
  unfold valuesOf
  by_cases h : p.1 = name <;> simp [h]

theorem namesOf_snoc (pairs : List (String × String)) (p : String × String) :
    namesOf (pairs ++ [p]) =
      if p.1 ∈ namesOf pairs then namesOf pairs else namesOf pairs ++ [p.1] := by
  unfold namesOf
  rw [List.map_append, List.eraseDups_append]
  by_cases h : p.1 ∈ pairs.map Prod.fst
  · simp [List.removeAll, List.mem_eraseDups, h]
  · simp [List.removeAll, List.mem_eraseDups, List.eraseDups_cons, h]

theorem valuesOf_eq_nil {pairs : List (String × String)} {name : String}
    (h : name ∉ namesOf pairs) : valuesOf pairs name = [] := by
  rw [mem_namesOf] at h
  unfold valuesOf
  rw [List.map_eq_nil_iff, List.filter_eq_nil_iff]
  intro p hp hname
  have hname' : p.1 = name := of_decide_eq_true hname
  subst hname'
  exact h ⟨p.2, hp⟩

namespace Table

/-! ## The index -/

/-- The index gives the place of every name, and of nothing else. -/
def Indexed (t : Table) : Prop :=
  ∀ (name : String) (i : Nat),
    t.index[name]? = some i ↔ ∃ e, t.entries[i]? = some e ∧ e.name = name

theorem indexed_empty : Indexed {} := by
  intro name i
  simp

theorem Indexed.mem_names {t : Table} (h : t.Indexed) {name : String} :
    name ∈ t.names ↔ ∃ i, t.index[name]? = some i := by
  unfold names
  rw [List.mem_map]
  constructor
  · rintro ⟨e, he, rfl⟩
    obtain ⟨i, hi⟩ := List.mem_iff_getElem?.1 he
    exact ⟨i, (h e.name i).2 ⟨e, by rw [← Array.getElem?_toList]; exact hi, rfl⟩⟩
  · rintro ⟨i, hi⟩
    obtain ⟨e, he, rfl⟩ := (h name i).1 hi
    exact ⟨e, List.mem_iff_getElem?.2 ⟨i, by rw [Array.getElem?_toList]; exact he⟩, rfl⟩

/-- The place of a name lies within the entries, and the entry there has the name. -/
theorem Indexed.getElem?_index_iff {t : Table} (h : t.Indexed) (name : String) (i : Nat) :
    t.index[name]? = some i ↔ ∃ inside : i < t.entries.size, t.entries[i].name = name := by
  rw [h name i]
  constructor
  · rintro ⟨e, he, hname⟩
    obtain ⟨inside, heq⟩ := Array.getElem?_eq_some_iff.1 he
    exact ⟨inside, heq ▸ hname⟩
  · rintro ⟨inside, hname⟩
    exact ⟨t.entries[i], Array.getElem?_eq_getElem inside, hname⟩

/-- Two entries of one name would both stand at its only place. -/
theorem Indexed.nodup_names {t : Table} (h : t.Indexed) : t.names.Nodup := by
  unfold names List.Nodup
  rw [List.pairwise_iff_getElem]
  intro i j hi hj before same
  have hi' : i < t.entries.size := by simpa using hi
  have hj' : j < t.entries.size := by simpa using hj
  have earlier := (h.getElem?_index_iff t.entries[i].name i).2 ⟨hi', rfl⟩
  have later := (h.getElem?_index_iff t.entries[i].name j).2 ⟨hj', by simpa using same.symm⟩
  rw [earlier, Option.some.injEq] at later
  omega

theorem Indexed.contains_iff {t : Table} (h : t.Indexed) (name : String) :
    t.contains name ↔ name ∈ t.names := by
  unfold contains
  rw [h.mem_names, Std.HashMap.contains_eq_isSome_getElem?, Option.isSome_iff_exists]

/-! ## Adding a value -/

def Entry.more (value : String) (e : Entry) : Entry := { e with values := e.values.push value }

theorem append_of_some {t : Table} {name : String} {i : Nat} (h : t.index[name]? = some i)
    (value : String) : t.append name value =
      { t with entries := t.entries.modify i (Entry.more value),
               valueCount := t.valueCount + 1 } := by
  unfold append
  rw [h]
  rfl

theorem append_of_none {t : Table} {name : String} (h : t.index[name]? = none)
    (value : String) : t.append name value =
      { entries := t.entries.push { name, values := #[value] },
        index := t.index.insert name t.entries.size,
        valueCount := t.valueCount + 1 } := by
  unfold append
  rw [h]

theorem indexed_append {t : Table} (h : t.Indexed) (name value : String) :
    (t.append name value).Indexed := by
  intro m j
  cases hi : t.index[name]? with
  | some i =>
    rw [append_of_some hi]
    rw [h m j, Array.getElem?_modify]
    by_cases hij : i = j
    · subst hij
      cases he : t.entries[i]? with
      | none => simp
      | some e => simp [Entry.more]
    · simp [hij]
  | none =>
    rw [append_of_none hi]
    rw [Std.HashMap.getElem?_insert, Array.getElem?_push]
    by_cases hm : name = m
    · subst hm
      -- the new name stands in the new entry, and in none of the old ones
      have absent : ∀ e, t.entries[j]? = some e → e.name ≠ name := by
        intro e he hname
        have := (h name j).2 ⟨e, he, hname⟩
        rw [hi] at this
        cases this
      by_cases hj : j = t.entries.size
      · simp [hj]
      · simp only [BEq.rfl, if_true, Option.some.injEq, Ne.symm hj, if_neg hj, false_iff]
        rintro ⟨e, he, hname⟩
        exact absent e he hname
    · have hbeq : (name == m) = false := by simpa using hm
      rw [hbeq, if_neg Bool.false_ne_true, h m j]
      by_cases hj : j = t.entries.size
      · subst hj
        simp [hm]
      · simp [hj]

theorem names_append {t : Table} (h : t.Indexed) (name value : String) :
    (t.append name value).names = if name ∈ t.names then t.names else t.names ++ [name] := by
  cases hi : t.index[name]? with
  | some i =>
    have present : name ∈ t.names := h.mem_names.2 ⟨i, hi⟩
    rw [if_pos present, append_of_some hi]
    unfold names
    apply List.ext_getElem?
    intro j
    rw [List.getElem?_map, List.getElem?_map, Array.getElem?_toList, Array.getElem?_toList,
      Array.getElem?_modify]
    by_cases hij : i = j
    · subst hij
      cases t.entries[i]? <;> simp [Entry.more]
    · simp [hij]
  | none =>
    have absent : name ∉ t.names := by
      rw [h.mem_names, hi]
      simp
    rw [if_neg absent, append_of_none hi]
    simp [names]

theorem getAll?_append {t : Table} (h : t.Indexed) (name value m : String) :
    (t.append name value).getAll? m =
      if name = m then some ((t.getAll? name).getD [] ++ [value]) else t.getAll? m := by
  unfold getAll?
  cases hi : t.index[name]? with
  | some i =>
    obtain ⟨e, he, hname⟩ := (h name i).1 hi
    rw [append_of_some hi]
    by_cases hm : name = m
    · subst hm
      simp [hi, he, Array.getElem?_modify, Entry.more]
    · rw [if_neg hm]
      cases hj : t.index[m]? with
      | none => simp
      | some j =>
        have hij : i ≠ j := by
          rintro rfl
          obtain ⟨d, hd, hdm⟩ := (h m i).1 hj
          rw [he, Option.some.injEq] at hd
          subst hd
          exact hm (hname.symm.trans hdm)
        simp [Array.getElem?_modify, hij]
  | none =>
    rw [append_of_none hi]
    by_cases hm : name = m
    · subst hm
      simp
    · have hbeq : (name == m) = false := by simpa using hm
      rw [if_neg hm, Std.HashMap.getElem?_insert, hbeq, if_neg Bool.false_ne_true]
      cases hj : t.index[m]? with
      | none => rfl
      | some j =>
        obtain ⟨d, hd, -⟩ := (h m j).1 hj
        have hlt : j ≠ t.entries.size := by
          have := (Array.getElem?_eq_some_iff.1 hd).1
          omega
        simp [Array.getElem?_push, hlt]

/-! ## Consistency -/

/-- How many values some entries have in all. -/
def total (entries : List Entry) : Nat := (entries.map fun e => e.values.size).sum

theorem total_modify {entries : List Entry} {i : Nat} (inside : i < entries.length)
    (value : String) : total (entries.modify i (Entry.more value)) = total entries + 1 := by
  unfold total
  induction entries generalizing i with
  | nil => cases inside
  | cons e rest ih =>
    cases i with
    | zero =>
      simp [Entry.more]
      omega
    | succ i =>
      have inside' : i < rest.length := by simpa using inside
      rw [List.modify_succ_cons, List.map_cons, List.sum_cons, ih inside', List.map_cons,
        List.sum_cons, Nat.add_assoc]

/-- The parts of a table agree: the index is that of the entries, no entry is without values, and
the count is that of the values. -/
structure Consistent (t : Table) : Prop where
  indexed : t.Indexed
  filled : ∀ e ∈ t.entries, e.values ≠ #[]
  counted : t.valueCount = total t.entries.toList

theorem consistent_empty : Consistent {} where
  indexed := indexed_empty
  filled e he := by simp at he
  counted := rfl

/-- An added value keeps the parts in agreement. The place of a known name is needed to lie within
the entries: behind their end the value would be lost, and still be counted. -/
theorem Consistent.append {t : Table} (h : t.Consistent) (name value : String) :
    (t.append name value).Consistent := by
  have indexed := indexed_append h.indexed name value
  cases hi : t.index[name]? with
  | some i =>
    obtain ⟨inside, -⟩ := (h.indexed.getElem?_index_iff name i).1 hi
    rw [append_of_some hi] at indexed ⊢
    refine ⟨indexed, ?_, ?_⟩
    · intro e he
      obtain ⟨j, hj⟩ := Array.getElem?_of_mem he
      rw [Array.getElem?_modify] at hj
      split at hj
      · obtain ⟨old, -, rfl⟩ := Option.map_eq_some_iff.1 hj
        simp [Entry.more]
      · exact h.filled e (Array.mem_of_getElem? hj)
    · rw [Array.toList_modify, total_modify inside, h.counted]
  | none =>
    rw [append_of_none hi] at indexed ⊢
    refine ⟨indexed, ?_, ?_⟩
    · intro e he
      rcases Array.mem_push.1 he with old | rfl
      · exact h.filled e old
      · simp
    · rw [h.counted]
      simp [total]

/-! ## The table of some pairs -/

/-- The table holds exactly these pairs: every name once, in the order of first occurrence, and
under it all its values, in order. -/
structure Holds (t : Table) (pairs : List (String × String)) : Prop where
  indexed : t.Indexed
  names_eq : t.names = namesOf pairs
  getAll?_eq : ∀ name,
    t.getAll? name = if name ∈ namesOf pairs then some (valuesOf pairs name) else none
  valueCount_eq : t.valueCount = pairs.length

theorem holds_empty : Holds {} [] := by
  refine ⟨indexed_empty, rfl, fun name => ?_, rfl⟩
  simp [getAll?, namesOf]

/-- A value that is added goes behind all pairs. -/
theorem Holds.append {t : Table} {pairs : List (String × String)} (h : t.Holds pairs)
    (p : String × String) : (t.append p.1 p.2).Holds (pairs ++ [p]) := by
  refine ⟨indexed_append h.indexed _ _, ?_, fun m => ?_, ?_⟩
  · rw [names_append h.indexed, namesOf_snoc, h.names_eq]
  · rw [getAll?_append h.indexed, namesOf_snoc, valuesOf_snoc, h.getAll?_eq p.1, h.getAll?_eq m]
    by_cases hm : p.1 = m
    · subst hm
      by_cases hmem : p.1 ∈ namesOf pairs
      · simp [hmem]
      · simp [hmem, valuesOf_eq_nil hmem]
    · by_cases hmem : p.1 ∈ namesOf pairs
      · simp [hm, hmem]
      · simp [hm, Ne.symm hm, hmem]
  · rw [valueCount_append, h.valueCount_eq, List.length_append]
    rfl

theorem Holds.get?_eq {t : Table} {pairs : List (String × String)} (h : t.Holds pairs)
    (name : String) : t.get? name = (valuesOf pairs name).head? := by
  unfold get?
  rw [h.getAll?_eq]
  by_cases given : name ∈ namesOf pairs
  · rw [if_pos given]
    rfl
  · rw [if_neg given, valuesOf_eq_nil given]
    rfl

theorem Holds.contains_iff {t : Table} {pairs : List (String × String)} (h : t.Holds pairs)
    (name : String) : t.contains name ↔ ∃ value, (name, value) ∈ pairs := by
  rw [h.indexed.contains_iff, h.names_eq, mem_namesOf]

theorem ofPairs_snoc (pairs : List (String × String)) (p : String × String) :
    ofPairs (pairs ++ [p]) = (ofPairs pairs).append p.1 p.2 := by
  unfold ofPairs
  rw [List.foldl_append]
  rfl

theorem holds_ofPairs (pairs : List (String × String)) : (ofPairs pairs).Holds pairs := by
  induction pairs using List.reverseRecOn with
  | nil => exact holds_empty
  | append_singleton pairs p ih =>
    rw [ofPairs_snoc]
    exact ih.append p

/-- However many values are added, the parts of the table agree. -/
theorem consistent_ofPairs (pairs : List (String × String)) : (ofPairs pairs).Consistent := by
  induction pairs using List.reverseRecOn with
  | nil => exact consistent_empty
  | append_singleton pairs p ih =>
    rw [ofPairs_snoc]
    exact ih.append p.1 p.2

/-- The index, the entries and the count of a table never drift apart, whatever is added. A name
has a place exactly if it is the name of the entry there, so no place lies outside of the entries
and no name stands twice; no entry is without values; and the count is that of the values and that
of the additions. The table answers as the added pairs do: it lists their names in the order of
their first occurrence, and for each name its values in the order in which they came. -/
theorem the_index_and_the_entries_never_drift_apart (pairs : List (String × String)) :
    let t := ofPairs pairs
    (∀ name i, t.index[name]? = some i ↔
        ∃ inside : i < t.entries.size, t.entries[i].name = name) ∧
      t.names.Nodup ∧ (∀ e ∈ t.entries, e.values ≠ #[]) ∧
      t.valueCount = total t.entries.toList ∧ t.valueCount = pairs.length ∧
      t.names = namesOf pairs ∧
      ∀ name,
        t.getAll? name = (if name ∈ namesOf pairs then some (valuesOf pairs name) else none) ∧
          t.get? name = (valuesOf pairs name).head? ∧
          (t.contains name ↔ ∃ value, (name, value) ∈ pairs) := by
  intro t
  have consistent : t.Consistent := consistent_ofPairs pairs
  have holds : t.Holds pairs := holds_ofPairs pairs
  refine ⟨consistent.indexed.getElem?_index_iff, consistent.indexed.nodup_names,
    consistent.filled, consistent.counted, holds.valueCount_eq, holds.names_eq, fun name => ?_⟩
  exact ⟨holds.getAll?_eq name, holds.get?_eq name, holds.contains_iff name⟩

/-- A name that is given again keeps its place, with its new value behind the old one. -/
theorem a_name_given_again_keeps_its_place :
    let t := ofPairs [("a", "1"), ("b", "x"), ("a", "2")]
    t.names = ["a", "b"] ∧ t.valueCount = 3 ∧ t.getAll? "a" = some ["1", "2"] ∧
      t.get? "a" = some "1" ∧ t.getAll? "c" = none ∧
      ∃ e ∈ t.entries, e.name = "b" ∧ e.values ≠ #[] := by
  intro t
  obtain ⟨-, -, filled, -, count, names, answers⟩ :=
    the_index_and_the_entries_never_drift_apart [("a", "1"), ("b", "x"), ("a", "2")]
  have listed : t.names = ["a", "b"] := names.trans (by decide)
  have member : "b" ∈ t.names := by simp [listed]
  obtain ⟨e, he, hname⟩ := List.mem_map.1 member
  refine ⟨listed, count, (answers "a").1.trans (by decide), (answers "a").2.1.trans (by decide),
    (answers "c").1.trans (by decide), e, Array.mem_toList_iff.1 he, hname, ?_⟩
  exact filled e (Array.mem_toList_iff.1 he)

end Table

end WebRequest.Parameters
