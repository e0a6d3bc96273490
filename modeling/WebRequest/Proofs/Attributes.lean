-- The attributes over any use of them. Their names stand in the order in which they were last
-- newly bound, and each has the value that it was last given. Nothing keeps the bindings apart but
-- the way in which they are made, so what an operation does to the names comes first.
import Mathlib.Data.List.Nodup
import Mathlib.Data.List.Induction
import WebRequest.Attributes
import WebRequest.Proofs.Runs

namespace WebRequest.Attributes

/-! ## One operation on a store -/

theorem get?_mk_cons (binding : String × Value) (rest : List (String × Value)) (name : String) :
    get? ⟨binding :: rest⟩ name = if binding.1 = name then some binding.2 else get? ⟨rest⟩ name := by
  unfold get?
  by_cases h : binding.1 = name <;> simp [h]

theorem mem_names (a : Attributes) (name : String) : name ∈ a.names ↔ (a.get? name).isSome := by
  simp [names, get?]

theorem map_fst_replace (name : String) (value : Value) (bindings : List (String × Value)) :
    (replace name value bindings).map (·.1) = bindings.map (·.1) := by
  induction bindings with
  | nil => rfl
  | cons b rest ih =>
    unfold replace
    split
    · rfl
    · rw [List.map_cons, ih, List.map_cons]

theorem get?_replace {name : String} (value : Value) {bindings : List (String × Value)}
    (bound : (get? ⟨bindings⟩ name).isSome) (other : String) :
    get? ⟨replace name value bindings⟩ other =
      if other = name then some value else get? ⟨bindings⟩ other := by
  induction bindings with
  | nil => cases bound
  | cons b rest ih =>
    obtain ⟨n, v⟩ := b
    unfold replace
    by_cases first : n = name
    · subst first
      rw [if_pos rfl, get?_mk_cons, get?_mk_cons]
      by_cases same : other = n <;> simp [same, eq_comm]
    · rw [get?_mk_cons, if_neg first] at bound
      rw [if_neg first, get?_mk_cons, get?_mk_cons, ih bound]
      by_cases same : n = other
      · subst same
        simp [first]
      · simp [same]

theorem get?_insert (a : Attributes) (name : String) (value : Value) (other : String) :
    (a.insert name value).get? other = if other = name then some value else a.get? other := by
  unfold insert
  split
  · next bound => exact get?_replace value bound other
  · next unbound =>
    have none_ : a.get? name = none := by simpa using unbound
    unfold get? at none_ ⊢
    rw [List.find?_append]
    by_cases same : other = name
    · subst same
      simp [Option.map_eq_none_iff.1 none_]
    · simp [same, Ne.symm same]

/-- A name that is not bound is added at the end. -/
theorem names_insert (a : Attributes) (name : String) (value : Value) :
    (a.insert name value).names = if name ∈ a.names then a.names else a.names ++ [name] := by
  unfold insert
  by_cases bound : (a.get? name).isSome
  · rw [if_pos bound, if_pos ((mem_names a name).2 bound)]
    exact map_fst_replace name value a.bindings
  · rw [if_neg bound, if_neg (mt (mem_names a name).1 bound)]
    simp [names]

theorem names_erase (a : Attributes) (name : String) :
    (a.erase name).names = a.names.erase name := by
  obtain ⟨bindings⟩ := a
  simp only [names, erase, take]
  induction bindings with
  | nil => rfl
  | cons b rest ih =>
    obtain ⟨n, v⟩ := b
    unfold extract
    by_cases first : n = name
    · simp [first]
    · rw [if_neg first, List.map_cons, List.map_cons, List.erase_cons_tail (by simpa using first),
        ih]

theorem get?_erase_of_ne (a : Attributes) {name other : String} (h : other ≠ name) :
    (a.erase name).get? other = a.get? other := by
  obtain ⟨bindings⟩ := a
  simp only [erase, take]
  induction bindings with
  | nil => rfl
  | cons b rest ih =>
    obtain ⟨n, v⟩ := b
    unfold extract
    by_cases first : n = name
    · rw [if_pos first, get?_mk_cons, if_neg (first ▸ h.symm)]
    · rw [if_neg first, get?_mk_cons, get?_mk_cons, ih]

/-- The name is gone only because it was bound once: an erasure stops at the first binding. -/
theorem get?_erase {a : Attributes} (distinct : a.names.Nodup) (name other : String) :
    (a.erase name).get? other = if other = name then none else a.get? other := by
  split
  · next same =>
    have gone : other ∉ (a.erase name).names := by
      rw [names_erase, same]
      exact distinct.not_mem_erase
    rw [mem_names] at gone
    simpa using gone
  · next different => exact get?_erase_of_ne a different

/-! ## Uses -/

/-- Something done to a store or to a snapshot of its names. -/
inductive Operation where
  | set (name : String) (value : Option Value)
  | insert (name : String) (value : Value)
  | take (name : String)
  | clear
  /-- Takes a snapshot of the names. -/
  | list
  /-- Draws a name from the snapshot with the number. -/
  | next (snapshot : Nat)

inductive Answer where
  | done
  | value (value : Option Value)
  | snapshot (number : Nat)
  | name (name : Option String)

/-- A store, and what is left of the snapshots of its names. -/
structure InUse where
  store : Attributes := .empty
  snapshots : List (List String) := []

def perform (u : InUse) : Operation → Outcome InUse Answer
  | .set name value => { answer := .done, state := { u with store := u.store.set name value } }
  | .insert name value =>
    { answer := .done, state := { u with store := u.store.insert name value } }
  | .take name =>
    let (value, store) := u.store.take name
    { answer := .value value, state := { u with store } }
  | .clear => { answer := .done, state := { u with store := .empty } }
  | .list =>
    { answer := .snapshot u.snapshots.length,
      state := { u with snapshots := u.snapshots ++ [u.store.names] } }
  | .next snapshot =>
    { answer := .name (u.snapshots[snapshot]?.bind List.head?),
      state := { u with snapshots := u.snapshots.modify snapshot List.tail } }

/-- A moment in the use of a store. -/
abbrev Moment := Runs.Moment perform

/-- The store in use after some operations. -/
abbrev after (u : InUse) (ops : List Operation) : InUse := Runs.after perform u ops

/-- The moments of a use, in order. -/
abbrev history (u : InUse) (ops : List Operation) : List Moment := Runs.history perform u ops

/-! ## What counts of a use -/

/-- The name that an operation is about. -/
def Operation.subject? : Operation → Option String
  | .set name _ => some name
  | .insert name _ => some name
  | .take name => some name
  | _ => none

/-- What an operation makes of the value of a name, if it touches it. -/
def Operation.leaves? (name : String) : Operation → Option (Option Value)
  | .set n value => if n = name then some value else none
  | .insert n value => if n = name then some (some value) else none
  | .take n => if n = name then some none else none
  | .clear => some none
  | _ => none

/-- The value that a name was given last, if nothing has taken it away since. -/
def lastValue (ops : List Operation) (name : String) : Option Value :=
  (ops.filterMap (Operation.leaves? name)).getLast?.join

/-- A name was newly bound by the operation at a place, and has been bound since. -/
structure BoundSince (ops : List Operation) (name : String) (place : Nat) : Prop where
  within : place < ops.length
  unbound : lastValue (ops.take place) name = none
  since : ∀ n, place < n → n ≤ ops.length → (lastValue (ops.take n) name).isSome

/-- The names that were drawn from a snapshot. -/
def drawn (snapshot : Nat) (moments : List Moment) : List String :=
  moments.filterMap fun m =>
    match m.event, m.answer with
    | .next number, .name name => if number = snapshot then name else none
    | _, _ => none

theorem lastValue_snoc (ops : List Operation) (op : Operation) (name : String) :
    lastValue (ops ++ [op]) name = (op.leaves? name).getD (lastValue ops name) := by
  unfold lastValue
  rw [List.filterMap_append, List.getLast?_append]
  cases h : op.leaves? name <;> simp [h]

/-- A name that stays bound keeps its place. -/
theorem BoundSince.snoc {ops : List Operation} {op : Operation} {name : String} {place : Nat}
    (h : BoundSince ops name place) (still : (lastValue (ops ++ [op]) name).isSome) :
    BoundSince (ops ++ [op]) name place where
  within := by
    rw [List.length_append]
    exact Nat.lt_add_right _ h.within
  unbound := by
    rw [List.take_append_of_le_length (Nat.le_of_lt h.within)]
    exact h.unbound
  since n after within := by
    rw [List.length_append, List.length_singleton] at within
    rcases Nat.lt_or_eq_of_le within with earlier | rfl
    · rw [List.take_append_of_le_length (Nat.le_of_lt_succ earlier)]
      exact h.since n after (Nat.le_of_lt_succ earlier)
    · rwa [List.take_of_length_le (by simp)]

theorem boundSince_of_new {ops : List Operation} {op : Operation} {name : String}
    (before : lastValue ops name = none) (now : (lastValue (ops ++ [op]) name).isSome) :
    BoundSince (ops ++ [op]) name ops.length where
  within := by simp
  unbound := by rwa [List.take_left]
  since n after within := by
    have all : (ops ++ [op]).length ≤ n := by
      rw [List.length_append]
      exact after
    rwa [List.take_of_length_le all]

theorem exists_boundSince {ops : List Operation} {name : String}
    (h : (lastValue ops name).isSome) : ∃ place, BoundSince ops name place := by
  induction ops using List.reverseRecOn with
  | nil => cases h
  | append_singleton ops op ih =>
    cases before : lastValue ops name with
    | none => exact ⟨_, boundSince_of_new before h⟩
    | some value =>
      obtain ⟨place, bound⟩ := ih (before ▸ rfl)
      exact ⟨place, bound.snoc h⟩

/-! ## Changes -/

/-- What an operation can do to a store: it binds a name, unbinds one, empties the store, or leaves
it alone. -/
inductive Change (a : Attributes) (op : Operation) : Attributes → Prop
  | bound (name : String) (value : Value) (about : op.subject? = some name)
      (leaves : ∀ n, op.leaves? n = if name = n then some (some value) else none) :
      Change a op (a.insert name value)
  | unbound (name : String) (about : op.subject? = some name)
      (leaves : ∀ n, op.leaves? n = if name = n then some none else none) :
      Change a op (a.erase name)
  | cleared (about : op.subject? = none) (leaves : ∀ n, op.leaves? n = some none) :
      Change a op .empty
  | kept (about : op.subject? = none) (leaves : ∀ n, op.leaves? n = none) : Change a op a

theorem changed_perform (u : InUse) (op : Operation) :
    Change u.store op (perform u op).state.store := by
  cases op with
  | set name value =>
    cases value with
    | none => exact .unbound name rfl fun _ => rfl
    | some value => exact .bound name value rfl fun _ => rfl
  | insert name value => exact .bound name value rfl fun _ => rfl
  | take name => exact .unbound name rfl fun _ => rfl
  | clear => exact .cleared rfl fun _ => rfl
  | list => exact .kept rfl fun _ => rfl
  | next snapshot => exact .kept rfl fun _ => rfl

variable {a a' : Attributes} {op : Operation}

/-- A change makes of the value of each name what the operation leaves. -/
theorem Change.get? (changed : Change a op a') (distinct : a.names.Nodup) (name : String) :
    a'.get? name = (op.leaves? name).getD (a.get? name) := by
  cases changed with
  | bound n value _ leaves =>
    rw [get?_insert, leaves]
    by_cases same : name = n <;> simp [same, eq_comm]
  | unbound n _ leaves =>
    rw [get?_erase distinct, leaves]
    by_cases same : name = n <;> simp [same, eq_comm]
  | cleared _ leaves =>
    rw [leaves]
    rfl
  | kept _ leaves =>
    rw [leaves]
    rfl

/-- A change takes some names away, or adds a new one at the end. -/
theorem Change.names (changed : Change a op a') :
    a'.names.Sublist a.names ∨ ∃ name, name ∉ a.names ∧ a'.names = a.names ++ [name] := by
  cases changed with
  | bound name value _ _ =>
    rw [names_insert]
    split
    · exact .inl (.refl _)
    · next new => exact .inr ⟨name, new, rfl⟩
  | unbound name _ _ =>
    rw [names_erase]
    exact .inl List.erase_sublist
  | cleared _ _ => exact .inl (List.nil_sublist _)
  | kept _ _ => exact .inl (.refl _)

/-- An operation on a name leaves the other names alone: their values, and their order. -/
theorem Change.elsewhere (changed : Change a op a') (distinct : a.names.Nodup) {name : String}
    (about : op.subject? = some name) :
    (∀ other, other ≠ name → a'.get? other = a.get? other) ∧
      a'.names.filter (· ≠ name) = a.names.filter (· ≠ name) := by
  cases changed with
  | bound n value about' _ =>
    obtain rfl := Option.some.inj (about'.symm.trans about)
    refine ⟨fun other different => by rw [get?_insert, if_neg different], ?_⟩
    rw [names_insert]
    split
    · rfl
    · simp
  | unbound n about' _ =>
    obtain rfl := Option.some.inj (about'.symm.trans about)
    refine ⟨fun other => get?_erase_of_ne a, ?_⟩
    rw [names_erase, distinct.erase_eq_filter, List.filter_filter]
    exact List.filter_congr fun other _ => by by_cases same : other = n <;> simp [same]
  | cleared about' _ => cases about'.symm.trans about
  | kept about' _ => exact ⟨fun _ _ => rfl, rfl⟩

/-! ## A use of a store -/

/-- A store as some operations leave it: an ordered map. -/
structure Follows (ops : List Operation) (a : Attributes) : Prop where
  distinct : a.names.Nodup
  value : ∀ name, a.get? name = lastValue ops name
  bound : ∀ name, name ∈ a.names ↔ (lastValue ops name).isSome
  /-- Of two names, the first is the one that was newly bound first. -/
  ordered : a.names.Pairwise fun first second =>
    ∃ i j, BoundSince ops first i ∧ BoundSince ops second j ∧ i < j

theorem Follows.nil : Follows [] .empty where
  distinct := List.nodup_nil
  value _ := rfl
  bound name := by simp [names, empty, lastValue]
  ordered := List.Pairwise.nil

theorem Follows.snoc {ops : List Operation} (h : Follows ops a) (changed : Change a op a') :
    Follows (ops ++ [op]) a' := by
  have value (name : String) : a'.get? name = lastValue (ops ++ [op]) name := by
    rw [changed.get? h.distinct, h.value, lastValue_snoc]
  have bound (name : String) : name ∈ a'.names ↔ (lastValue (ops ++ [op]) name).isSome := by
    rw [mem_names, value]
  -- The names that stay bound keep their order, because they keep their places.
  have kept {l : List String} (sub : l.Sublist a.names)
      (still : ∀ name ∈ l, (lastValue (ops ++ [op]) name).isSome) :
      l.Pairwise fun first second =>
        ∃ i j, BoundSince (ops ++ [op]) first i ∧ BoundSince (ops ++ [op]) second j ∧ i < j := by
    refine (h.ordered.sublist sub).imp_of_mem ?_
    rintro m n hm hn ⟨i, j, mi, nj, lt⟩
    exact ⟨i, j, mi.snoc (still m hm), nj.snoc (still n hn), lt⟩
  rcases changed.names with sub | ⟨new, fresh, grown⟩
  · exact
      { distinct := h.distinct.sublist sub
        value
        bound
        ordered := kept sub fun name hn => (bound name).1 hn }
  · have still (name : String) (hn : name ∈ a.names) :
        (lastValue (ops ++ [op]) name).isSome := by
      rw [← bound, grown]
      exact List.mem_append_left _ hn
    have last : BoundSince (ops ++ [op]) new ops.length := by
      refine boundSince_of_new (Option.not_isSome_iff_eq_none.1 (mt (h.bound new).2 fresh)) ?_
      rw [← bound, grown]
      exact List.mem_append_right _ (List.mem_singleton_self new)
    refine { distinct := ?_, value, bound, ordered := ?_ }
    · rw [grown, ← List.concat_eq_append]
      exact h.distinct.concat fresh
    · rw [grown, List.pairwise_append]
      refine ⟨kept (.refl _) still, List.pairwise_singleton _ new, ?_⟩
      intro name hn new' hnew
      obtain rfl := List.mem_singleton.1 hnew
      obtain ⟨place, since⟩ := exists_boundSince ((h.bound name).1 hn)
      exact ⟨place, ops.length, since.snoc (still name hn), last, since.within⟩

theorem follows_after (ops : List Operation) : Follows ops (after {} ops).store := by
  induction ops using List.reverseRecOn with
  | nil => exact .nil
  | append_singleton ops op ih =>
    rw [after, Runs.after_snoc]
    exact ih.snoc (changed_perform _ op)

/-! ## Snapshots -/

theorem drawn_cons (snapshot : Nat) (m : Moment) (moments : List Moment) :
    drawn snapshot (m :: moments) = drawn snapshot [m] ++ drawn snapshot moments :=
  List.filterMap_append (l := [m])

/-- Only drawing a name from a snapshot changes the snapshot, and it takes the first name. -/
theorem left_perform {u : InUse} {snapshot : Nat} {left : List String}
    (h : u.snapshots[snapshot]? = some left) (op : Operation) :
    ∃ rest, (perform u op).state.snapshots[snapshot]? = some rest ∧
      drawn snapshot [⟨u, op⟩] ++ rest = left := by
  cases op with
  | next number =>
    by_cases same : number = snapshot
    · subst same
      refine ⟨left.tail, by simp [perform, h], ?_⟩
      cases left <;> simp [drawn, Runs.Moment.answer, Runs.Moment.outcome, perform, h]
    · refine ⟨left, by simp [perform, h, same], ?_⟩
      simp [drawn, Runs.Moment.answer, Runs.Moment.outcome, perform, same]
  | list =>
    refine ⟨left, ?_, rfl⟩
    obtain ⟨given, -⟩ := List.getElem?_eq_some_iff.1 h
    rw [← h]
    exact List.getElem?_append_left given
  | _ => exact ⟨left, h, rfl⟩

/-- What is drawn from a snapshot and what is left of it are the names that it had. -/
theorem left_after {u : InUse} {snapshot : Nat} {left : List String}
    (h : u.snapshots[snapshot]? = some left) (ops : List Operation) :
    ∃ rest, (after u ops).snapshots[snapshot]? = some rest ∧
      drawn snapshot (history u ops) ++ rest = left := by
  induction ops generalizing u left with
  | nil => exact ⟨left, h, rfl⟩
  | cons op ops ih =>
    obtain ⟨middle, stands, first⟩ := left_perform h op
    obtain ⟨rest, after_, more⟩ := ih stands
    refine ⟨rest, after_, ?_⟩
    rw [history, Runs.history_cons, drawn_cons, List.append_assoc, ← history, more, first]

/-- A snapshot gives the names that the store had when it was taken, whatever is done later. -/
theorem left_of_taken (earlier later : List Operation) :
    ∃ left, (after {} (earlier ++ .list :: later)).snapshots[(after {} earlier).snapshots.length]? =
        some left ∧
      drawn (after {} earlier).snapshots.length
        (history (after {} (earlier ++ [.list])) later) ++ left = (after {} earlier).store.names := by
  have split : earlier ++ .list :: later = (earlier ++ [.list]) ++ later := by simp
  rw [split, after, Runs.after_append]
  refine left_after ?_ later
  rw [Runs.after_snoc]
  exact List.getElem?_concat_length

/-! ## The store as a map -/

/-- A store of attributes is an ordered map, after any operations: its names are distinct, each has
the value that it was given last, and they stand in the order in which they were newly bound. A
removal answers the value that it removes, and binding a name to nothing is a removal. What is done
to one name changes neither the values of the others nor their order, and a snapshot of the names
keeps them as they were when it was taken. -/
theorem a_store_is_an_ordered_map (ops : List Operation) :
    let u := after {} ops
    Follows ops u.store ∧
      (∀ name, (perform u (.take name)).answer = .value (u.store.get? name) ∧
        (perform u (.set name none)).state = (perform u (.take name)).state) ∧
      (∀ op name, op.subject? = some name →
        (∀ other, other ≠ name → (perform u op).state.store.get? other = u.store.get? other) ∧
          (perform u op).state.store.names.filter (· ≠ name) =
            u.store.names.filter (· ≠ name)) ∧
      ∀ earlier later, ops = earlier ++ .list :: later →
        let taken := after {} earlier
        ∃ left, u.snapshots[taken.snapshots.length]? = some left ∧
          drawn taken.snapshots.length (history (after {} (earlier ++ [.list])) later) ++ left =
            taken.store.names := by
  intro u
  have follows : Follows ops u.store := follows_after ops
  refine ⟨follows, ?_, fun op _ => (changed_perform u op).elsewhere follows.distinct, ?_⟩
  · intro name
    exact ⟨congrArg Answer.value (fst_take u.store name), rfl⟩
  · rintro earlier later rfl
    exact left_of_taken earlier later

/-- Bound again after its removal, a name stands last; the snapshot taken before tells the old
order. -/
theorem a_name_bound_again_stands_last :
    let earlier := [.insert "a" .unit, .insert "b" .unit]
    let later := [.set "a" none, .set "b" (some (.flag true)), .insert "a" .unit, .next 0]
    let u := after {} (earlier ++ .list :: later)
    Follows (earlier ++ .list :: later) u.store ∧ u.store.names = ["b", "a"] ∧
      (perform u (.take "a")).state.store.get? "b" = some (.flag true) ∧
      ∃ left, u.snapshots[0]? = some left ∧
        drawn 0 (history (after {} (earlier ++ [.list])) later) ++ left = ["a", "b"] := by
  intro earlier later u
  obtain ⟨follows, -, elsewhere, snapshots⟩ :=
    a_store_is_an_ordered_map (earlier ++ .list :: later)
  refine ⟨follows, by decide +kernel, ?_, snapshots earlier later rfl⟩
  exact ((elsewhere (.take "a") "a" rfl).1 "b" (by decide)).trans (by decide +kernel)

end WebRequest.Attributes
