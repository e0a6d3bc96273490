-- Runs of a state under events, whatever the state and the events are. A run keeps its moments:
-- what happened, and the state that it happened in. What every event keeps, a run keeps.
import Mathlib.Data.List.Induction
import WebRequest.Effect

namespace WebRequest.Runs

variable {σ ε α : Type}

/-- An event and the state that it met. -/
structure Moment (perform : σ → ε → Outcome σ α) where
  before : σ
  event : ε

namespace Moment

variable {perform : σ → ε → Outcome σ α}

def outcome (m : Moment perform) : Outcome σ α := perform m.before m.event

def answer (m : Moment perform) : α := m.outcome.answer

/-- The state after the event. -/
def next (m : Moment perform) : σ := m.outcome.state

def effects (m : Moment perform) : List Effect := m.outcome.effects

end Moment

variable (perform : σ → ε → Outcome σ α)

/-- The state after some events. -/
def after (s : σ) (events : List ε) : σ := events.foldl (fun s e => (perform s e).state) s

/-- The moments of a run, in order. -/
def history (s : σ) : List ε → List (Moment perform)
  | [] => []
  | e :: es => ⟨s, e⟩ :: history (perform s e).state es

@[simp] theorem after_nil (s : σ) : after perform s [] = s := rfl

@[simp] theorem after_cons (s : σ) (e : ε) (es : List ε) :
    after perform s (e :: es) = after perform (perform s e).state es := rfl

theorem after_append (s : σ) (es fs : List ε) :
    after perform s (es ++ fs) = after perform (after perform s es) fs := List.foldl_append

theorem after_snoc (s : σ) (es : List ε) (e : ε) :
    after perform s (es ++ [e]) = (perform (after perform s es) e).state := by
  rw [after_append, after_cons, after_nil]

@[simp] theorem history_nil (s : σ) : history perform s [] = [] := rfl

@[simp] theorem history_cons (s : σ) (e : ε) (es : List ε) :
    history perform s (e :: es) = ⟨s, e⟩ :: history perform (perform s e).state es := rfl

theorem history_append (s : σ) (es fs : List ε) :
    history perform s (es ++ fs) =
      history perform s es ++ history perform (after perform s es) fs := by
  induction es generalizing s with
  | nil => rfl
  | cons e es ih => rw [List.cons_append, history_cons, ih, history_cons, after_cons]; rfl

theorem history_snoc (s : σ) (es : List ε) (e : ε) :
    history perform s (es ++ [e]) = history perform s es ++ [⟨after perform s es, e⟩] := by
  rw [history_append, history_cons, history_nil]

theorem map_event_history (s : σ) (es : List ε) : (history perform s es).map (·.event) = es := by
  induction es generalizing s with
  | nil => rfl
  | cons e es ih => rw [history_cons, List.map_cons, ih]

variable {perform}

theorem exists_of_history_eq {s : σ} {events : List ε} {earlier later : List (Moment perform)}
    {m : Moment perform} (h : history perform s events = earlier ++ m :: later) :
    ∃ es fs, events = es ++ m.event :: fs ∧ earlier = history perform s es ∧
      m.before = after perform s es ∧ later = history perform m.next fs := by
  induction earlier generalizing s events with
  | nil =>
    cases events with
    | nil => cases h
    | cons e es =>
      rw [history_cons, List.nil_append, List.cons.injEq] at h
      obtain ⟨rfl, rfl⟩ := h
      exact ⟨[], es, rfl, rfl, rfl, rfl⟩
  | cons b earlier ih =>
    cases events with
    | nil => cases h
    | cons e es =>
      rw [history_cons, List.cons_append, List.cons.injEq] at h
      obtain ⟨fs, gs, rfl, rfl, before, rest⟩ := ih h.2
      refine ⟨e :: fs, gs, rfl, ?_, before, rest⟩
      rw [history_cons, ← h.1]

theorem exists_of_mem_history {s : σ} {events : List ε} {m : Moment perform}
    (h : m ∈ history perform s events) :
    ∃ es fs, events = es ++ m.event :: fs ∧ m.before = after perform s es := by
  obtain ⟨earlier, later, heq⟩ := List.append_of_mem h
  obtain ⟨es, fs, hevents, -, hbefore, -⟩ := exists_of_history_eq heq
  exact ⟨es, fs, hevents, hbefore⟩

/-- What holds at the start and is kept by every event holds after every run. -/
theorem after_induction {P : σ → Prop} {s : σ} (start : P s)
    (step : ∀ s e, P s → P (perform s e).state) (events : List ε) : P (after perform s events) := by
  induction events using List.reverseRecOn with
  | nil => exact start
  | append_singleton es e ih =>
    rw [after_snoc]
    exact step _ e ih

/-- What every event keeps held before every moment of a run, and holds after it. -/
theorem moment_induction {P : σ → Prop} {s : σ} (start : P s)
    (step : ∀ s e, P s → P (perform s e).state) {events : List ε} {m : Moment perform}
    (h : m ∈ history perform s events) : P m.before ∧ P m.next := by
  obtain ⟨es, -, -, hbefore⟩ := exists_of_mem_history h
  have held : P m.before := by
    rw [hbefore]
    exact after_induction start step es
  exact ⟨held, step _ _ held⟩

/-- What relates two states, and is kept by the same event on both, relates them after the same
run. -/
theorem after_induction₂ {R : σ → σ → Prop} {s t : σ} (start : R s t) {events : List ε}
    (step : ∀ s t, ∀ e ∈ events, R s t → R (perform s e).state (perform t e).state) :
    R (after perform s events) (after perform t events) := by
  induction events generalizing s t with
  | nil => exact start
  | cons e es ih =>
    refine ih (step s t e List.mem_cons_self start) ?_
    exact fun s t e' he' => step s t e' (List.mem_cons_of_mem e he')

/-- Events that change nothing can be left out of a run. -/
theorem after_filter {P : σ → Prop} {keep : ε → Bool} (step : ∀ s e, P s → P (perform s e).state)
    (idle : ∀ s e, P s → keep e = false → (perform s e).state = s) {s : σ} (start : P s)
    (events : List ε) :
    after perform s events = after perform s (events.filter keep) ∧
      (history perform s events).filter (fun m => keep m.event) =
        history perform s (events.filter keep) := by
  induction events generalizing s with
  | nil => exact ⟨rfl, rfl⟩
  | cons e es ih =>
    obtain ⟨same, told⟩ := ih (step s e start)
    cases kept : keep e with
    | false =>
      rw [idle s e start kept] at same told
      have first : (e :: es).filter keep = es.filter keep :=
        List.filter_cons_of_neg (by simp [kept])
      rw [first, after_cons, history_cons, idle s e start kept]
      exact ⟨same, (List.filter_cons_of_neg (by simp [kept])).trans told⟩
    | true =>
      have first : (e :: es).filter keep = e :: es.filter keep := List.filter_cons_of_pos kept
      rw [first, after_cons, after_cons, history_cons, history_cons]
      exact ⟨same, (List.filter_cons_of_pos (by simp [kept])).trans (congrArg _ told)⟩

/-- A count that some moments raise is positive once there was one of them. -/
theorem pos_after_iff {count : σ → Nat} {Counts : Moment perform → Prop}
    (step : ∀ m : Moment perform, count m.next = count m.before + 1 ∧ Counts m ∨
      count m.next = count m.before ∧ ¬ Counts m) (s : σ) (events : List ε) :
    0 < count (after perform s events) ↔
      0 < count s ∨ ∃ m ∈ history perform s events, Counts m := by
  induction events using List.reverseRecOn with
  | nil => simp
  | append_singleton es e ih =>
    have last := step ⟨after perform s es, e⟩
    rw [after_snoc, history_snoc]
    simp only [List.mem_append, List.mem_singleton, or_and_right, exists_or, exists_eq_left]
    rw [← or_assoc, ← ih]
    rcases last with ⟨more, counts⟩ | ⟨same, none_⟩
    · refine iff_of_true ?_ (.inr counts)
      exact Nat.lt_of_lt_of_eq (Nat.succ_pos _) more.symm
    · have still : count (perform (after perform s es) e).state = count (after perform s es) :=
        same
      rw [still]
      exact ⟨.inl, fun h => h.resolve_right none_⟩

/-- What every event takes from a budget, a run takes from it. -/
theorem length_flatMap_le {β : Type} {cost : Moment perform → List β} {budget : σ → Nat}
    (step : ∀ m : Moment perform, (cost m).length + budget m.next ≤ budget m.before) (s : σ)
    (events : List ε) : ((history perform s events).flatMap cost).length ≤ budget s := by
  induction events generalizing s with
  | nil => exact Nat.zero_le _
  | cons e es ih =>
    have first : (cost ⟨s, e⟩).length + budget (perform s e).state ≤ budget s := step ⟨s, e⟩
    have rest := ih (perform s e).state
    rw [history_cons, List.flatMap_cons, List.length_append]
    omega

end WebRequest.Runs
