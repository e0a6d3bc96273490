-- Waits on the spans of a request. Between any two operations the clock may go on, a wait may
-- begin, a waiter may look for the resumption, and one whose deadline has passed may tell the
-- cycle. The waits run beside each other, each on the span that it was begun for.
import WebRequest.Proofs.Suspension.Resumption

namespace WebRequest.Suspension

open Async

/-! ## Scenes -/

/-- A wait that has begun. -/
structure Wait where
  /-- The time at which it began. -/
  since : Nat
  /-- The limit that was in force then; zero is none. -/
  limit : Nat
  vigil : Vigil

/-- A span that was taken, and the wait on it once that has begun. -/
structure Attended where
  span : Span
  wait : Option Wait := none

/-- A request, the time, and all spans that were taken, in order. -/
structure Scene where
  request : Request
  time : Nat := 0
  spans : List Attended := []

/-- What can happen next. Spans are given by their number. -/
inductive Step where
  | operate (op : Operation)
  | pass (ms : Nat)
  /-- The wait on a span begins. -/
  | resume (i : Nat)
  /-- A waiter looks for the resumption. -/
  | look (i : Nat)
  /-- A waiter whose deadline has passed lets the time of the cycle run out. -/
  | expire (i : Nat)

/-- A wait on a span that begins at a time. -/
def Wait.start (r : Request) (time : Nat) (span : Span) : Wait where
  since := time
  limit := r.timeLimit span
  vigil := .start (r.timeLimit span) time

def Wait.turn (f : Vigil → Vigil) (w : Wait) : Wait := { w with vigil := f w.vigil }

@[simp] theorem Wait.turn_vigil (f : Vigil → Vigil) (w : Wait) :
    (w.turn f).vigil = f w.vigil := rfl

theorem Wait.turn_eq_self {f : Vigil → Vigil} {w : Wait} (h : f w.vigil = w.vigil) :
    w.turn f = w := by
  rw [Wait.turn, h]

namespace Attended

def isLate (a : Attended) : Bool := a.wait.any fun w => w.vigil = .late

/-- Begins the wait, unless it has begun. -/
def begin (r : Request) (time : Nat) (a : Attended) : Attended :=
  { a with wait := a.wait.getD (.start r time a.span) }

/-- Turns the wait, if it has begun. -/
def turn (f : Vigil → Vigil) (a : Attended) : Attended :=
  { a with wait := a.wait.map (.turn f) }

end Attended

namespace Scene

/-- Changes what is known of the span with a number. -/
def attend (s : Scene) (i : Nat) (f : Attended → Attended) : Scene :=
  { s with spans := s.spans.modify i f }

/-- The span that an answer adds. -/
def added : Answer → List Attended
  | .span span => [{ span }]
  | _ => []

/-- The span with a number, if the deadline of the wait on it has passed. -/
def lateSpan? (s : Scene) (i : Nat) : Option Span :=
  (s.spans[i]?.filter Attended.isLate).map (·.span)

def step (s : Scene) : Step → Scene
  | .operate op =>
    let o := perform s.request (.operation op)
    { s with request := o.state, spans := s.spans ++ added o.answer }
  | .pass ms => { s with time := s.time + ms }
  | .resume i => s.attend i (·.begin s.request s.time)
  | .look i => s.attend i fun a => a.turn (·.look (s.request.arrived? a.span) s.time)
  | .expire i =>
    match s.lateSpan? i with
    | some span =>
      let o := s.request.expire span
      { s.attend i (·.turn (·.settle o.answer s.time)) with request := o.state }
    | none => s

def run (s : Scene) (steps : List Step) : Scene := steps.foldl step s

/-- What a step does to the request. -/
def event? (s : Scene) : Step → Option Event
  | .operate op => some (.operation op)
  | .expire i => (s.lateSpan? i).map fun span => .expiry span.context
  | _ => none

/-- What a run does to the request, in order. -/
def events (s : Scene) : List Step → List Event
  | [] => []
  | st :: steps => (s.event? st).toList ++ (s.step st).events steps

def moments (s : Scene) (steps : List Step) : List Moment := history s.request (s.events steps)

/-! ## The request in a scene -/

@[simp] theorem run_nil (s : Scene) : s.run [] = s := rfl

theorem run_append (s : Scene) (steps more : List Step) :
    s.run (steps ++ more) = (s.run steps).run more := List.foldl_append

theorem run_snoc (s : Scene) (steps : List Step) (st : Step) :
    s.run (steps ++ [st]) = (s.run steps).step st := run_append s steps [st]

theorem events_snoc (s : Scene) (steps : List Step) (st : Step) :
    s.events (steps ++ [st]) = s.events steps ++ ((s.run steps).event? st).toList := by
  induction steps generalizing s with
  | nil => simp [events]
  | cons first steps ih =>
    simp only [List.cons_append, events, ih, List.append_assoc]
    rfl

theorem expire_eq (r : Request) (span : Span) :
    (r.expire span).state = (perform r (.expiry span.context)).state ∧
      ((r.expire span).answer = true ↔
        (perform r (.expiry span.context)).answer = .expired true) := by
  simp only [Request.expire, perform, onHandle, Request.callCycle, Lifecycle.call]
  cases r.lifecycle.cycle? span.context with
  | none => simp
  | some c => simp [Outcome.within, Outcome.map]

theorem request_step (s : Scene) (st : Step) :
    (s.step st).request = after s.request (s.event? st).toList := by
  cases st with
  | operate op => rfl
  | pass ms => rfl
  | resume i => rfl
  | look i => rfl
  | expire i =>
    simp only [step, event?]
    cases s.lateSpan? i with
    | none => rfl
    | some span => exact (expire_eq s.request span).1

/-- The request of a scene goes through a run of events like any other. -/
theorem request_run (s : Scene) (steps : List Step) :
    (s.run steps).request = after s.request (s.events steps) := by
  induction steps using List.reverseRecOn with
  | nil => rfl
  | append_singleton steps st ih =>
    rw [run_snoc, request_step, ih, events_snoc]
    exact (Runs.after_append perform s.request _ _).symm

theorem moments_snoc (s : Scene) (steps : List Step) (st : Step) :
    s.moments (steps ++ [st]) =
      s.moments steps ++ history (s.run steps).request ((s.run steps).event? st).toList := by
  rw [request_run, moments, events_snoc]
  exact Runs.history_append perform s.request _ _

theorem time_step_expire (s : Scene) (i : Nat) : (s.step (.expire i)).time = s.time := by
  simp only [step]
  split <;> rfl

theorem time_step_le (s : Scene) (st : Step) : s.time ≤ (s.step st).time := by
  cases st with
  | pass ms => exact Nat.le_add_right _ _
  | expire i => exact Nat.le_of_eq (time_step_expire s i).symm
  | _ => exact Nat.le_refl _

end Scene

/-! ## What a step does to one span -/

/-- What a step does to the span with the number `i` and to the wait on it. -/
inductive Turned (s : Scene) (i : Nat) : Step → Attended → Attended → Prop
  | kept (st : Step) (a : Attended) : Turned s i st a a
  | begun {a : Attended} (fresh : a.wait = none) :
      Turned s i (.resume i) a { a with wait := some (.start s.request s.time a.span) }
  | looked {a : Attended} {w : Wait} (begun : a.wait = some w) :
      Turned s i (.look i) a
        { a with wait := some (w.turn (·.look (s.request.arrived? a.span) s.time)) }
  | expired {a : Attended} {w : Wait} (begun : a.wait = some w) (late : w.vigil = .late) :
      Turned s i (.expire i) a
        { a with wait := some (w.turn (·.settle (s.request.expire a.span).answer s.time)) }

theorem getElem?_attend (s : Scene) (i j : Nat) (f : Attended → Attended) :
    (s.attend i f).spans[j]? = if i = j then s.spans[j]?.map f else s.spans[j]? := by
  simp only [Scene.attend, List.getElem?_modify]
  split <;> simp

theorem lateSpan?_eq_some {s : Scene} {i : Nat} {span : Span} (h : s.lateSpan? i = some span) :
    ∃ a w, s.spans[i]? = some a ∧ a.span = span ∧ a.wait = some w ∧ w.vigil = .late := by
  simp only [Scene.lateSpan?, Option.map_eq_some_iff, Option.filter_eq_some_iff] at h
  obtain ⟨a, ⟨ha, hlate⟩, hspan⟩ := h
  cases hw : a.wait with
  | none => simp [Attended.isLate, hw] at hlate
  | some w => exact ⟨a, w, ha, hspan, hw, by simpa [Attended.isLate, hw] using hlate⟩

/-- A step that attends to one span keeps the others. -/
theorem turned_attend {s : Scene} {i j : Nat} {a : Attended} {f : Attended → Attended}
    {st : Step} (h : s.spans[i]? = some a) (turned : j = i → Turned s i st a (f a)) :
    ∃ a', (s.attend j f).spans[i]? = some a' ∧ Turned s i st a a' := by
  rw [getElem?_attend]
  by_cases hj : j = i
  · exact ⟨f a, by simp [hj, h], turned hj⟩
  · exact ⟨a, by simp [hj, h], .kept st a⟩

/-- A span that was taken stays where it is. -/
theorem turned_step {s : Scene} {i : Nat} {a : Attended} (st : Step)
    (h : s.spans[i]? = some a) : ∃ a', (s.step st).spans[i]? = some a' ∧ Turned s i st a a' := by
  cases st with
  | operate op =>
    have hlt := (List.getElem?_eq_some_iff.1 h).1
    refine ⟨a, ?_, .kept _ a⟩
    simp only [Scene.step]
    rw [List.getElem?_append_left hlt, h]
  | pass ms => exact ⟨a, h, .kept _ a⟩
  | resume j =>
    refine turned_attend h fun hj => ?_
    subst hj
    unfold Attended.begin
    cases hw : a.wait with
    | none => exact .begun hw
    | some w =>
      have same : ({ a with wait := some w } : Attended) = a := by rw [← hw]
      rw [Option.getD_some, same]
      exact .kept _ a
  | look j =>
    refine turned_attend h fun hj => ?_
    subst hj
    unfold Attended.turn
    cases hw : a.wait with
    | none =>
      have same : ({ a with wait := none } : Attended) = a := by rw [← hw]
      rw [Option.map_none, same]
      exact .kept _ a
    | some w => exact .looked hw
  | expire j =>
    simp only [Scene.step]
    cases hl : s.lateSpan? j with
    | none => exact ⟨a, h, .kept _ a⟩
    | some span =>
      obtain ⟨b, w, hb, rfl, hw, late⟩ := lateSpan?_eq_some hl
      refine turned_attend h fun hj => ?_
      subst hj
      rw [h, Option.some.injEq] at hb
      subst hb
      unfold Attended.turn
      rw [hw]
      exact .expired hw late

/-- A span that was not there before is the one that was just taken. -/
theorem taken_step {s : Scene} {i : Nat} {a : Attended} {st : Step} (h : s.spans[i]? = none)
    (h' : (s.step st).spans[i]? = some a) :
    ∃ op span, st = .operate op ∧ (perform s.request (.operation op)).answer = .span span ∧
      a = { span } ∧ i = s.spans.length := by
  have attended : ∀ {j : Nat} {f : Attended → Attended}, (s.attend j f).spans[i]? ≠ some a := by
    intro j f
    rw [getElem?_attend, h]
    split <;> simp
  cases st with
  | operate op =>
    have hle := List.getElem?_eq_none_iff.1 h
    simp only [Scene.step] at h'
    rw [List.getElem?_append_right hle] at h'
    cases ha : (perform s.request (.operation op)).answer with
    | span span =>
      rw [ha] at h'
      obtain ⟨hlt, heq⟩ := List.getElem?_eq_some_iff.1 h'
      simp only [Scene.added, List.length_singleton] at hlt
      refine ⟨op, span, rfl, ha, ?_, by omega⟩
      simpa [Scene.added] using heq.symm
    | _ => simp [ha, Scene.added] at h'
  | pass ms =>
    change s.spans[i]? = some a at h'
    rw [h] at h'
    cases h'
  | resume j => exact absurd h' attended
  | look j => exact absurd h' attended
  | expire j =>
    simp only [Scene.step] at h'
    split at h'
    · exact absurd h' attended
    · rw [h] at h'
      cases h'

end WebRequest.Suspension
