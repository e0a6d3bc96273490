-- What a waiter finds who is woken. Once its cycle has been resumed it finds the resumption,
-- whatever it was doing before; while the cycle is suspended it finds nothing, and lets the
-- time run out if the limit of the wait has been used up.
import WebRequest.Proofs.Suspension.Delivery

namespace WebRequest.Suspension

open Async

/-! ## When a wait began, and when its time ran out -/

/-- In a run the wait on a span began at its own time, under the limit of that moment. -/
def BeganAs (s : Scene) (steps : List Step) (i : Nat) (span : Span) (w : Wait) : Prop :=
  ∃ before later, steps = before ++ .resume i :: later ∧ w.since = (s.run before).time ∧
    w.limit = (s.run before).request.timeLimit span

/-- In a run the waiter of a span let the time run out, while the cycle was suspended. -/
def RanOutAt (s : Scene) (steps : List Step) (i : Nat) (span : Span) (t : Nat) : Prop :=
  ∃ before later, steps = before ++ .expire i :: later ∧ (s.run before).time = t ∧
    suspendedAt (s.run before).request span.channel = true

theorem BeganAs.snoc {s : Scene} {steps : List Step} {i : Nat} {span : Span} {w : Wait}
    (h : BeganAs s steps i span w) (f : Vigil → Vigil) (st : Step) :
    BeganAs s (steps ++ [st]) i span (w.turn f) := by
  obtain ⟨before, later, rfl, hsince, hlimit⟩ := h
  exact ⟨before, later ++ [st], by simp, hsince, hlimit⟩

theorem RanOutAt.snoc {s : Scene} {steps : List Step} {i : Nat} {span : Span} {t : Nat}
    (h : RanOutAt s steps i span t) (st : Step) : RanOutAt s (steps ++ [st]) i span t := by
  obtain ⟨before, later, rfl, htime, hsuspended⟩ := h
  exact ⟨before, later ++ [st], by simp, htime, hsuspended⟩

/-- What a run has recorded of a wait. -/
structure Recorded (s : Scene) (steps : List Step) (i : Nat) (a : Attended) (w : Wait) :
    Prop where
  began : BeganAs s steps i a.span w
  ranOut : ∀ t, w.vigil = .ended .timedOut t → RanOutAt s steps i a.span t

/-- A wait that is over after a look was over before, or has just been ended. -/
theorem ended_of_look {v : Vigil} {arrived : Option Resumption} {time : Nat} {x : Resumption}
    {t : Nat} (h : v.look arrived time = .ended x t) :
    v = .ended x t ∨ ((∃ d, v = .waiting d) ∧ arrived = some x) := by
  cases v with
  | late => cases h
  | ended y t' => exact .inl h
  | waiting d =>
    cases arrived with
    | none =>
      simp only [Vigil.look] at h
      split at h <;> cases h
    | some y =>
      cases h
      exact .inr ⟨⟨d, rfl⟩, rfl⟩

theorem Orderly.recorded_turned {s now : Scene} {moments : List Moment} {steps : List Step}
    {st : Step} {i : Nat} {a a' : Attended} {w' : Wait} (hrun : now = s.run steps)
    (h : Orderly now moments) (ha : now.spans[i]? = some a)
    (hrec : ∀ w, a.wait = some w → Recorded s steps i a w)
    (turned : Turned now i st a a') (hw' : a'.wait = some w') :
    Recorded s (steps ++ [st]) i a' w' := by
  subst hrun
  cases turned with
  | kept => exact ⟨(hrec w' hw').began.snoc id st, fun t ht => ((hrec w' hw').ranOut t ht).snoc st⟩
  | begun fresh =>
    cases hw'
    exact ⟨⟨steps, [], rfl, rfl, rfl⟩, fun t ht => by simp [Wait.start, Vigil.start] at ht⟩
  | @looked _ w begun =>
    cases hw'
    refine ⟨(hrec w begun).began.snoc _ _, fun t ht => ?_⟩
    rcases ended_of_look ht with ended | ⟨⟨d, hv⟩, harr⟩
    · exact ((hrec w begun).ranOut t ended).snoc _
    · -- a look never finds that the time has run out
      have open_ : a.Open := Attended.open_of_vigil begun (by simp [hv])
      exact absurd harr (h.arrived_ne_timedOut ha open_)
  | @expired _ w begun late =>
    cases hw'
    refine ⟨(hrec w begun).began.snoc _ _, fun t ht => ?_⟩
    rw [Wait.turn_vigil, late] at ht
    cases hanswer : ((s.run steps).request.expire a.span).answer with
    | false => simp [Vigil.settle, hanswer] at ht
    | true =>
      simp only [Vigil.settle, hanswer, if_true, Vigil.ended.injEq, true_and] at ht
      have hnone := (h.expire_answer_iff ha).1 hanswer
      exact ⟨steps, [], rfl, ht, (h.suspended_iff ha).2 hnone⟩

/-- A run from a scene in which no span has been taken records all waits. -/
theorem recorded_run {s : Scene} {moments : List Moment} (h : Orderly s moments)
    (none_taken : s.spans = []) (steps : List Step) {i : Nat} {a : Attended} {w : Wait}
    (ha : (s.run steps).spans[i]? = some a) (hw : a.wait = some w) :
    Recorded s steps i a w := by
  induction steps using List.reverseRecOn generalizing a w with
  | nil => simp [none_taken] at ha
  | append_singleton steps st ih =>
    rw [s.run_snoc] at ha
    rcases span_step_cases ha with ⟨a₀, ha₀, turned⟩ | ⟨-, op, span, -, -, rfl, -⟩
    · exact (h.run steps).recorded_turned rfl ha₀ (fun w hw => ih ha₀ hw) turned hw
    · cases hw

theorem step_resume {s : Scene} {i : Nat} {a : Attended} (ha : s.spans[i]? = some a) :
    (s.step (.resume i)).spans[i]? = some (a.begin s.request s.time) := by
  simp only [Scene.step]
  rw [getElem?_attend, if_pos rfl, ha, Option.map_some]

theorem step_look {s : Scene} {i : Nat} {a : Attended} {w : Wait} (ha : s.spans[i]? = some a)
    (hw : a.wait = some w) :
    (s.step (.look i)).spans[i]? =
      some { a with wait := some (w.turn (·.look (s.request.arrived? a.span) s.time)) } := by
  simp only [Scene.step]
  rw [getElem?_attend, if_pos rfl, ha, Option.map_some, Attended.turn, hw]
  rfl

theorem step_expire_of_not_late {s : Scene} {i : Nat} {a : Attended} {w : Wait}
    (ha : s.spans[i]? = some a) (hw : a.wait = some w) (inTime : w.vigil ≠ .late) :
    s.step (.expire i) = s := by
  have hl : s.lateSpan? i = none := by
    cases hl : s.lateSpan? i with
    | none => rfl
    | some span =>
      obtain ⟨b, v, hb, -, hv, late⟩ := lateSpan?_eq_some hl
      rw [ha, Option.some.injEq] at hb
      subst hb
      rw [hw, Option.some.injEq] at hv
      subst hv
      exact absurd late inTime
  simp only [Scene.step, hl]

theorem request_step_expire {s : Scene} {i : Nat} {a : Attended} {w : Wait}
    (ha : s.spans[i]? = some a) (hw : a.wait = some w) (late : w.vigil = .late) :
    (s.step (.expire i)).request = (s.request.expire a.span).state := by
  simp only [Scene.step, lateSpan?_of_late ha hw late]

/-! ## Waking a waiter -/

/-- Wakes the waiter of a span: it looks, lets the time run out if the deadline has passed, and
looks again. -/
def Scene.wake (s : Scene) (i : Nat) : Scene := s.run [.look i, .expire i, .look i]

theorem Scene.wake_eq (s : Scene) (i : Nat) :
    s.wake i = ((s.step (.look i)).step (.expire i)).step (.look i) := rfl

namespace Orderly

variable {s : Scene} {moments : List Moment} {i : Nat} {a : Attended} {w : Wait}

/-- A waiter whose cycle has been resumed wakes up to the resumption. -/
theorem wake_of_resumed (h : Orderly s moments) (ha : s.spans[i]? = some a)
    (hw : a.wait = some w) (open_ : ∀ x t, w.vigil ≠ .ended x t) {x : Resumption}
    (hx : resumptions moments a.span.channel = [x]) :
    ∃ w', (s.wake i).spans[i]? = some { a with wait := some w' } ∧ w'.vigil = .ended x s.time := by
  have arrived := h.arrived ha (Attended.open_of_vigil hw open_)
  have looked := step_look ha hw
  rw [arrived, hx, List.head?_cons] at looked
  rw [Scene.wake_eq]
  cases hv : w.vigil with
  | ended y t => exact absurd hv (open_ y t)
  | waiting d =>
    have last := step_look looked rfl
    rw [step_expire_of_not_late looked rfl (by simp [Vigil.look, hv])]
    refine ⟨_, last, ?_⟩
    simp [Vigil.look, hv]
  | late =>
    rw [Wait.turn_eq_self (by rw [hv]; rfl)] at looked
    have h₁ := h.step (.look i)
    have hx₁ := h.resumptions_step (.look i) (h₁.attentive.hears i _ looked) hx
    have hanswer : ((s.step (.look i)).request.expire a.span).answer = false := by
      rw [← Bool.not_eq_true, h₁.expire_answer_iff looked, hx₁]
      simp
    have expired := step_expire looked rfl hv
    rw [hanswer] at expired
    have h₂ := h₁.step (.expire i)
    have hx₂ := h₁.resumptions_step (.expire i) (h₂.attentive.hears i _ expired) hx₁
    have arrived₂ := h₂.arrived expired (Attended.open_of_vigil rfl (by simp [Vigil.settle, hv]))
    have last := step_look expired rfl
    rw [arrived₂, hx₂, List.head?_cons] at last
    refine ⟨_, last, ?_⟩
    simp only [Wait.turn_vigil, hv, Vigil.settle, Bool.false_eq_true, if_false, Vigil.look]
    rw [Scene.time_step_expire]
    rfl

/-- A waiter whose cycle is suspended finds nothing. If the limit of the wait has been used up,
it lets the time run out. -/
theorem wake_of_suspended (h : Orderly s moments) (ha : s.spans[i]? = some a)
    (hw : a.wait = some w) (hnone : resumptions moments a.span.channel = []) :
    ∃ w', (s.wake i).spans[i]? = some { a with wait := some w' } ∧
      (w.OutOfTime s.time → w'.vigil = .ended .timedOut s.time) ∧
      (¬ w.OutOfTime s.time → w' = w) := by
  have good := h.attentive.waits i a w ha hw
  rw [hnone] at good
  have open_ : ∀ x t, w.vigil ≠ .ended x t := fun x t hv => by cases (good.ended x t hv).1
  have looked := step_look ha hw
  rw [h.arrived ha (Attended.open_of_vigil hw open_), hnone, List.head?_nil] at looked
  rw [Scene.wake_eq]
  have h₁ := h.step (.look i)
  have hnone₁ : resumptions (moments ++ s.momentsOf (.look i)) a.span.channel = [] := by
    rw [show s.momentsOf (.look i) = [] from rfl, List.append_nil, hnone]
  by_cases out : w.OutOfTime s.time
  · have late := good.look_none.1 out
    have expired := step_expire looked rfl late
    simp only [(h₁.expire_answer_iff looked).2 hnone₁] at expired
    have last := step_look expired rfl
    refine ⟨_, last, fun _ => ?_, fun inTime => absurd out inTime⟩
    rw [Wait.turn_vigil, Wait.turn_vigil, late]
    rfl
  · -- the look has found nothing, and neither does the next one
    obtain ⟨same, inTime⟩ := good.look_none.2 out
    rw [same] at looked
    have arrived₁ := h₁.arrived looked (Attended.open_of_vigil rfl open_)
    have last := step_look looked rfl
    rw [arrived₁, hnone₁, List.head?_nil] at last
    rw [step_expire_of_not_late looked rfl inTime]
    exact ⟨_, last, fun out' => absurd out' out, fun _ => same⟩

end Orderly

end WebRequest.Suspension
