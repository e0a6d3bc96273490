-- The wait of a container, while operations happen at the times that are planned for them. It
-- is one of the runs in which waiters and operations take turns, so all that holds of those
-- holds of it. And since its waiter sleeps no longer than to its deadline, the time runs out
-- exactly then, or never.
import WebRequest.Proofs.Suspension.Waking

namespace WebRequest.Suspension

open Async

/-- Operations that are planned for their times. -/
def planned (plan : List (Nat × Operation)) : List (Planned Request Answer) :=
  plan.map fun p => { time := p.1, act := fun r => perform r (.operation p.2) }

def Step.operation? : Step → Option Operation
  | .operate op => some op
  | _ => none

/-- The operations among the steps of a run. -/
def operations (steps : List Step) : List Operation := steps.filterMap Step.operation?

theorem operations_append (steps more : List Step) :
    operations (steps ++ more) = operations steps ++ operations more := List.filterMap_append

/-! ## What the waiter sees -/

section

variable {s now : Scene} {moments : List Moment} {i : Nat} {span : Span} {since limit time : Nat}
  {w : Waited Request Answer} {ops : List Operation}

/-- A wait on the span with the number `i` of a scene has come as far as the scene. -/
structure Shows (s : Scene) (i : Nat) (span : Span) (since limit : Nat)
    (w : Waited Request Answer) : Prop where
  state : s.request = w.state
  time : s.time = w.time
  span : s.spans[i]? = some { span, wait := some ⟨since, limit, w.vigil⟩ }

/-- The waiter stays, and is never late. -/
structure Awake (since limit : Nat) (w : Waited Request Answer) : Prop where
  patient : w.patience = none
  present : w.abandoned = false
  notLate : w.vigil ≠ .late
  ahead : ∀ d, w.vigil = .waiting (some d) → w.time < d ∧ d = since + limit
  onTime : ∀ t, w.vigil = .ended .timedOut t → t = since + limit
  past : ∀ x t, w.vigil = .ended x t → t ≤ w.time

theorem awake_of_ended {x : Resumption} {t : Nat} (patient : w.patience = none)
    (present : w.abandoned = false) (hv : w.vigil = .ended x t)
    (onTime : x = .timedOut → t = since + limit) (past : t ≤ w.time) : Awake since limit w := by
  refine ⟨patient, present, by simp [hv], by simp [hv], fun t' ht' => ?_, fun y t' ht' => ?_⟩
  · rw [hv, Vigil.ended.injEq] at ht'
    exact ht'.2 ▸ onTime ht'.1
  · rw [hv, Vigil.ended.injEq] at ht'
    exact ht'.2 ▸ past

theorem awake_of_waiting {d : Option Nat} (patient : w.patience = none)
    (present : w.abandoned = false) (hv : w.vigil = .waiting d)
    (ahead : ∀ d', d = some d' → w.time < d' ∧ d' = since + limit) : Awake since limit w := by
  refine ⟨patient, present, by simp [hv], fun d' hd' => ?_, by simp [hv], by simp [hv]⟩
  rw [hv, Vigil.waiting.injEq] at hd'
  exact ahead d' hd'

theorem Shows.pass (h : Shows s i span since limit w) (ht : w.time ≤ time) :
    Shows (s.step (.pass (time - w.time))) i span since limit { w with time } := by
  refine ⟨h.state, ?_, h.span⟩
  have hs := h.time
  simp only [Scene.step]
  omega

theorem Shows.look (h : Shows s i span since limit w) :
    Shows (s.step (.look i)) i span since limit (w.look (Request.watch span) w.time) := by
  refine ⟨h.state, h.time, ?_⟩
  rw [step_look h.span rfl, h.state, h.time]
  rfl

theorem Shows.runOut (h : Shows s i span since limit w) :
    Shows (s.step (.expire i)) i span since limit (w.runOut (Request.watch span)) := by
  unfold Waited.runOut
  split
  · rename_i late
    refine ⟨?_, (s.time_step_expire i).trans h.time, ?_⟩
    · rw [request_step_expire h.span rfl late, h.state]
      rfl
    · rw [step_expire h.span rfl late, h.state, h.time]
      rfl
  · rename_i inTime
    rw [step_expire_of_not_late h.span rfl inTime]
    exact h

/-- The steps in which a waiter sleeps for a while. -/
def sleeping (i ms : Nat) : List Step := [.pass ms, .look i, .expire i]

/-- A waiter who wakes up does what the steps of sleeping do in the scene. -/
theorem Shows.wake (h : Shows s i span since limit w) (ht : w.time ≤ time) :
    Shows (s.run (sleeping i (time - w.time))) i span since limit
      (w.wake (Request.watch span) time) :=
  (h.pass ht).look.runOut

theorem patience_wake (watch : Watch Request) : (w.wake watch time).patience = w.patience := by
  unfold Waited.wake Waited.runOut
  split <;> rfl

theorem abandoned_wake (watch : Watch Request) :
    (w.wake watch time).abandoned = w.abandoned := by
  unfold Waited.wake Waited.runOut
  split <;> rfl

theorem time_wake (watch : Watch Request) : (w.wake watch time).time = time := by
  unfold Waited.wake Waited.runOut
  split <;> rfl

theorem vigil_wake (watch : Watch Request) :
    (w.wake watch time).vigil =
      (w.vigil.look (watch.arrived w.state) time).settle (watch.expire w.state).answer time := by
  unfold Waited.wake Waited.runOut
  split
  · rfl
  · rename_i inTime
    have same : ∀ v : Vigil, v ≠ .late → v.settle (watch.expire w.state).answer time = v := by
      intro v hv
      cases v <;> first | rfl | exact absurd rfl hv
    exact (same _ inTime).symm

/-- A waiter who wakes up before the deadline leaves the request alone. -/
theorem state_wake (watch : Watch Request)
    (inTime : w.vigil.look (watch.arrived w.state) time ≠ .late) :
    (w.wake watch time).state = w.state := by
  have looked : (w.look watch time).vigil ≠ .late := inTime
  unfold Waited.wake Waited.runOut
  rw [if_neg looked]
  rfl

theorem look_ne_late {v : Vigil} {arrived : Option Resumption} (hv : v ≠ .late)
    (hd : ∀ d, v = .waiting (some d) → time < d) : v.look arrived time ≠ .late := by
  cases v with
  | late => exact absurd rfl hv
  | ended x t => simp [Vigil.look]
  | waiting d =>
    cases arrived with
    | some x => simp [Vigil.look]
    | none =>
      cases d with
      | none => simp [Vigil.look]
      | some d =>
        have hlt := hd d rfl
        simp [Vigil.look, Nat.not_le.2 hlt]

theorem awake_wake (ord : Orderly s moments) (h : Shows s i span since limit w)
    (awake : Awake since limit w) (ht : w.time ≤ time)
    (hd : ∀ d, w.vigil = .waiting (some d) → time ≤ d) :
    Awake since limit (w.wake (Request.watch span) time) := by
  have patient : (w.wake (Request.watch span) time).patience = none :=
    (patience_wake _).trans awake.patient
  have present : (w.wake (Request.watch span) time).abandoned = false :=
    (abandoned_wake _).trans awake.present
  have htime : (w.wake (Request.watch span) time).time = time := time_wake _
  have hvigil : (w.wake (Request.watch span) time).vigil = _ := vigil_wake (Request.watch span)
  cases hv : w.vigil with
  | late => exact absurd hv awake.notLate
  | ended x t =>
    rw [hv] at hvigil
    refine awake_of_ended patient present hvigil ?_ ?_
    · rintro rfl
      exact awake.onTime t hv
    · rw [htime]
      exact Nat.le_trans (awake.past x t hv) ht
  | waiting d =>
    rw [hv] at hvigil
    cases ha : (Request.watch span).arrived w.state with
    | some x =>
      rw [ha] at hvigil
      refine awake_of_ended patient present hvigil ?_ (Nat.le_of_eq htime.symm)
      rintro rfl
      have open_ : Attended.Open { span, wait := some ⟨since, limit, w.vigil⟩ } :=
        Attended.open_of_vigil rfl (by simp [hv])
      have arrives : s.request.arrived? span = some .timedOut := by
        rw [h.state]
        exact ha
      exact absurd arrives (ord.arrived_ne_timedOut h.span open_)
    | none =>
      by_cases late : d.any (· ≤ time) = true
      · -- the deadline has just been reached, and the cycle is told
        obtain ⟨d', rfl, reached⟩ : ∃ d', d = some d' ∧ d' ≤ time := by
          simpa [Option.any_eq_true] using late
        have deadline := (awake.ahead d' hv).2
        have before := hd d' hv
        rw [ha, Vigil.look, if_pos late] at hvigil
        cases hanswer : ((Request.watch span).expire w.state).answer with
        | true =>
          rw [hanswer] at hvigil
          exact awake_of_ended patient present hvigil (fun _ => by omega) (Nat.le_of_eq htime.symm)
        | false =>
          rw [hanswer] at hvigil
          exact awake_of_waiting patient present hvigil fun d hd => by cases hd
      · rw [ha, Vigil.look, if_neg late] at hvigil
        refine awake_of_waiting patient present hvigil ?_
        rintro d' rfl
        rw [htime]
        exact ⟨by simpa using late, (awake.ahead d' hv).2⟩

/-! ## The wait goes on -/

/-- Steps with the given operations lead from a scene to where a wait has come. -/
def Follows (s : Scene) (i : Nat) (span : Span) (since limit : Nat) (ops : List Operation)
    (w : Waited Request Answer) : Prop :=
  ∃ steps, operations steps = ops ∧ Shows (s.run steps) i span since limit w ∧
    Awake since limit w

namespace Follows

theorem awake (h : Follows s i span since limit ops w) : Awake since limit w := by
  obtain ⟨-, -, -, awake⟩ := h
  exact awake

theorem sleep (ord : Orderly s moments) (h : Follows s i span since limit ops w)
    (ht : w.time ≤ time) (hd : ∀ d, w.vigil = .waiting (some d) → time ≤ d) :
    Follows s i span since limit ops (w.sleep (Request.watch span) time) := by
  obtain ⟨steps, hops, shows_, awake⟩ := h
  rw [Waited.sleep_of_patient awake.present awake.patient]
  refine ⟨steps ++ sleeping i (time - w.time), ?_, ?_, awake_wake (ord.run steps) shows_ awake ht hd⟩
  · rw [operations_append, hops]
    exact List.append_nil ops
  · rw [s.run_append]
    exact shows_.wake ht

theorem settle (ord : Orderly s moments) (h : Follows s i span since limit ops w) :
    Follows s i span since limit ops (w.settle (Request.watch span)) := by
  unfold Waited.settle
  split
  · exact h.sleep ord (Nat.le_refl _) fun d hd => Nat.le_of_lt (h.awake.ahead d hd).1
  · exact h

theorem meetDeadline (ord : Orderly s moments) (h : Follows s i span since limit ops w)
    (until_ : Option Nat) :
    Follows s i span since limit ops (w.meetDeadline (Request.watch span) until_) := by
  unfold Waited.meetDeadline
  split
  · rename_i d hv
    split
    · refine h.sleep ord (Nat.le_of_lt (h.awake.ahead d hv).1) fun d' hd' => ?_
      rw [hv] at hd'
      cases hd'
      exact Nat.le_refl _
    · exact h
  · exact h

end Follows

theorem time_sleep (awake : Awake since limit w) (watch : Watch Request) :
    (w.sleep watch time).time = time := by
  rw [Waited.sleep_of_patient awake.present awake.patient, time_wake]

theorem time_settle (awake : Awake since limit w) (watch : Watch Request) :
    (w.settle watch).time = w.time := by
  unfold Waited.settle
  split
  · exact time_sleep awake watch
  · rfl

/-- Once the waiter has met its deadline, no deadline before the given time is left. -/
theorem meetDeadline_ahead {until_ : Nat} (awake : Awake since limit w)
    (met : Awake since limit (w.meetDeadline (Request.watch span) (some until_)))
    (ht : w.time ≤ until_) :
    (w.meetDeadline (Request.watch span) (some until_)).time ≤ until_ ∧
      ∀ d, (w.meetDeadline (Request.watch span) (some until_)).vigil = .waiting (some d) →
        until_ ≤ d := by
  revert met
  unfold Waited.meetDeadline
  split
  · rename_i d hv
    split
    · rename_i hlt
      have hlt' : d < until_ := of_decide_eq_true hlt
      intro met
      rw [time_sleep awake]
      refine ⟨Nat.le_of_lt hlt', fun d' hd' => ?_⟩
      -- the deadline has just been met, so it does not lie ahead
      have ahead := met.ahead d' hd'
      rw [time_sleep awake] at ahead
      have deadline := (awake.ahead d hv).2
      omega
    · rename_i hle
      intro _
      refine ⟨ht, fun d' hd' => ?_⟩
      rw [hv] at hd'
      cases hd'
      simpa using hle
  · rename_i hne
    intro _
    exact ⟨ht, fun d' hd' => absurd hd' (hne d')⟩

namespace Follows

theorem upTo (ord : Orderly s moments) (h : Follows s i span since limit ops w) (until_ : Nat) :
    Follows s i span since limit ops (w.upTo (Request.watch span) until_) := by
  unfold Waited.upTo
  split
  · exact h
  · rename_i later
    have settled := h.settle ord
    have met := settled.meetDeadline ord (some until_)
    have time := time_settle h.awake (Request.watch span)
    obtain ⟨ht, hd⟩ := meetDeadline_ahead settled.awake met.awake (by omega)
    exact met.sleep ord ht hd

/-- What is planned next is done in the scene as well. -/
theorem doNext (ord : Orderly s moments) (h : Follows s i span since limit ops w) (t : Nat)
    (op : Operation) :
    Follows s i span since limit (ops ++ [op]) (w.doNext (Request.watch span)
      { time := t, act := fun r => perform r (.operation op) }) := by
  obtain ⟨steps, hops, shows_, awake⟩ := h.upTo ord t
  simp only [Waited.doNext, awake.present, Bool.false_eq_true, if_false]
  refine ⟨steps ++ [.operate op], ?_, ?_, ?_⟩
  · rw [operations_append, hops]
    rfl
  · rw [s.run_snoc]
    refine ⟨?_, shows_.time, ?_⟩
    · simp only [Scene.step]
      rw [shows_.state]
    · simp only [Scene.step]
      rw [List.getElem?_append_left (List.getElem?_eq_some_iff.1 shows_.span).1]
      exact shows_.span
  · exact ⟨awake.patient, rfl, awake.notLate, awake.ahead, awake.onTime, awake.past⟩

theorem plan (ord : Orderly s moments) (h : Follows s i span since limit ops w)
    (plan : List (Nat × Operation)) :
    Follows s i span since limit (ops ++ plan.map Prod.snd)
      ((planned plan).foldl (Waited.doNext (Request.watch span)) w) := by
  induction plan generalizing w ops with
  | nil => simpa [planned] using h
  | cons p plan ih =>
    have next := ih (h.doNext ord p.1 p.2)
    rw [List.append_assoc] at next
    exact next

end Follows

end

end WebRequest.Suspension
