-- Operations that fail. Every operation looks at all it needs before it touches anything, so one
-- that is refused leaves no trace: the request is what it was, and nobody hears of it. Only the
-- span is different: whoever asks for it in vain has still asked.
import WebRequest.Proofs.Suspension.Change

namespace WebRequest.Suspension

open Async

/-! ## Attempts that are refused or succeed -/

/-- An attempt on a state is refused, and then nothing has happened, or else it succeeds. -/
def Atomic {σ α : Type} (s : σ) (o : Attempt σ α) : Prop :=
  (∃ m, o = .refuse s m) ∨ ∃ a, o.answer = .ok a

theorem Atomic.refused {σ α : Type} {s : σ} {o : Attempt σ α} (h : Atomic s o)
    {f : RequestFault} (failed : o.answer = .error f) : ∃ m, o = .refuse s m := by
  rcases h with refused | ⟨a, ok⟩
  · exact refused
  · rw [ok] at failed
    cases failed

theorem atomic_on (c : Cycle) (call : Call) : Atomic c (call.on c) :=
  (settled_on c call).imp_right fun ⟨ok, _⟩ => ⟨(), ok⟩

theorem atomic_start (l : Lifecycle) (exchange : Exchange) : Atomic l (l.start exchange) := by
  unfold Lifecycle.start
  by_cases unsupported : (!l.supported) = true
  · rw [if_pos unsupported]
    exact .inl ⟨_, rfl⟩
  · rw [if_neg unsupported]
    split
    · exact .inl ⟨_, rfl⟩
    · exact .inl ⟨_, rfl⟩
    · -- the flag is looked at before the cycle is closed and its listeners are taken
      split
      · exact .inl ⟨_, rfl⟩
      · exact .inr ⟨_, rfl⟩
    · exact .inr ⟨_, rfl⟩

theorem atomic_enterDispatch (l : Lifecycle) : Atomic l l.enterDispatch := by
  unfold Lifecycle.enterDispatch
  split
  · split
    · exact .inr ⟨_, rfl⟩
    · exact .inl ⟨_, rfl⟩
  · exact .inl ⟨_, rfl⟩

/-! ## Operations that fail -/

theorem failed_of_ofExcept {α : Type} {success : α → Answer} {x : Except RequestFault α}
    {f : RequestFault} (h : Answer.ofExcept success x = .failed f)
    (never : ∀ a, success a ≠ .failed f) : x = .error f := by
  cases x with
  | ok a => exact absurd h (never a)
  | error g =>
    cases h
    rfl

/-- What a refused operation comes to: an error, and nothing else. -/
def refusal (r : Request) (m : Misuse) : Outcome Request Answer :=
  { answer := .failed (.illegalState m), state := r }

theorem refusal_of_start {r : Request} {exchange : Exchange} {f : RequestFault}
    (h : (perform r (.operation (.start exchange))).answer = .failed f) :
    ∃ m, perform r (.operation (.start exchange)) = refusal r m := by
  rcases atomic_start r.lifecycle exchange with ⟨m, refused⟩ | ⟨place, ok⟩
  · refine ⟨m, ?_⟩
    simp only [perform, Request.startAsync, refused]
    rfl
  · simp [perform, Request.startAsync, Attempt.bind, Outcome.andThen, Outcome.after,
      Outcome.within, Outcome.map, ok] at h

theorem refusal_of_enterDispatch {r : Request} {f : RequestFault}
    (h : (perform r (.operation .enterDispatch)).answer = .failed f) :
    ∃ m, perform r (.operation .enterDispatch) = refusal r m := by
  have failed : r.lifecycle.enterDispatch.answer = .error f := failed_of_ofExcept h (by simp)
  obtain ⟨m, refused⟩ := (atomic_enterDispatch r.lifecycle).refused failed
  refine ⟨m, ?_⟩
  simp only [perform, Request.enterDispatch, refused]
  rfl

theorem refusal_of_call {r : Request} {place : Nat} {call : Call} {f : RequestFault}
    (h : (perform r (.operation (.call place call))).answer = .failed f) :
    ∃ m, perform r (.operation (.call place call)) = refusal r m := by
  simp only [perform, onHandle_eq] at h ⊢
  cases hc : r.lifecycle.cycle? place with
  | none => simp [hc] at h
  | some c =>
    simp only [hc] at h
    have failed : (call.on c).answer = .error f := failed_of_ofExcept h (by simp)
    obtain ⟨m, refused⟩ := (atomic_on c call).refused failed
    refine ⟨m, ?_⟩
    simp [refused, refusal, Attempt.refuse, Attempt.fail, Outcome.map, Outcome.within,
      put_self hc, Request.withLifecycle]

theorem refusal_of_context {r : Request} {f : RequestFault}
    (h : (perform r (.operation .context)).answer = .failed f) :
    ∃ m, perform r (.operation .context) = refusal r m := by
  have failed : r.lifecycle.context = .error f := failed_of_ofExcept h (by simp)
  unfold Lifecycle.context at failed
  split at failed
  · cases failed
  · cases failed
  · cases failed
    refine ⟨.notAsync, ?_⟩
    rw [refusal, ← h]
    rfl

/-- Whatever the request and the operation: if it fails, it was refused. -/
theorem refusal_of_failed {r : Request} {op : Operation} {f : RequestFault}
    (span : op ≠ .takeSpan) (h : (perform r (.operation op)).answer = .failed f) :
    ∃ m, perform r (.operation op) = refusal r m := by
  cases op with
  | start exchange => exact refusal_of_start h
  | context => exact refusal_of_context h
  | takeSpan => exact absurd rfl span
  | enterDispatch => exact refusal_of_enterDispatch h
  | exitDispatch => simp [perform, Outcome.map] at h
  | call place call => exact refusal_of_call h

/-! ## Runs without their refusals -/

/-- At this moment an operation was refused; the taking of a span does not count. -/
def Moment.refused (m : Moment) : Bool :=
  match m.event, m.answer with
  | .operation .takeSpan, _ => false
  | .operation _, .failed _ => true
  | _, _ => false

theorem Moment.refused_iff {m : Moment} :
    m.refused = true ↔ ∃ op f, m.event = .operation op ∧ op ≠ .takeSpan ∧ m.answer = .failed f := by
  unfold Moment.refused
  constructor
  · intro h
    split at h
    · cases h
    · rename_i op f span hevent hanswer
      exact ⟨op, f, hevent, span, hanswer⟩
    · cases h
  · rintro ⟨op, f, hevent, span, hanswer⟩
    rw [hevent, hanswer]
    cases op <;> first | rfl | exact absurd rfl span

theorem Moment.outcome_of_refused {m : Moment} (h : m.refused = true) :
    ∃ misuse, m.outcome = refusal m.before misuse := by
  obtain ⟨op, f, hevent, span, hanswer⟩ := Moment.refused_iff.1 h
  unfold Runs.Moment.answer Runs.Moment.outcome at hanswer
  rw [hevent] at hanswer
  unfold Runs.Moment.outcome
  rw [hevent]
  exact refusal_of_failed span hanswer

/-- The moments of a run at which no operation was refused. -/
def accepted (r : Request) (events : List Event) : List Moment :=
  (history r events).filter fun m => !m.refused

/-- A run comes to the same without the operations that it refuses. -/
theorem run_accepted (r : Request) (events : List Event) :
    history r ((accepted r events).map (·.event)) = accepted r events ∧
      after r ((accepted r events).map (·.event)) = after r events := by
  induction events generalizing r with
  | nil => exact ⟨rfl, rfl⟩
  | cons e es ih =>
    obtain ⟨same, reaches⟩ := ih (perform r e).state
    cases refused : Moment.refused ⟨r, e⟩ with
    | true =>
      obtain ⟨misuse, outcome⟩ := Moment.outcome_of_refused refused
      have stays : (perform r e).state = r := congrArg Outcome.state outcome
      have dropped : accepted r (e :: es) = accepted r es := by
        simp [accepted, refused, stays]
      rw [stays] at same reaches
      rw [dropped]
      exact ⟨same, reaches.trans (congrArg (after · es) stays.symm)⟩
    | false =>
      have kept : accepted r (e :: es) = ⟨r, e⟩ :: accepted (perform r e).state es := by
        simp [accepted, refused]
      rw [kept]
      exact ⟨congrArg (List.cons (⟨r, e⟩ : Moment)) same, reaches⟩

/-! ## Pending dispatches -/

variable {r : Request} {p : Nat} {c : Cycle}

theorem start_of_pending (current : r.lifecycle.current = some p)
    (cycle : r.lifecycle.cycle? p = some c) (held : c.superseded = false)
    (pending : c.dispatchPending = true) (exchange : Exchange) :
    perform r (.operation (.start exchange)) =
      refusal r (if r.lifecycle.supported then .startBeforeDispatch else .asyncUnsupported) := by
  simp only [Cycle.dispatchPending, Bool.and_eq_true, decide_eq_true_eq, Bool.not_eq_true']
    at pending
  have state : r.lifecycle.state = .dispatched :=
    (state_of_current current cycle).trans (state_eq_dispatched_iff.2 ⟨held, pending.1⟩)
  have refused : r.lifecycle.start exchange = .refuse r.lifecycle
      (if r.lifecycle.supported then .startBeforeDispatch else .asyncUnsupported) := by
    unfold Lifecycle.start
    cases supported : r.lifecycle.supported with
    | false => rfl
    | true => simp [state, current, currentCycle?_of_some current, cycle, pending.2]
  simp only [perform, Request.startAsync, refused]
  rfl

theorem enterDispatch_of_pending (current : r.lifecycle.current = some p)
    (cycle : r.lifecycle.cycle? p = some c) (held : c.superseded = false)
    (pending : c.dispatchPending = true) :
    perform r (.operation .enterDispatch) =
      { answer := .done,
        state := { r with
          lifecycle := put r.lifecycle p { c with taken := true }, dispatchKind := .async } } := by
  have entered : r.lifecycle.enterDispatch =
      .succeed (put r.lifecycle p { c with taken := true }) () := by
    unfold Lifecycle.enterDispatch
    simp [current, currentCycle?_of_some current, cycle, held, pending, modify_eq_put cycle]
  simp only [perform, Request.enterDispatch, entered]
  rfl

/-! ## The law -/

/-- An operation that fails has not happened, the taking of a span apart: its fault is that of a
state that does not allow it, the whole request is what it was, and nothing else has been done. A
run comes to the same without such operations. In particular a start that is refused because of a
pending dispatch leaves that dispatch to its target. -/
theorem a_failing_operation_leaves_no_trace (r : Request) (events : List Event) :
    let now := after r events
    (∀ m ∈ history r events, ∀ op f, m.event = .operation op → op ≠ .takeSpan →
      m.answer = .failed f →
      ∃ misuse, m.outcome =
        { answer := .failed (.illegalState misuse), state := m.before, effects := [] }) ∧
    (history r ((accepted r events).map (·.event)) = accepted r events ∧
      after r ((accepted r events).map (·.event)) = now) ∧
    ∀ p c exchange, now.lifecycle.current = some p → now.lifecycle.cycle? p = some c →
      c.superseded = false → c.dispatchPending = true →
      let refused := perform now (.operation (.start exchange))
      (∃ f, refused.answer = .failed f) ∧
        perform refused.state (.operation .enterDispatch) =
          { answer := .done,
            state := { now with
              lifecycle := put now.lifecycle p { c with taken := true },
              dispatchKind := .async } } := by
  intro now
  refine ⟨?_, run_accepted r events, ?_⟩
  · rintro m - op f hevent span hanswer
    exact m.outcome_of_refused (Moment.refused_iff.2 ⟨op, f, hevent, span, hanswer⟩)
  · intro p c exchange current cycle held pending
    rw [start_of_pending current cycle held pending exchange]
    exact ⟨⟨_, rfl⟩, enterDispatch_of_pending current cycle held pending⟩

end WebRequest.Suspension
