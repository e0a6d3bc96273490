-- The moves of a request between its states, over every run. A request leaves a dispatch
-- only after its target has taken over; a completed request stays completed; and the
-- handles of the cycles of the past can do nothing any more.
import WebRequest.Proofs.Suspension.Evolution

namespace WebRequest.Suspension

open Async

/-! ## The moves -/

/-- The moves that a request can make from one state to another. -/
inductive Move : State → State → Prop
  | start : Move .sync .started
  | dispatch : Move .started .dispatched
  | complete : Move .started .completed
  | returned : Move .dispatched .sync
  | restart : Move .dispatched .started
  | completeInTarget : Move .dispatched .completed

theorem Move.ne_completed {s t : State} (h : Move s t) : s ≠ .completed := by
  cases h <;> simp

/-- The cycle that the request holds has a target at work. -/
def TargetAtWork (l : Lifecycle) : Prop :=
  ∃ p c, l.current = some p ∧ l.cycle? p = some c ∧ c.taken = true

/-- A move, or none. Out of a dispatch it takes a target at work. -/
def Moves (l l' : Lifecycle) : Prop :=
  l'.state = l.state ∨ (Move l.state l'.state ∧ (l.state = .dispatched → TargetAtWork l))

/-- A change of the current cycle shows in the state of the request. -/
theorem moves_put {l : Lifecycle} {p : Nat} {c c' : Cycle} (h : Sound l)
    (current : l.current = some p) (hc : l.cycle? p = some c) (held : c'.superseded = false)
    (move : c'.phase = c.phase ∨ (Move c.phase.state c'.phase.state ∧
      (c.phase = .dispatched → c.taken = true))) :
    Moves l (put l p c') := by
  have hs := h.state_eq current hc
  have hs' : (put l p c').state = c'.phase.state := by
    have hcur : (put l p c').current = some p := current
    rw [state_of_current hcur (cycle?_put_self hc c'), Cycle.state, held]
    rfl
  rw [Moves, hs, hs']
  rcases move with he | ⟨hm, htaken⟩
  · exact .inl (by rw [he])
  · refine .inr ⟨hm, fun hd => ⟨p, c, current, hc, htaken ?_⟩⟩
    cases hph : c.phase <;> simp [hph, Phase.state] at hd ⊢

theorem state_dropReceiver (l : Lifecycle) : l.dropReceiver.state = l.state := by
  unfold Lifecycle.state Lifecycle.currentCycle?
  rw [dropReceiver_current]
  cases l.current with
  | none => rfl
  | some p =>
    simp only [Option.bind_some, cycle?_dropReceiver]
    cases l.cycle? p with
    | none => rfl
    | some c => simp only [Option.map_some]; split <;> rfl

theorem state_launch (l : Lifecycle) (e : Exchange) : (l.launch e).state = .started := by
  rw [state_of_current (launch_current l e) (cycle?_launch_new l e)]
  rfl

theorem moves_of_called {l : Lifecycle} {p : Nat} {c c' : Cycle} {call : Call} {ns : List Notice}
    (h : Sound l) (hc : l.cycle? p = some c) (hcalled : Called c call c' ns) :
    Moves l (put l p c') := by
  have f := h.fits p c hc
  cases hcalled with
  | dispatched resolved held started =>
    refine moves_put h (f.held_iff.1 held) hc held (.inr ⟨?_, by simp [started]⟩)
    rw [started]
    exact .dispatch
  | completed held open_ notPending =>
    refine moves_put h (f.held_iff.1 held) hc held (.inr ?_)
    simp only [Cycle.dispatchPending, Bool.and_eq_false_iff, decide_eq_false_iff_not,
      Bool.not_eq_false'] at notPending
    cases hph : c.phase with
    | started => exact ⟨.complete, by simp⟩
    | dispatched => exact ⟨.completeInTarget, fun _ => by simpa [hph] using notPending⟩
    | completed => exact absurd hph open_
  | timeoutSet live =>
    have held := (isLive_iff.1 live).1
    exact moves_put h (f.held_iff.1 held) hc held (.inl rfl)
  | listenerAdded live =>
    have held := (isLive_iff.1 live).1
    exact moves_put h (f.held_iff.1 held) hc held (.inl rfl)

theorem moves_of_change {l l' : Lifecycle} {e : Event} {a : Answer} {ns : List Notice}
    (h : Sound l) (hch : Change l e a l' ns) : Moves l l' := by
  cases hch with
  | refused | absent | contextGiven | stayed | notExpired | spanGiven => exact .inl rfl
  | noSpan => exact .inl (state_dropReceiver l)
  | launched sync => exact .inr ⟨by rw [sync, state_launch]; exact .start, by simp [sync]⟩
  | @relaunched exchange p c current cycle target =>
    obtain ⟨-, dispatched, taken⟩ := inTarget_iff.1 target
    refine .inr ⟨?_, fun _ => ⟨p, c, current, cycle, taken⟩⟩
    rw [h.state_eq current cycle, dispatched, state_launch]
    exact .restart
  | @entered p c current cycle held pending => exact moves_put h current cycle held (.inl rfl)
  | @returned p c current cycle target =>
    obtain ⟨-, dispatched, taken⟩ := inTarget_iff.1 target
    refine .inr ⟨?_, fun _ => ⟨p, c, current, cycle, taken⟩⟩
    rw [h.state_eq current cycle, dispatched, Sound.state_of_none rfl]
    exact .returned
  | called cycle hcalled => exact moves_of_called h cycle hcalled
  | @expired p c cycle held started =>
    refine moves_put h ((h.fits p c cycle).held_iff.1 held) cycle held (.inr ⟨?_, by simp [started]⟩)
    rw [started]
    exact .complete

/-! ## Taking over -/

def Call.isDispatch : Call → Bool
  | .dispatch | .dispatchTo _ => true
  | _ => false

/-- At this moment the cycle at a place is dispatched. -/
def Moment.Dispatches (m : Moment) (place : Nat) : Prop :=
  m.answer = .done ∧ ∃ call, m.event = .operation (.call place call) ∧ call.isDispatch = true

/-- At this moment a target takes over the dispatch of the cycle at a place. -/
def Moment.TakesOver (m : Moment) (place : Nat) : Prop :=
  m.answer = .done ∧ m.event = .operation .enterDispatch ∧
    m.before.lifecycle.current = some place

/-- The cycle at a place was dispatched, and later a target took over that dispatch. -/
def TakenOver (moments : List Moment) (place : Nat) : Prop :=
  ∃ dispatch entry, [dispatch, entry].Sublist moments ∧ dispatch.Dispatches place ∧
    entry.TakesOver place

/-- A cycle is dispatched only after a call has dispatched it, and has a target at work only
after one has taken over. -/
def Traced (moments : List Moment) (l : Lifecycle) : Prop :=
  ∀ p c, l.cycle? p = some c →
    (c.phase = .dispatched → ∃ m ∈ moments, m.Dispatches p) ∧
      (c.taken = true → TakenOver moments p)

theorem isDispatch_of_target? {call : Call} {path target : String}
    (h : call.target? path = some target) : call.isDispatch = true := by
  cases call <;> simp_all [Call.target?, Call.isDispatch]

theorem TakenOver.snoc {moments : List Moment} {place : Nat} (h : TakenOver moments place)
    (m : Moment) : TakenOver (moments ++ [m]) place := by
  obtain ⟨d, e, hsub, hd, he⟩ := h
  exact ⟨d, e, hsub.trans (List.sublist_append_left _ _), hd, he⟩

theorem traced_snoc {moments : List Moment} {r : Request} (h : Traced moments r.lifecycle)
    (e : Event) : Traced (moments ++ [⟨r, e⟩]) (perform r e).state.lifecycle := by
  intro p c' hc'
  have hch := changedBy_perform r e
  have answered : (⟨r, e⟩ : Moment).answer = (perform r e).answer := rfl
  unfold ChangedBy at hch
  generalize (perform r e).answer = a at hch answered
  cases hc : r.lifecycle.cycle? p with
  | none =>
    obtain ⟨exchange, l₀, -, -, rfl, -⟩ := born_of_change hch hc hc'
    simp [freshCycle]
  | some c =>
    obtain ⟨c₁, own, hc₁, hev, -⟩ := evolves_of_change hch hc
    rw [hc', Option.some.injEq] at hc₁
    subst hc₁
    obtain ⟨hphase, htaken⟩ := h p c hc
    -- what was true of the cycle before stays true of it
    have kept : (c.phase = .dispatched → ∃ m ∈ moments ++ [⟨r, e⟩], m.Dispatches p) ∧
        (c.taken = true → TakenOver (moments ++ [⟨r, e⟩]) p) := by
      refine ⟨fun hd => ?_, fun ht => (htaken ht).snoc _⟩
      obtain ⟨m, hm, hmd⟩ := hphase hd
      exact ⟨m, List.mem_append_left _ hm, hmd⟩
    cases hev with
    | kept => exact kept
    | deafened => exact kept
    | superseded target result => rcases result with rfl | ⟨rfl, -⟩ <;> exact kept
    | returned target => exact kept
    | expired held started => exact ⟨by simp [timedOut], kept.2⟩
    | entered current held pending =>
      simp only [Cycle.dispatchPending, Bool.and_eq_true, decide_eq_true_eq] at pending
      refine ⟨kept.1, fun _ => ?_⟩
      obtain ⟨d, hd, hdd⟩ := hphase pending.1
      refine ⟨d, ⟨r, _⟩, ?_, hdd, answered, rfl, current⟩
      exact (List.singleton_sublist.2 hd).append (List.Sublist.refl _)
    | called hcalled =>
      cases hcalled with
      | dispatched resolved held started =>
        refine ⟨fun _ => ⟨⟨r, _⟩, by simp, answered, _, rfl, isDispatch_of_target? resolved⟩, ?_⟩
        simp [signalled]
      | completed held open_ notPending => exact ⟨by simp [signalled], kept.2⟩
      | timeoutSet live => exact kept
      | listenerAdded live => exact kept

/-- In every run, targets are at work only on dispatches that were taken over. -/
theorem traced_history {r : Request} (h : r.lifecycle.cycles = []) (events : List Event) :
    Traced (history r events) (after r events).lifecycle := by
  induction events using List.reverseRecOn with
  | nil => intro p c hc; simp [Lifecycle.cycle?, h] at hc
  | append_singleton es e ih =>
    rw [history, Runs.history_snoc, after, Runs.after_snoc]
    exact traced_snoc ih e

/-! ## Calls out of order -/

/-- A call on the handle of a cycle that is over fails and changes nothing. -/
theorem perform_call_of_not_live {r : Request} {p : Nat} {c : Cycle}
    (hc : r.lifecycle.cycle? p = some c) (ended : c.isLive = false) (call : Call) :
    ∃ m, perform r (.operation (.call p call)) =
      { answer := .failed (.illegalState m), state := r } := by
  obtain ⟨m, hm⟩ := on_of_not_live ended call
  refine ⟨m, ?_⟩
  simp only [perform, onHandle_eq, hc, hm, Attempt.refuse, Attempt.fail, Outcome.map,
    Outcome.within, put_self hc]
  rfl

/-- The time limit of a cycle that is over does nothing when it runs out. -/
theorem perform_expiry_of_superseded {r : Request} {p : Nat} {c : Cycle}
    (hc : r.lifecycle.cycle? p = some c) (off : c.superseded = true) :
    perform r (.expiry p) = { answer := .expired false, state := r } := by
  simp only [perform, onHandle_eq, hc, Cycle.expire, off, Bool.true_or, if_true, Outcome.map,
    Outcome.within, put_self hc]
  rfl

/-- A completed request cannot be started again. -/
theorem perform_start_of_completed {r : Request} (h : r.lifecycle.state = .completed)
    (exchange : Exchange) :
    ∃ m, perform r (.operation (.start exchange)) =
      { answer := .failed (.illegalState m), state := r } := by
  have refused : ∃ m, r.lifecycle.start exchange = .refuse r.lifecycle m := by
    unfold Lifecycle.start
    split
    · exact ⟨_, rfl⟩
    · simp only [h]
      exact ⟨_, rfl⟩
  obtain ⟨m, hm⟩ := refused
  refine ⟨m, ?_⟩
  simp only [perform, Request.startAsync, hm]
  rfl

/-- Once completed, the request stays completed. -/
theorem completed_after {r : Request} (hs : Sound r.lifecycle)
    (h : r.lifecycle.state = .completed) (events : List Event) :
    (after r events).lifecycle.state = .completed := by
  have kept : ∀ r e, (Sound r.lifecycle ∧ r.lifecycle.state = .completed) →
      Sound (perform r e).state.lifecycle ∧ (perform r e).state.lifecycle.state = .completed := by
    intro r e ⟨hs, h⟩
    refine ⟨sound_perform hs e, ?_⟩
    rcases moves_of_change hs (changedBy_perform r e) with he | ⟨hm, -⟩
    · rw [he, h]
    · exact absurd h hm.ne_completed
  exact (Runs.after_induction
    (P := fun r : Request => Sound r.lifecycle ∧ r.lifecycle.state = .completed)
    ⟨hs, h⟩ kept events).2

/-! ## The law -/

/-- Whatever happens to a request, and in whatever order. The request only makes the moves of
`Move`, and it leaves a dispatch only after a target has taken over that dispatch. A completed
request stays completed and cannot be started. Only the cycle that the request holds takes
calls; the handle of every other cycle reports that the request is in sync, its calls fail and
change nothing, and its time limit does nothing when it runs out. -/
theorem the_suspensions_are_safe_in_every_run (a : Request.Arrival) (s : Settings) (id : Nat)
    (events : List Event) :
    let r := Request.receive a s id
    let now := after r events
    (∀ e, let next := (perform now e).state
      next.lifecycle.state ≠ now.lifecycle.state →
        Move now.lifecycle.state next.lifecycle.state ∧
          (now.lifecycle.state = .dispatched →
            ∃ p, now.lifecycle.current = some p ∧ TakenOver (history r events) p)) ∧
    (now.lifecycle.state = .completed → ∀ later,
      (after now later).lifecycle.state = .completed ∧
        ∀ exchange, ∃ m, perform (after now later) (.operation (.start exchange)) =
          { answer := .failed (.illegalState m), state := after now later }) ∧
    (∀ p c, now.lifecycle.cycle? p = some c →
      (c.isLive = true → now.lifecycle.current = some p) ∧
        (now.lifecycle.current ≠ some p → c.state = .sync ∧
          (∀ call, ∃ m, perform now (.operation (.call p call)) =
            { answer := .failed (.illegalState m), state := now }) ∧
          perform now (.expiry p) = { answer := .expired false, state := now })) := by
  intro r now
  have hs : Sound now.lifecycle := sound_after (sound_receive a s id) events
  refine ⟨fun e => ?_, fun h later => ⟨?_, fun exchange => ?_⟩, fun p c hc => ⟨?_, ?_⟩⟩
  · intro next hne
    rcases moves_of_change hs (changedBy_perform now e) with he | ⟨hm, hwork⟩
    · exact absurd he hne
    · refine ⟨hm, fun hd => ?_⟩
      obtain ⟨p, c, hp, hc, ht⟩ := hwork hd
      exact ⟨p, hp, (traced_history rfl events p c hc).2 ht⟩
  · exact completed_after hs h later
  · exact perform_start_of_completed (completed_after hs h later) exchange
  · exact fun live => ((hs.fits p c hc).isLive_iff.1 live).1
  · intro hne
    have off : c.superseded = true := by
      simpa [hne] using (hs.fits p c hc).held_iff
    have ended : c.isLive = false := by
      rw [← Bool.not_eq_true, isLive_iff]
      simp [off]
    exact ⟨by simp [Cycle.state, off], perform_call_of_not_live hc ended,
      perform_expiry_of_superseded hc off⟩

end WebRequest.Suspension
