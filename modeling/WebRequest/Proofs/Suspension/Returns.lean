-- What a wait on a span returns: the one event that ended the suspension. This holds however
-- operations and waiters take turns, and of the wait of a container in particular.
import WebRequest.Proofs.Suspension.Deadline
import WebRequest.Proofs.Suspension.Safety

namespace WebRequest.Suspension

open Async

/-! ## What is promised -/

/-- A cycle can be resumed exactly while it is suspended. It is resumed once at most, and every
dispatch that succeeds resumes it. -/
structure ResumedOnce (moments : List Moment) (p : Nat) (c : Cycle) : Prop where
  armed_iff : c.armed = true ↔ c.phase = .started
  once : (resumptions moments p).length ≤ 1
  none_iff : resumptions moments p = [] ↔ c.phase = .started
  dispatched : ∀ m ∈ moments, m.Dispatches p →
    ∃ target, m.resumption? p = some (.dispatch target)

/-- A wait that is over has returned what resumed the cycle. If that is its time limit, then the
limit had been used up, and the cycle was still suspended. -/
structure Returned (s : Scene) (steps : List Step) (i : Nat) (span : Span) (w : Wait)
    (x : Resumption) (t : Nat) : Prop where
  returned_iff : ∀ y, x = y ↔ ∃ m ∈ s.moments steps, m.resumption? span.channel = some y
  outOfTime : x = .timedOut → w.OutOfTime t ∧ RanOutAt s steps i span t

/-- What resumed the cycle is on the channel, and a waiter who is woken returns it. -/
def Ready (now : Scene) (moments : List Moment) (i : Nat) (span : Span) (c : Cycle) : Prop :=
  ∃ x, x ≠ .timedOut ∧ resumptions moments span.channel = [x] ∧ c.sent = some x ∧
    ∃ w, ((now.step (.resume i)).wake i).spans[i]? = some ⟨span, some w⟩ ∧
      w.vigil = .ended x now.time

/-- A waiter who is woken lets the time run out, if the limit of the wait has been used up. -/
def Patient (now : Scene) (i : Nat) (span : Span) (w : Wait) : Prop :=
  ∃ w', (now.wake i).spans[i]? = some ⟨span, some w'⟩ ∧
    (w.OutOfTime now.time → w'.vigil = .ended .timedOut now.time) ∧
    (¬ w.OutOfTime now.time → w' = w)

/-- The wait of a container, from now on. It is one of the runs of the scene, it returns unless
the cycle stays suspended without a limit, and its time runs out exactly if the cycle is still
suspended at the deadline. -/
structure OnTheClock (s : Scene) (steps : List Step) (i : Nat) (span : Span)
    (plan : List (Nat × Operation)) : Prop where
  run : ∃ more, operations more = plan.map Prod.snd ∧
    Shows ((s.run steps).run more) i span (s.run steps).time
      ((s.run steps).request.timeLimit span) (waitOn (s.run steps) span plan) ∧
    ∀ x t, (waitOn (s.run steps) span plan).vigil = .ended x t →
      resumptions (s.moments (steps ++ more)) span.channel = [x]
  returns : (∃ x t, (waitOn (s.run steps) span plan).vigil = .ended x t) ∨
    ((s.run steps).request.timeLimit span = 0 ∧
      suspendedAt (waitOn (s.run steps) span plan).state span.channel = true)
  timedOut_iff : ∀ t, (waitOn (s.run steps) span plan).vigil = .ended .timedOut t ↔
    (s.run steps).request.timeLimit span ≠ 0 ∧
      t = (s.run steps).time + (s.run steps).request.timeLimit span ∧
      suspendedAt (after (s.run steps).request (eventsBefore plan
        ((s.run steps).time + (s.run steps).request.timeLimit span))) span.channel = true

/-! ## It is kept -/

theorem resumption?_of_dispatch {r : Request} (hs : Sound r.lifecycle)
    (hpath : r.lifecycle.path = r.head.uri.path) {e : Event} {p : Nat}
    (h : Moment.Dispatches ⟨r, e⟩ p) :
    ∃ target, Moment.resumption? ⟨r, e⟩ p = some (.dispatch target) := by
  obtain ⟨hdone, call, he, hdispatch⟩ := h
  change e = _ at he
  subst he
  obtain ⟨l', ns, hch⟩ : ∃ l' ns, Change r.lifecycle (.operation (.call p call)) .done l' ns := by
    rw [← hdone]
    exact ⟨_, _, changedBy_perform r (.operation (.call p call))⟩
  cases hch with
  | called cycle hcalled =>
    cases hcalled with
    | @dispatched _ target resolved held started =>
      rw [((hs.fits p _ cycle).path_eq).trans hpath] at resolved
      refine ⟨target, ?_⟩
      rw [Moment.resumption?, hdone]
      change resumption? r p (.operation (.call p call)) .done = _
      rw [resumption?, if_pos rfl]
      cases call <;> simp_all [Call.resumption?, Call.target?]
    | completed => cases hdispatch
    | timeoutSet => cases hdispatch
    | listenerAdded => cases hdispatch

theorem dispatches_resume {r : Request} (hs : Sound r.lifecycle)
    (hpath : r.lifecycle.path = r.head.uri.path) (events : List Event) {p : Nat} :
    ∀ m ∈ history r events, m.Dispatches p →
      ∃ target, m.resumption? p = some (.dispatch target) := by
  intro m hm hd
  obtain ⟨es, -, -, met⟩ := Runs.exists_of_mem_history hm
  obtain ⟨_, e⟩ := m
  obtain rfl : _ = after r es := met
  exact resumption?_of_dispatch (sound_after hs es) (path_after hpath es) hd

namespace Orderly

variable {s : Scene} {moments : List Moment} {i : Nat} {a : Attended} {w : Wait}

theorem resumedOnce (h : Orderly s moments) {p : Nat} {c : Cycle}
    (hc : s.request.lifecycle.cycle? p = some c)
    (dispatched : ∀ m ∈ moments, m.Dispatches p →
      ∃ target, m.resumption? p = some (.dispatch target)) : ResumedOnce moments p c := by
  have signalled := h.accounted.signalled p c hc
  exact ⟨(h.sound.fits p c hc).good.armed_iff, signalled.length_le_one, signalled.eq_nil_iff,
    dispatched⟩

theorem ready (h : Orderly s moments) (ha : s.spans[i]? = some a) (open_ : a.Open) {c : Cycle}
    (hc : s.request.lifecycle.cycle? a.span.channel = some c) (ended : c.phase ≠ .started) :
    Ready s moments i a.span c := by
  obtain ⟨c₁, hc₁, heard, -, signalled⟩ := h.cycle ha
  rw [hc, Option.some.injEq] at hc₁
  subst hc₁
  obtain ⟨x, hx, hsent⟩ := signalled.resumed ended
  have hne : x ≠ .timedOut := by
    rintro rfl
    exact h.inTime ha open_ (by rw [hx]; simp)
  refine ⟨x, hne, hx, hsent heard hne, ?_⟩
  have resumed := step_resume ha
  have hx' := h.resumptions_step (.resume i) ((h.step _).attentive.hears i _ resumed) hx
  have begun_open : ∀ y t, (a.wait.getD (.start s.request s.time a.span)).vigil ≠ .ended y t := by
    intro y t
    cases hw : a.wait with
    | none => simp [Wait.start, Vigil.start]
    | some w => exact open_ w y t hw
  obtain ⟨w', hw', hended⟩ := (h.step (.resume i)).wake_of_resumed resumed rfl begun_open hx'
  exact ⟨w', hw', hended⟩

end Orderly

theorem orderly_receive (a : Request.Arrival) (st : Settings) (id : Nat) :
    Orderly { request := Request.receive a st id } [] := by
  refine ⟨sound_receive a st id, rfl, ?_, ?_⟩
  · exact accounted_history rfl (sound_receive a st id) rfl []
  · refine ⟨?_, ?_, ?_, ?_, ?_, ?_, ?_⟩ <;> simp [Request.receive]

/-! ## The law -/

/-- However operations, the clock and the waiters on its spans take turns at a request. Every
cycle is resumed at most once, and can be resumed exactly while it is suspended. A span pairs the
handle and the channel of one cycle. A wait on it that is over has returned what resumed that
cycle. Before, what resumes the cycle is found on the channel at once; and as long as nothing
does, the time runs out as soon as a waiter is woken after its deadline. -/
theorem a_wait_returns_what_ended_the_suspension (a : Request.Arrival) (st : Settings)
    (id : Nat) (steps : List Step) :
    let s : Scene := { request := Request.receive a st id }
    let now := s.run steps
    (∀ p c, now.request.lifecycle.cycle? p = some c → ResumedOnce (s.moments steps) p c) ∧
    ∀ (i : Nat) (span : Span) (wait : Option Wait), now.spans[i]? = some ⟨span, wait⟩ →
      span.context = span.channel ∧
      (∀ w, wait = some w → BeganAs s steps i span w ∧
        ∀ x t, w.vigil = .ended x t → Returned s steps i span w x t) ∧
      ((⟨span, wait⟩ : Attended).Open →
        ∃ c, now.request.lifecycle.cycle? span.channel = some c ∧
          (c.phase ≠ .started → Ready now (s.moments steps) i span c) ∧
          (c.phase = .started → ∀ w, wait = some w → Patient now i span w)) ∧
      (wait = none → ∀ plan, OnTheClock s steps i span plan) := by
  intro s now
  have start : Orderly s [] := orderly_receive a st id
  have h : Orderly now (s.moments steps) := start.run steps
  refine ⟨fun p c hc => ?_, fun i span wait ha => ⟨h.attentive.paired i _ ha, ?_, ?_, ?_⟩⟩
  · exact h.resumedOnce hc (dispatches_resume start.sound start.path (s.events steps))
  · intro w hw
    have recorded := recorded_run start rfl steps ha hw
    have good := h.attentive.waits i _ w ha hw
    refine ⟨recorded.began, fun x t hended => ⟨fun y => ?_, ?_⟩⟩
    · have all := (good.ended x t hended).1
      have hmem : y ∈ resumptions (s.moments steps) span.channel ↔
          ∃ m ∈ s.moments steps, m.resumption? span.channel = some y := List.mem_filterMap
      rw [← hmem, all, List.mem_singleton, eq_comm]
    · rintro rfl
      exact ⟨(good.ended _ t hended).2 rfl, recorded.ranOut t hended⟩
  · intro open_
    obtain ⟨c, hc, -, -, signalled⟩ := h.cycle ha
    refine ⟨c, hc, h.ready ha open_ hc, fun started w hw => ?_⟩
    exact h.wake_of_suspended ha hw (signalled.suspended started)
  · rintro rfl plan
    have followed := (follows_firstLook h ha).rest h plan
    refine ⟨?_, (follows_firstLook h ha |>.plan h plan).ends h, timedOut_waitOn_iff h ha plan⟩
    obtain ⟨more, hops, shows_, -⟩ := followed
    refine ⟨more, hops, shows_, fun x t hended => ?_⟩
    have h' := start.run (steps ++ more)
    rw [List.nil_append] at h'
    rw [s.run_append] at h'
    exact ((h'.attentive.waits i _ _ shows_.span rfl).ended x t hended).1

end WebRequest.Suspension
