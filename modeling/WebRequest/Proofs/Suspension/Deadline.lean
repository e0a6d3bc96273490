-- How the wait of a container ends. It is over as soon as its cycle has been resumed or its
-- limit has been used up, and the time runs out exactly if the cycle is still suspended when
-- all that was planned for before the deadline has been done.
import WebRequest.Proofs.Suspension.Clock

namespace WebRequest.Suspension

open Async

section

variable {s : Scene} {moments : List Moment} {i : Nat} {span : Span} {since limit time : Nat}
  {w : Waited Request Answer} {ops : List Operation} {x : Resumption} {t : Nat}

/-! ## Waits that are over -/

theorem ended_sleep (watch : Watch Request) (h : w.vigil = .ended x t) :
    (w.sleep watch time).vigil = .ended x t := by
  unfold Waited.sleep
  split
  · exact h
  · split
    · exact h
    · rw [vigil_wake, h]
      rfl

theorem ended_settle (watch : Watch Request) (h : w.vigil = .ended x t) :
    (w.settle watch).vigil = .ended x t := by
  unfold Waited.settle
  split
  · rename_i hv _
    rw [h] at hv
    cases hv
  · exact h

theorem ended_meetDeadline (watch : Watch Request) (until_ : Option Nat)
    (h : w.vigil = .ended x t) : (w.meetDeadline watch until_).vigil = .ended x t := by
  unfold Waited.meetDeadline
  rw [h]
  exact h

theorem ended_doNext (watch : Watch Request) (p : Planned Request Answer)
    (h : w.vigil = .ended x t) : (w.doNext watch p).vigil = .ended x t := by
  have reached : (w.upTo watch p.time).vigil = .ended x t := by
    unfold Waited.upTo
    split
    · exact h
    · exact ended_sleep watch (ended_meetDeadline watch _ (ended_settle watch h))
  unfold Waited.doNext
  simp only
  split <;> exact reached

theorem ended_plan (watch : Watch Request) (plan : List (Planned Request Answer))
    (h : w.vigil = .ended x t) : (plan.foldl (Waited.doNext watch) w).vigil = .ended x t := by
  induction plan generalizing w with
  | nil => exact h
  | cons p plan ih => exact ih (ended_doNext watch p h)

/-! ## Before the deadline, and at it -/

theorem wake_early (awake : Awake since limit w) (watch : Watch Request)
    (ht : time < since + limit) : (w.sleep watch time).state = w.state := by
  rw [Waited.sleep_of_patient awake.present awake.patient]
  refine state_wake watch (look_ne_late awake.notLate fun d hd => ?_)
  rw [(awake.ahead d hd).2]
  exact ht

theorem settle_early (awake : Awake since limit w) (watch : Watch Request)
    (ht : w.time < since + limit) : (w.settle watch).state = w.state := by
  unfold Waited.settle
  split
  · exact wake_early awake watch ht
  · rfl

/-- A waiter who sleeps to a time before the deadline leaves the request alone. -/
theorem upTo_early (ord : Orderly s moments) (h : Follows s i span since limit ops w)
    (hw : w.time < since + limit) {until_ : Nat} (hu : until_ < since + limit) :
    (w.upTo (Request.watch span) until_).state = w.state ∧
      (w.upTo (Request.watch span) until_).time < since + limit := by
  unfold Waited.upTo
  split
  · exact ⟨rfl, hw⟩
  · rename_i later
    have settled := h.settle ord
    have hstate := settle_early h.awake (Request.watch span) hw
    have htime := time_settle h.awake (Request.watch span)
    have met : (w.settle (Request.watch span)).meetDeadline (Request.watch span) (some until_) =
        w.settle (Request.watch span) := by
      unfold Waited.meetDeadline
      split
      · rename_i d hv
        have hd := (settled.awake.ahead d hv).2
        have hnot : ¬ d < until_ := by omega
        simp [hnot]
      · rfl
    rw [met, time_sleep settled.awake]
    exact ⟨(wake_early settled.awake _ hu).trans hstate, hu⟩

/-- What is planned for before the deadline happens to the request, and nothing else does. -/
theorem plan_early (ord : Orderly s moments) (h : Follows s i span since limit ops w)
    (hw : w.time < since + limit) (plan : List (Nat × Operation))
    (hplan : ∀ p ∈ plan, p.1 < since + limit) :
    ((planned plan).foldl (Waited.doNext (Request.watch span)) w).state =
        after w.state (plan.map fun p => .operation p.2) ∧
      ((planned plan).foldl (Waited.doNext (Request.watch span)) w).time < since + limit := by
  induction plan generalizing w ops with
  | nil => exact ⟨rfl, hw⟩
  | cons p plan ih =>
    obtain ⟨hstate, htime⟩ := upTo_early ord h hw (hplan p List.mem_cons_self)
    have present := (h.upTo ord p.1).awake.present
    have done := h.doNext ord p.1 p.2
    have hdo : w.doNext (Request.watch span)
        { time := p.1, act := fun r => perform r (.operation p.2) } =
        { w.upTo (Request.watch span) p.1 with
          state := (perform w.state (.operation p.2)).state
          answers := (perform w.state (.operation p.2)).answer ::
            (w.upTo (Request.watch span) p.1).answers
          effects := (w.upTo (Request.watch span) p.1).effects ++
            (perform w.state (.operation p.2)).effects } := by
      simp [Waited.doNext, present, hstate]
    have next := ih done (by rw [hdo]; exact htime) fun q hq => hplan q (List.mem_cons_of_mem p hq)
    rw [hdo] at next
    simp only [planned, List.map_cons, List.foldl_cons]
    rw [hdo]
    exact next

theorem Shows.suspendedAt_eq (ord : Orderly s moments) (h : Shows s i span since limit w) :
    suspendedAt w.state span.channel = true ↔ resumptions moments span.channel = [] := by
  rw [← h.state]
  exact ord.suspended_iff h.span

/-- As long as the wait is not over, the waiter finds what the cycle was resumed with. -/
theorem Shows.arrived_eq (ord : Orderly s moments) (h : Shows s i span since limit w)
    (open_ : ∀ x t, w.vigil ≠ .ended x t) :
    (Request.watch span).arrived w.state = (resumptions moments span.channel).head? := by
  rw [← h.state]
  exact ord.arrived h.span (Attended.open_of_vigil rfl open_)

/-- A waiter who wakes up at the deadline while the cycle is suspended lets the time run out. -/
theorem sleep_deadline (ord : Orderly s moments) (h : Follows s i span since limit ops w)
    (suspended : suspendedAt w.state span.channel = true) {d : Nat}
    (hv : w.vigil = .waiting (some d)) :
    (w.sleep (Request.watch span) d).vigil = .ended .timedOut d := by
  obtain ⟨steps, -, shows_, awake⟩ := h
  have ord' := ord.run steps
  have hnone := (shows_.suspendedAt_eq ord').1 suspended
  have harrived := shows_.arrived_eq ord' (by simp [hv])
  have hanswer : ((Request.watch span).expire w.state).answer = true := by
    rw [← shows_.state]
    exact (ord'.expire_answer_iff shows_.span).2 hnone
  rw [Waited.sleep_of_patient awake.present awake.patient, vigil_wake, harrived, hnone, hv,
    hanswer]
  simp [Vigil.look, Vigil.settle]

/-! ## The whole wait -/

theorem look_start (limit time : Nat) (arrived : Option Resumption) :
    (Vigil.start limit time).look arrived time =
      match arrived with
      | some x => .ended x time
      | none => .start limit time := by
  cases arrived with
  | some x => rfl
  | none =>
    by_cases hl : limit = 0
    · simp [Vigil.start, Vigil.look, hl]
    · have later : ¬ time + limit ≤ time := by omega
      simp [Vigil.start, Vigil.look, hl, later]

/-- A wait on a span that begins now, after its first look. -/
def firstLook (s : Scene) (span : Span) : Waited Request Answer :=
  Waited.look (Request.watch span) s.time
    { state := s.request, time := s.time, vigil := .start (s.request.timeLimit span) s.time }

theorem follows_firstLook (ord : Orderly s moments) (h : s.spans[i]? = some { span }) :
    Follows s i span s.time (s.request.timeLimit span) [] (firstLook s span) := by
  have begun : Shows (s.step (.resume i)) i span s.time (s.request.timeLimit span)
      { state := s.request, time := s.time,
        vigil := .start (s.request.timeLimit span) s.time } := ⟨rfl, rfl, step_resume h⟩
  have never : s.request.arrived? span ≠ some .timedOut :=
    ord.arrived_ne_timedOut h fun w x t hw => by cases hw
  have hvigil : (firstLook s span).vigil = _ :=
    look_start (s.request.timeLimit span) s.time (s.request.arrived? span)
  refine ⟨[.resume i, .look i], rfl, begun.look, ?_⟩
  cases harr : s.request.arrived? span with
  | some x =>
    rw [harr] at hvigil never
    refine awake_of_ended rfl rfl hvigil ?_ (Nat.le_refl _)
    rintro rfl
    exact absurd rfl never
  | none =>
    rw [harr] at hvigil
    refine awake_of_waiting rfl rfl hvigil fun d hd => ?_
    split at hd
    · cases hd
    · cases hd
      exact ⟨by simp only [firstLook, Waited.look]; omega, rfl⟩

/-- The rest of a wait: what is planned, and the time until the end. -/
def rest (span : Span) (plan : List (Nat × Operation)) (w : Waited Request Answer) :
    Waited Request Answer :=
  (((planned plan).foldl (Waited.doNext (Request.watch span)) w).settle
    (Request.watch span)).meetDeadline (Request.watch span) none

theorem rest_append (span : Span) (before later : List (Nat × Operation))
    (w : Waited Request Answer) :
    rest span (before ++ later) w =
      rest span later ((planned before).foldl (Waited.doNext (Request.watch span)) w) := by
  unfold rest planned
  rw [List.map_append, List.foldl_append]

theorem Follows.rest (ord : Orderly s moments) (h : Follows s i span since limit ops w)
    (plan : List (Nat × Operation)) :
    Follows s i span since limit (ops ++ plan.map Prod.snd) (Suspension.rest span plan w) :=
  ((h.plan ord plan).settle ord).meetDeadline ord none

/-- The wait of a container on a span, from now on. -/
def waitOn (s : Scene) (span : Span) (plan : List (Nat × Operation)) : Waited Request Answer :=
  Waited.run (Request.watch span) (s.request.timeLimit span) none (planned plan) s.request s.time

theorem waitOn_eq (s : Scene) (span : Span) (plan : List (Nat × Operation)) :
    waitOn s span plan = rest span plan (firstLook s span) := rfl

/-- After the last look nothing is left to be found. -/
theorem arrived_settle {d : Option Nat} (awake : Awake since limit w) (watch : Watch Request)
    (hv : (w.settle watch).vigil = .waiting d) :
    watch.arrived (w.settle watch).state = none := by
  revert hv
  unfold Waited.settle
  split
  · rename_i x hw ha
    intro hv
    rw [Waited.sleep_of_patient awake.present awake.patient, vigil_wake, hw, ha] at hv
    cases hv
  · rename_i hne
    intro hv
    cases ha : watch.arrived w.state with
    | none => rfl
    | some x => exact absurd ha (hne d x hv)

/-- The wait is over in the end, unless the cycle is still suspended and there is no limit. -/
theorem Follows.ends (ord : Orderly s moments) (h : Follows s i span since limit ops w) :
    (∃ x t, ((w.settle (Request.watch span)).meetDeadline (Request.watch span) none).vigil =
        .ended x t) ∨
      (limit = 0 ∧ suspendedAt ((w.settle (Request.watch span)).meetDeadline
        (Request.watch span) none).state span.channel = true) := by
  have settled := h.settle ord
  obtain ⟨steps, -, shows_, awake⟩ := settled
  have ord' := ord.run steps
  cases hv : (w.settle (Request.watch span)).vigil with
  | ended x t => exact .inl ⟨x, t, ended_meetDeadline _ _ hv⟩
  | late => exact absurd hv awake.notLate
  | waiting d =>
    have harrived := arrived_settle h.awake (Request.watch span) hv
    rw [shows_.arrived_eq ord' (by simp [hv]), List.head?_eq_none_iff] at harrived
    have suspended := (shows_.suspendedAt_eq ord').2 harrived
    have good := ord'.attentive.waits i _ _ shows_.span rfl
    rcases good.waiting d hv with hd | ⟨-, resumed⟩
    · by_cases hl : limit = 0
      · right
        have met : (w.settle (Request.watch span)).meetDeadline (Request.watch span) none =
            w.settle (Request.watch span) := by
          unfold Waited.meetDeadline
          simp [hv, hd, Wait.deadline, hl]
        exact ⟨hl, by rw [met]; exact suspended⟩
      · left
        simp only [Wait.deadline, hl, if_false] at hd
        subst hd
        refine ⟨.timedOut, since + limit, ?_⟩
        have slept := sleep_deadline ord (h.settle ord) suspended hv
        unfold Waited.meetDeadline
        simpa [hv] using slept
    · exact absurd harrived resumed

/-! ## When the time runs out -/

/-- A waiter of a suspended cycle has nothing to look for. -/
theorem settle_of_suspended (ord : Orderly s moments) (h : Follows s i span since limit ops w)
    (suspended : suspendedAt w.state span.channel = true) {d : Option Nat}
    (hv : w.vigil = .waiting d) : w.settle (Request.watch span) = w := by
  obtain ⟨steps, -, shows_, -⟩ := h
  have ord' := ord.run steps
  have hnone := (shows_.suspendedAt_eq ord').1 suspended
  have harrived := shows_.arrived_eq ord' (by simp [hv])
  rw [hnone] at harrived
  unfold Waited.settle
  rw [hv, harrived]
  rfl

/-- A wait for something planned for the deadline or later does not outlast the deadline. -/
theorem doNext_at_deadline (ord : Orderly s moments) (h : Follows s i span since limit ops w)
    (suspended : suspendedAt w.state span.channel = true) {d : Nat}
    (hv : w.vigil = .waiting (some d)) {p : Planned Request Answer} (hp : d ≤ p.time) :
    (w.doNext (Request.watch span) p).vigil = .ended .timedOut d := by
  have ahead := (h.awake.ahead d hv).1
  have reached : (w.upTo (Request.watch span) p.time).vigil = .ended .timedOut d := by
    have notYet : ¬ p.time ≤ w.time := by omega
    unfold Waited.upTo
    rw [if_neg notYet, settle_of_suspended ord h suspended hv]
    have slept := sleep_deadline ord h suspended hv
    rcases Nat.lt_or_ge d p.time with hlt | hge
    · refine ended_sleep _ ?_
      unfold Waited.meetDeadline
      simpa [hv, hlt] using slept
    · have hd : d = p.time := by omega
      subst hd
      have met : w.meetDeadline (Request.watch span) (some p.time) = w := by
        unfold Waited.meetDeadline
        simp [hv]
      rw [met]
      exact slept
  unfold Waited.doNext
  simp only
  split <;> exact reached

/-- Without anything else to wait for, the waiter sleeps to the deadline. -/
theorem last_at_deadline (ord : Orderly s moments) (h : Follows s i span since limit ops w)
    (suspended : suspendedAt w.state span.channel = true) {d : Nat}
    (hv : w.vigil = .waiting (some d)) :
    ((w.settle (Request.watch span)).meetDeadline (Request.watch span) none).vigil =
      .ended .timedOut d := by
  rw [settle_of_suspended ord h suspended hv]
  unfold Waited.meetDeadline
  simpa [hv] using sleep_deadline ord h suspended hv

/-- A waiter of a suspended cycle waits for its deadline, if there is one. -/
theorem Follows.vigil_of_suspended (ord : Orderly s moments)
    (h : Follows s i span since limit ops w)
    (suspended : suspendedAt w.state span.channel = true) (hl : limit ≠ 0) :
    w.vigil = .waiting (some (since + limit)) := by
  obtain ⟨steps, -, shows_, awake⟩ := h
  have ord' := ord.run steps
  have hnone := (shows_.suspendedAt_eq ord').1 suspended
  have good := ord'.attentive.waits i _ _ shows_.span rfl
  simp only [hnone] at good
  cases hv : w.vigil with
  | late => exact absurd hv awake.notLate
  | ended x t => cases (good.ended x t hv).1
  | waiting d =>
    rcases good.waiting d hv with rfl | ⟨-, resumed⟩
    · simp [Wait.deadline, hl]
    · exact absurd rfl resumed

/-- The operations that are planned for before a time. -/
def eventsBefore (plan : List (Nat × Operation)) (time : Nat) : List Event :=
  (plan.takeWhile fun p => p.1 < time).map fun p => .operation p.2

theorem lt_of_mem_takeWhile (plan : List (Nat × Operation)) (time : Nat) :
    ∀ p ∈ plan.takeWhile fun p => p.1 < time, p.1 < time := by
  intro p hp
  exact of_decide_eq_true (List.all_eq_true.1 List.all_takeWhile p hp)

theorem le_of_head?_dropWhile (plan : List (Nat × Operation)) (time : Nat) :
    ∀ p ∈ (plan.dropWhile fun p => p.1 < time).head?, time ≤ p.1 := by
  intro p hp
  have hhead := List.head?_dropWhile_not (fun p : Nat × Operation => p.1 < time) plan
  rw [Option.mem_def.1 hp] at hhead
  simpa using hhead

/-- If the time runs out in the end, the cycle was suspended at every moment before the
deadline. -/
theorem suspended_of_timedOut (ord : Orderly s moments) (h : Follows s i span since limit ops w)
    (early : w.time < since + limit) {plan : List (Nat × Operation)}
    (ended : (rest span plan w).vigil = .ended .timedOut t) :
    suspendedAt w.state span.channel = true := by
  obtain ⟨steps, -, shows_, awake⟩ := h
  have ord₁ := ord.run steps
  have here : Follows (s.run steps) i span since limit [] w := ⟨[], rfl, shows_, awake⟩
  obtain ⟨more, -, shows', awake'⟩ := here.rest ord₁ plan
  have ord' := ord₁.run more
  by_contra hne
  obtain ⟨c, hc, -, -, signalled⟩ := ord₁.cycle shows_.span
  have resumed : ¬ c.phase = .started := by
    rw [← suspendedAt_iff hc, shows_.state]
    exact hne
  obtain ⟨x, hx, -⟩ := signalled.resumed resumed
  -- what resumed the cycle until then is all that ever resumes it
  have good' := ord'.attentive.waits i _ _ shows'.span rfl
  have kept := ord₁.resumptions_run more shows_.span hx
  have hx' : x = .timedOut := by
    have := (good'.ended _ _ ended).1
    rw [kept] at this
    exact (List.cons.inj this).1
  subst hx'
  -- but before the deadline it cannot have been the time limit
  by_cases open_ : ∀ y t, w.vigil ≠ .ended y t
  · exact ord₁.inTime shows_.span (Attended.open_of_vigil rfl open_) (by rw [hx]; simp)
  · simp only [ne_eq, not_forall, not_not] at open_
    obtain ⟨y, t', hy⟩ := open_
    have good := ord₁.attentive.waits i _ _ shows_.span rfl
    have hyx := (good.ended y t' hy).1
    rw [hx] at hyx
    obtain ⟨rfl, -⟩ := List.cons.inj hyx
    have at_ := awake.onTime t' hy
    have past := awake.past _ t' hy
    omega

/-- The time of a suspended cycle runs out at the deadline if nothing is planned for before. -/
theorem Follows.rest_of_suspended (ord : Orderly s moments)
    (h : Follows s i span since limit ops w)
    (suspended : suspendedAt w.state span.channel = true) (hl : limit ≠ 0)
    {plan : List (Nat × Operation)} (late : ∀ p ∈ plan.head?, since + limit ≤ p.1) :
    (Suspension.rest span plan w).vigil = .ended .timedOut (since + limit) := by
  have hv := h.vigil_of_suspended ord suspended hl
  cases plan with
  | nil => exact last_at_deadline ord h suspended hv
  | cons p later =>
    refine ended_meetDeadline _ _ (ended_settle _ ?_)
    simp only [planned, List.map_cons, List.foldl_cons]
    exact ended_plan _ _ (doNext_at_deadline ord h suspended hv (late p rfl))

theorem Follows.timedOut_rest_iff (ord : Orderly s moments)
    (h : Follows s i span since limit ops w) (hl : limit ≠ 0) (early : w.time < since + limit)
    (plan : List (Nat × Operation)) (t : Nat) :
    (Suspension.rest span plan w).vigil = .ended .timedOut t ↔ t = since + limit ∧
      suspendedAt (after w.state (eventsBefore plan (since + limit))) span.channel = true := by
  -- the plan up to the deadline, and the rest of it
  obtain ⟨soon, late, hsoon, rfl, hlt, hle⟩ : ∃ soon late,
      (plan.takeWhile fun p => p.1 < since + limit) = soon ∧ plan = soon ++ late ∧
        (∀ p ∈ soon, p.1 < since + limit) ∧ ∀ p ∈ late.head?, since + limit ≤ p.1 :=
    ⟨_, _, rfl, List.takeWhile_append_dropWhile.symm, lt_of_mem_takeWhile plan _,
      le_of_head?_dropWhile plan _⟩
  obtain ⟨hstate, htime⟩ := plan_early ord h early soon hlt
  have reached := h.plan ord soon
  rw [rest_append, eventsBefore, hsoon, ← hstate]
  constructor
  · intro ended
    have onTime := (reached.rest ord late).awake.onTime t ended
    exact ⟨onTime, suspended_of_timedOut ord reached htime ended⟩
  · rintro ⟨rfl, suspended⟩
    exact reached.rest_of_suspended ord suspended hl hle

/-- The time runs out at the deadline if the cycle is suspended once all that was planned for
before has been done, and otherwise never. -/
theorem timedOut_waitOn_iff (ord : Orderly s moments) (h : s.spans[i]? = some { span })
    (plan : List (Nat × Operation)) (t : Nat) :
    (waitOn s span plan).vigil = .ended .timedOut t ↔
      s.request.timeLimit span ≠ 0 ∧ t = s.time + s.request.timeLimit span ∧
        suspendedAt (after s.request (eventsBefore plan (s.time + s.request.timeLimit span)))
          span.channel = true := by
  have first := follows_firstLook ord h
  rw [waitOn_eq]
  by_cases hl : s.request.timeLimit span = 0
  · constructor
    · intro ended
      obtain ⟨more, -, shows_, -⟩ := first.rest ord plan
      have good := (ord.run more).attentive.waits i _ _ shows_.span rfl
      exact absurd hl ((good.ended _ t ended).2 rfl).1
    · rintro ⟨hne, -⟩
      exact absurd hl hne
  · have early : (firstLook s span).time < s.time + s.request.timeLimit span := by
      simp only [firstLook, Waited.look]
      omega
    rw [first.timedOut_rest_iff ord hl early plan t]
    exact (and_iff_right hl).symm

end

end WebRequest.Suspension
