-- The resumption reaches whoever waits for it. A span pairs the handle of a cycle with the
-- channel of the same cycle, and nobody but its own waiter lets the time of that cycle run
-- out. So until the wait is over, the channel holds exactly what the cycle was resumed with.
import WebRequest.Proofs.Suspension.Waits

namespace WebRequest.Suspension

open Async

/-! ## Who can be heard -/

/-- The cycle at a place is there, and its resumption can be received. -/
def Heard (l : Lifecycle) (place : Nat) : Prop :=
  ∃ c, l.cycle? place = some c ∧ c.heard = true

theorem heard_put {l : Lifecycle} {p q : Nat} {d d' : Cycle} (hd : l.cycle? q = some d)
    (same : d'.heard = d.heard) (h : Heard l p) : Heard (put l q d') p := by
  obtain ⟨c, hc, heard⟩ := h
  by_cases hq : q = p
  · subst hq
    rw [hc, Option.some.injEq] at hd
    subst hd
    exact ⟨d', cycle?_put_self hc d', same.trans heard⟩
  · exact ⟨c, by rw [cycle?_put_ne l hq, hc], heard⟩

theorem heard_dropReceiver {l : Lifecycle} {p : Nat} (h : Heard l p)
    (other : l.receiver ≠ some p) : Heard l.dropReceiver p := by
  obtain ⟨c, hc, heard⟩ := h
  exact ⟨c, by rw [cycle?_dropReceiver, hc, Option.map_some, if_neg other], heard⟩

theorem heard_launch {l : Lifecycle} {p : Nat} (e : Exchange) (h : Heard l p)
    (other : l.receiver ≠ some p) : Heard (l.launch e) p := by
  obtain ⟨c, hc, heard⟩ := heard_dropReceiver h other
  obtain ⟨c₀, hc₀, -⟩ := h
  exact ⟨c, by rw [cycle?_launch_old e (lt_of_cycle? hc₀), hc], heard⟩

theorem Called.heard_eq {c c' : Cycle} {call : Call} {ns : List Notice}
    (h : Called c call c' ns) : c'.heard = c.heard := by
  cases h <;> rfl

/-- A cycle whose receiver is not dropped goes on being heard. -/
theorem heard_change {l l' : Lifecycle} {e : Event} {a : Answer} {ns : List Notice} {p : Nat}
    (hch : Change l e a l' ns) (h : Heard l p)
    (kept : l.receiver = some p → l'.receiver = some p) : Heard l' p := by
  cases hch with
  | refused | absent | contextGiven | stayed | notExpired | spanGiven => exact h
  | noSpan => exact heard_dropReceiver h fun hr => by simpa using kept hr
  | launched sync =>
    refine heard_launch _ h fun hr => ?_
    obtain ⟨c, hc, -⟩ := h
    have hlt := lt_of_cycle? hc
    have hp := kept hr
    simp only [launch_receiver, Option.some.injEq] at hp
    omega
  | relaunched current cycle target =>
    refine heard_launch _ (heard_put cycle rfl h) fun hr => ?_
    obtain ⟨c, hc, -⟩ := h
    have hlt := lt_of_cycle? hc
    have hp := kept hr
    simp only [launch_receiver, length_cycles_put, Option.some.injEq] at hp
    omega
  | entered current cycle held pending => exact heard_put cycle rfl h
  | @returned q d current cycle target =>
    have kept : Heard (put l q (closed d)) p := heard_put cycle rfl h
    exact kept
  | called cycle hcalled => exact heard_put cycle hcalled.heard_eq h
  | expired cycle held started => exact heard_put cycle rfl h

/-- A receiver is that of before, or that of the cycle that a start has just added. -/
theorem receiver_of_change {l l' : Lifecycle} {e : Event} {a : Answer} {ns : List Notice}
    {p : Nat} (hch : Change l e a l' ns) (hp : l'.receiver = some p) :
    l.receiver = some p ∨ (l.cycle? p = none ∧ Heard l' p) := by
  cases hch with
  | refused | absent | contextGiven | stayed | notExpired => exact .inl hp
  | noSpan => simp at hp
  | spanGiven => cases hp
  | launched sync =>
    simp only [launch_receiver, Option.some.injEq] at hp
    subst hp
    exact .inr ⟨List.getElem?_eq_none (Nat.le_refl _), _, cycle?_launch_new l _, rfl⟩
  | @relaunched exchange q c current cycle target =>
    simp only [launch_receiver, length_cycles_put, Option.some.injEq] at hp
    subst hp
    have hnew := cycle?_launch_new (put l q (closed c)) exchange
    rw [length_cycles_put] at hnew
    exact .inr ⟨List.getElem?_eq_none (Nat.le_refl _), _, hnew, rfl⟩
  | entered | returned | called | expired => exact .inl hp

/-- A span pairs the handle and the channel of one cycle, and the channel is not to be had
any more. -/
theorem span_of_change {l l' : Lifecycle} {e : Event} {span : Span} {ns : List Notice}
    (hs : Sound l) (hch : Change l e (.span span) l' ns) :
    span.context = span.channel ∧ l.receiver = some span.channel ∧
      l' = { l with receiver := none } := by
  cases hch with
  | @spanGiven place channel current receiver =>
    have hplace := hs.current_last place current
    have hchannel := hs.receiver_last channel receiver
    exact ⟨by simp only; omega, receiver, rfl⟩

/-! ## One wait -/

/-- The limit of the wait has been used up at a time. -/
def Wait.OutOfTime (w : Wait) (time : Nat) : Prop := w.limit ≠ 0 ∧ w.since + w.limit ≤ time

/-- When the limit of the wait is used up. -/
def Wait.deadline (w : Wait) : Option Nat :=
  if w.limit = 0 then none else some (w.since + w.limit)

/-- What holds of a wait on a cycle that has been resumed with `rs` so far. -/
structure Wait.Good (time : Nat) (rs : List Resumption) (w : Wait) : Prop where
  waiting : ∀ d, w.vigil = .waiting d → d = w.deadline ∨ (d = none ∧ rs ≠ [])
  late : w.vigil = .late → w.OutOfTime time
  ended : ∀ x t, w.vigil = .ended x t → rs = [x] ∧ (x = .timedOut → w.OutOfTime t)

namespace Wait.Good

theorem start (r : Request) (time : Nat) (span : Span) (rs : List Resumption) :
    (Wait.start r time span).Good time rs := by
  refine ⟨fun d hd => ?_, by simp [Wait.start, Vigil.start], by simp [Wait.start, Vigil.start]⟩
  simp only [Wait.start, Vigil.start, Vigil.waiting.injEq] at hd
  exact .inl hd.symm

/-- Time and further resumptions keep what is known of a wait. -/
theorem mono {time time' : Nat} {rs rs' : List Resumption} {w : Wait} (h : w.Good time rs)
    (hrs : ∀ x, rs = [x] → rs' = [x]) (hne : rs ≠ [] → rs' ≠ []) (ht : time ≤ time') :
    w.Good time' rs' := by
  refine ⟨fun d hd => ?_, fun hl => ?_, fun x t hv => ?_⟩
  · exact (h.waiting d hd).imp id fun hd => ⟨hd.1, hne hd.2⟩
  · exact ⟨(h.late hl).1, Nat.le_trans (h.late hl).2 ht⟩
  · exact ⟨hrs x (h.ended x t hv).1, (h.ended x t hv).2⟩

/-- Looking for the resumption finds what the cycle was resumed with. -/
theorem look {time : Nat} {rs : List Resumption} {w : Wait} (h : w.Good time rs)
    {arrived : Option Resumption}
    (found : ∀ d x, w.vigil = .waiting d → arrived = some x → rs = [x] ∧ x ≠ .timedOut) :
    (w.turn (·.look arrived time)).Good time rs := by
  cases hv : w.vigil with
  | late => rwa [Wait.turn_eq_self (by rw [hv]; rfl)]
  | ended x t => rwa [Wait.turn_eq_self (by rw [hv]; rfl)]
  | waiting d =>
    cases ha : arrived with
    | some x =>
      obtain ⟨hrs, hx⟩ := found d x hv ha
      refine ⟨by simp [Vigil.look, hv], by simp [Vigil.look, hv], ?_⟩
      rintro y t hy
      simp only [Wait.turn_vigil, Vigil.look, hv, Vigil.ended.injEq] at hy
      obtain ⟨rfl, rfl⟩ := hy
      exact ⟨hrs, fun ht => absurd ht hx⟩
    | none =>
      by_cases hd : d.any (· ≤ time) = true
      · refine ⟨by simp [Vigil.look, hv, hd], fun _ => ?_, by simp [Vigil.look, hv, hd]⟩
        rcases h.waiting d hv with rfl | ⟨rfl, -⟩
        · unfold Wait.deadline at hd
          split at hd
          · simp at hd
          · exact ⟨‹_›, of_decide_eq_true hd⟩
        · simp at hd
      · rwa [Wait.turn_eq_self (by rw [hv, Vigil.look, if_neg hd])]

/-- A look that finds nothing sees whether the limit of the wait has been used up. -/
theorem look_none {time : Nat} {w : Wait} (h : w.Good time []) :
    (w.OutOfTime time → (w.turn (·.look none time)).vigil = .late) ∧
      (¬ w.OutOfTime time → w.turn (·.look none time) = w ∧ w.vigil ≠ .late) := by
  cases hv : w.vigil with
  | ended x t => cases (h.ended x t hv).1
  | late =>
    refine ⟨fun _ => by simp [Vigil.look, hv], fun inTime => absurd (h.late hv) inTime⟩
  | waiting d =>
    obtain rfl : d = w.deadline := by
      rcases h.waiting d hv with hd | ⟨-, resumed⟩
      · exact hd
      · exact absurd rfl resumed
    have passed : w.deadline.any (· ≤ time) = true ↔ w.OutOfTime time := by
      unfold Wait.deadline Wait.OutOfTime
      split <;> simp_all
    refine ⟨fun out => ?_, fun inTime => ⟨Wait.turn_eq_self ?_, by simp⟩⟩
    · rw [Wait.turn_vigil, hv, Vigil.look, if_pos (passed.2 out)]
    · rw [hv, Vigil.look, if_neg fun hp => inTime (passed.1 hp)]

/-- Telling the cycle that its time is over ends the wait if the time ran out, and otherwise
something else has resumed the cycle. -/
theorem settle {time : Nat} {rs rs' : List Resumption} {w : Wait} (h : w.Good time rs)
    (late : w.vigil = .late) {expired : Bool} (yes : expired = true → rs' = [.timedOut])
    (no : expired = false → rs' ≠ []) : (w.turn (·.settle expired time)).Good time rs' := by
  cases expired with
  | true =>
    refine ⟨by simp [Vigil.settle, late], by simp [Vigil.settle, late], fun x t hv => ?_⟩
    simp only [Wait.turn_vigil, late, Vigil.settle, if_true, Vigil.ended.injEq] at hv
    obtain ⟨rfl, rfl⟩ := hv
    exact ⟨yes rfl, fun _ => h.late late⟩
  | false =>
    refine ⟨fun d hd => ?_, by simp [Vigil.settle, late], by simp [Vigil.settle, late]⟩
    simp only [Wait.turn_vigil, late, Vigil.settle, Bool.false_eq_true, if_false,
      Vigil.waiting.injEq] at hd
    exact .inr ⟨hd.symm, no rfl⟩

end Wait.Good

/-- The answer of letting the time of a span run out: its cycle was suspended. -/
theorem expire_answer {r : Request} (hs : Sound r.lifecycle) (span : Span) {c : Cycle}
    (hc : r.lifecycle.cycle? span.context = some c) :
    (r.expire span).answer = true ↔ c.phase = .started := by
  have fresh := (hs.fits _ c hc).good.fresh
  simp only [Request.expire, Request.callCycle, Lifecycle.call, hc, Option.map_some,
    Option.getD_some, Outcome.within, Cycle.expire]
  split
  · rename_i h
    simp only [Bool.or_eq_true, decide_eq_true_eq] at h
    constructor
    · intro hf
      cases hf
    · intro started
      rcases h with hsup | hne
      · rw [(fresh started).2.1] at hsup
        cases hsup
      · exact absurd started hne
  · rename_i h
    simp only [Bool.or_eq_true, decide_eq_true_eq, not_or, not_not] at h
    exact ⟨fun _ => h.2, fun _ => rfl⟩

/-- What is found on the channel of a cycle that is heard is what it was resumed with. -/
theorem received?_eq {rs : List Resumption} {c : Cycle} (good : Good c) (h : Signalled rs c)
    (heard : c.heard = true) (inTime : .timedOut ∉ rs) : c.received? = rs.head? := by
  unfold Cycle.received?
  by_cases started : c.phase = .started
  · rw [(good.fresh started).2.2, good.armed_iff.2 started, h.suspended started]
    rfl
  · obtain ⟨x, hrs, hx⟩ := h.resumed started
    have hne : x ≠ .timedOut := by
      rintro rfl
      exact inTime (by simp [hrs])
    rw [hx heard hne, hrs]
    rfl

/-! ## All waits -/

/-- What holds of the spans that were taken, and of the waits on them. -/
structure Attentive (s : Scene) (moments : List Moment) : Prop where
  paired : ∀ (i : Nat) (a : Attended), s.spans[i]? = some a → a.span.context = a.span.channel
  hears : ∀ (i : Nat) (a : Attended), s.spans[i]? = some a →
    Heard s.request.lifecycle a.span.channel
  given : ∀ (i : Nat) (a : Attended), s.spans[i]? = some a →
    s.request.lifecycle.receiver ≠ some a.span.channel
  receiver : ∀ p, s.request.lifecycle.receiver = some p → Heard s.request.lifecycle p
  apart : ∀ (i j : Nat) (a b : Attended), s.spans[i]? = some a → s.spans[j]? = some b →
    a.span.channel = b.span.channel → i = j
  waits : ∀ (i : Nat) (a : Attended) (w : Wait), s.spans[i]? = some a → a.wait = some w →
    w.Good s.time (resumptions moments a.span.channel)
  ranOut : ∀ p, .timedOut ∈ resumptions moments p → ∃ (i : Nat) (a : Attended) (w : Wait) (t : Nat),
    s.spans[i]? = some a ∧ a.span.channel = p ∧ a.wait = some w ∧ w.vigil = .ended .timedOut t

/-- What holds of a scene after a run that left these moments. -/
structure Orderly (s : Scene) (moments : List Moment) : Prop where
  sound : Sound s.request.lifecycle
  path : s.request.lifecycle.path = s.request.head.uri.path
  accounted : Accounted moments s.request.lifecycle
  attentive : Attentive s moments

/-- The wait on the span is not over; it may not even have begun. -/
def Attended.Open (a : Attended) : Prop := ∀ w x t, a.wait = some w → w.vigil ≠ .ended x t

theorem Attended.open_of_vigil {a : Attended} {w : Wait} (hw : a.wait = some w)
    (hv : ∀ x t, w.vigil ≠ .ended x t) : a.Open := by
  intro w₁ x t hw₁
  rw [hw, Option.some.injEq] at hw₁
  subst hw₁
  exact hv x t

namespace Orderly

variable {s : Scene} {moments : List Moment} {i : Nat} {a : Attended} {c : Cycle}

/-- As long as the wait on a span is not over, the time of its cycle has not run out. -/
theorem inTime (h : Orderly s moments) (ha : s.spans[i]? = some a) (open_ : a.Open) :
    .timedOut ∉ resumptions moments a.span.channel := by
  intro hmem
  obtain ⟨j, b, w, t, hb, hchannel, hw, hended⟩ := h.attentive.ranOut _ hmem
  have hj := h.attentive.apart j i b a hb ha hchannel
  subst hj
  rw [ha, Option.some.injEq] at hb
  subst hb
  exact open_ w _ t hw hended

theorem cycle (h : Orderly s moments) (ha : s.spans[i]? = some a) :
    ∃ c, s.request.lifecycle.cycle? a.span.channel = some c ∧ c.heard = true ∧ Good c ∧
      Signalled (resumptions moments a.span.channel) c := by
  obtain ⟨c, hc, heard⟩ := h.attentive.hears i a ha
  exact ⟨c, hc, heard, (h.sound.fits _ c hc).good, h.accounted.signalled _ c hc⟩

/-- Until the wait on a span is over, the channel holds what its cycle was resumed with. -/
theorem arrived (h : Orderly s moments) (ha : s.spans[i]? = some a) (open_ : a.Open) :
    s.request.arrived? a.span = (resumptions moments a.span.channel).head? := by
  obtain ⟨c, hc, heard, good, signalled⟩ := h.cycle ha
  rw [Request.arrived?, hc]
  exact received?_eq good signalled heard (h.inTime ha open_)

/-- Nobody finds on the channel that the time has run out. -/
theorem arrived_ne_timedOut (h : Orderly s moments) (ha : s.spans[i]? = some a)
    (open_ : a.Open) : s.request.arrived? a.span ≠ some .timedOut := by
  rw [h.arrived ha open_]
  intro hhead
  exact h.inTime ha open_ (List.mem_of_head? hhead)

/-- The cycle of a span is suspended exactly as long as nothing has resumed it. -/
theorem suspended_iff (h : Orderly s moments) (ha : s.spans[i]? = some a) :
    suspendedAt s.request a.span.channel = true ↔ resumptions moments a.span.channel = [] := by
  obtain ⟨c, hc, -, -, signalled⟩ := h.cycle ha
  rw [suspendedAt_iff hc, signalled.eq_nil_iff]

/-- Letting the time run out answers whether the cycle was suspended. -/
theorem expire_answer_iff (h : Orderly s moments) (ha : s.spans[i]? = some a) :
    (s.request.expire a.span).answer = true ↔ resumptions moments a.span.channel = [] := by
  obtain ⟨c, hc, -, -, signalled⟩ := h.cycle ha
  have paired := h.attentive.paired i a ha
  rw [signalled.eq_nil_iff]
  exact expire_answer h.sound a.span (paired ▸ hc)

end Orderly

/-! ## Every step keeps them -/

theorem Turned.span_eq {s : Scene} {i : Nat} {st : Step} {a a' : Attended}
    (h : Turned s i st a a') : a'.span = a.span := by
  cases h <;> rfl

theorem Turned.ended {s : Scene} {i : Nat} {st : Step} {a a' : Attended} {w : Wait}
    {x : Resumption} {t : Nat} (h : Turned s i st a a') (hw : a.wait = some w)
    (ended : w.vigil = .ended x t) : ∃ w', a'.wait = some w' ∧ w'.vigil = .ended x t := by
  cases h with
  | kept => exact ⟨w, hw, ended⟩
  | begun fresh =>
    rw [fresh] at hw
    cases hw
  | @looked _ w₁ begun =>
    rw [hw, Option.some.injEq] at begun
    subst begun
    exact ⟨_, rfl, by simp [Vigil.look, ended]⟩
  | @expired _ w₁ begun late =>
    rw [hw, Option.some.injEq] at begun
    subst begun
    rw [ended] at late
    cases late

/-- A step does nothing to the request, or lets one event happen to it. -/
theorem request_step_cases (s : Scene) (st : Step) :
    (s.event? st = none ∧ (s.step st).request = s.request) ∨
      ∃ e, s.event? st = some e ∧ (s.step st).request = (perform s.request e).state := by
  have hreq := s.request_step st
  cases he : s.event? st with
  | none =>
    rw [he] at hreq
    exact .inl ⟨rfl, hreq⟩
  | some e =>
    rw [he] at hreq
    exact .inr ⟨e, rfl, hreq⟩

/-- The moments that a step adds. -/
def Scene.momentsOf (s : Scene) (st : Step) : List Moment :=
  history s.request (s.event? st).toList

theorem accounted_step {s : Scene} {moments : List Moment} (h : Orderly s moments) (st : Step) :
    Accounted (moments ++ s.momentsOf st) (s.step st).request.lifecycle := by
  unfold Scene.momentsOf
  rcases request_step_cases s st with ⟨he, hreq⟩ | ⟨e, he, hreq⟩
  · rw [he, hreq]
    simpa using h.accounted
  · rw [he, hreq]
    exact accounted_snoc h.sound h.path h.accounted e

/-- A step does not take away what a taken span waits for. -/
theorem hears_step {s : Scene} {p : Nat} (st : Step) (heard : Heard s.request.lifecycle p)
    (given : s.request.lifecycle.receiver ≠ some p) :
    Heard (s.step st).request.lifecycle p ∧ (s.step st).request.lifecycle.receiver ≠ some p := by
  rcases request_step_cases s st with ⟨-, hreq⟩ | ⟨e, -, hreq⟩
  · rw [hreq]
    exact ⟨heard, given⟩
  · rw [hreq]
    have hch := changedBy_perform s.request e
    refine ⟨heard_change hch heard fun hr => absurd hr given, fun hr => ?_⟩
    rcases receiver_of_change hch hr with hold | ⟨hnone, -⟩
    · exact given hold
    · obtain ⟨c, hc, -⟩ := heard
      rw [hnone] at hc
      cases hc

theorem lateSpan?_of_late {s : Scene} {i : Nat} {a : Attended} {w : Wait}
    (ha : s.spans[i]? = some a) (begun : a.wait = some w) (late : w.vigil = .late) :
    s.lateSpan? i = some a.span := by
  have hlate : a.isLate = true := by simp [Attended.isLate, begun, late]
  simp [Scene.lateSpan?, ha, hlate, Option.filter]

/-- A waiter whose deadline has passed tells the cycle of its span. -/
theorem momentsOf_expire {s : Scene} {i : Nat} {a : Attended} {w : Wait}
    (ha : s.spans[i]? = some a) (begun : a.wait = some w) (late : w.vigil = .late) :
    s.momentsOf (.expire i) = [⟨s.request, .expiry a.span.context⟩] := by
  rw [Scene.momentsOf, Scene.event?, lateSpan?_of_late ha begun late]
  rfl

theorem step_expire {s : Scene} {i : Nat} {a : Attended} {w : Wait}
    (ha : s.spans[i]? = some a) (begun : a.wait = some w) (late : w.vigil = .late) :
    (s.step (.expire i)).spans[i]? =
      some { a with wait := some (w.turn (·.settle (s.request.expire a.span).answer s.time)) } := by
  have hl := lateSpan?_of_late ha begun late
  simp only [Scene.step, hl]
  rw [getElem?_attend, if_pos rfl, ha, Option.map_some, Attended.turn, begun]
  rfl

/-- A span after a step is one from before, or the one that was just taken. -/
theorem span_step_cases {s : Scene} {i : Nat} {a' : Attended} {st : Step}
    (h' : (s.step st).spans[i]? = some a') :
    (∃ a, s.spans[i]? = some a ∧ Turned s i st a a') ∨
      (s.spans[i]? = none ∧ ∃ op span, st = .operate op ∧
        (perform s.request (.operation op)).answer = .span span ∧ a' = { span } ∧
        i = s.spans.length) := by
  cases ha : s.spans[i]? with
  | none => exact .inr ⟨rfl, taken_step ha h'⟩
  | some a =>
    obtain ⟨a₁, ha₁, turned⟩ := turned_step st ha
    rw [h', Option.some.injEq] at ha₁
    subst ha₁
    exact .inl ⟨a, rfl, turned⟩

namespace Orderly

variable {s : Scene} {moments : List Moment}

theorem receiver_step (h : Orderly s moments) (st : Step) {p : Nat}
    (hp : (s.step st).request.lifecycle.receiver = some p) :
    Heard (s.step st).request.lifecycle p := by
  rcases request_step_cases s st with ⟨-, hreq⟩ | ⟨e, -, hreq⟩
  · rw [hreq] at hp ⊢
    exact h.attentive.receiver p hp
  · rw [hreq] at hp ⊢
    have hch := changedBy_perform s.request e
    rcases receiver_of_change hch hp with hold | ⟨-, hnew⟩
    · exact heard_change hch (h.attentive.receiver p hold) fun _ => hp
    · exact hnew

/-- What a span that was just taken pairs, and what is left of it. -/
theorem taken (h : Orderly s moments) {op : Operation} {span : Span}
    (ha : (perform s.request (.operation op)).answer = .span span) :
    span.context = span.channel ∧ s.request.lifecycle.receiver = some span.channel ∧
      Heard (s.step (.operate op)).request.lifecycle span.channel ∧
      (s.step (.operate op)).request.lifecycle.receiver ≠ some span.channel := by
  have hch := changedBy_perform s.request (.operation op)
  unfold ChangedBy at hch
  rw [ha] at hch
  obtain ⟨paired, receiver, hl⟩ := span_of_change h.sound hch
  have hl' : (s.step (.operate op)).request.lifecycle =
      { s.request.lifecycle with receiver := none } := hl
  rw [hl']
  exact ⟨paired, receiver, h.attentive.receiver _ receiver, by simp⟩

theorem resumptions_step (h : Orderly s moments) (st : Step) {p : Nat}
    (heard : Heard (s.step st).request.lifecycle p) {x : Resumption}
    (hx : resumptions moments p = [x]) : resumptions (moments ++ s.momentsOf st) p = [x] := by
  obtain ⟨c, hc, -⟩ := heard
  have signalled := (accounted_step h st).signalled p c hc
  rw [resumptions, List.filterMap_append] at signalled ⊢
  exact signalled.unchanged hx

/-- A waiter who lets the time run out has resumed the cycle by that, and nothing else has. -/
theorem resumptions_expire (h : Orderly s moments) {i : Nat} {a : Attended} {w : Wait}
    (ha : s.spans[i]? = some a) (begun : a.wait = some w) (late : w.vigil = .late)
    (expired : (s.request.expire a.span).answer = true) :
    resumptions (moments ++ s.momentsOf (.expire i)) a.span.channel = [.timedOut] := by
  have hevent := (Scene.expire_eq s.request a.span).2.1 expired
  rw [momentsOf_expire ha begun late, resumptions_snoc, (h.expire_answer_iff ha).1 expired,
    Moment.resumption?]
  change (resumption? _ _ _ (perform s.request _).answer).toList = _
  rw [hevent, h.attentive.paired i a ha, resumption?, if_pos rfl]
  rfl

theorem waits_turned (h : Orderly s moments) {st : Step} {i : Nat} {a a' : Attended} {w' : Wait}
    (ha : s.spans[i]? = some a) (turned : Turned s i st a a') (hw' : a'.wait = some w') :
    w'.Good (s.step st).time (resumptions (moments ++ s.momentsOf st) a.span.channel) := by
  have heard := (hears_step st (h.attentive.hears i a ha) (h.attentive.given i a ha)).1
  have grow : ∀ x, resumptions moments a.span.channel = [x] →
      resumptions (moments ++ s.momentsOf st) a.span.channel = [x] :=
    fun x hx => h.resumptions_step st heard hx
  have grow_ne : resumptions moments a.span.channel ≠ [] →
      resumptions (moments ++ s.momentsOf st) a.span.channel ≠ [] := by
    rw [resumptions, resumptions, List.filterMap_append]
    intro hne happ
    exact hne (List.append_eq_nil_iff.1 happ).1
  cases turned with
  | kept => exact (h.attentive.waits i a w' ha hw').mono grow grow_ne (s.time_step_le st)
  | begun fresh =>
    cases hw'
    exact .start s.request s.time a.span _
  | @looked _ w begun =>
    cases hw'
    have same : moments ++ s.momentsOf (.look i) = moments := List.append_nil _
    rw [same]
    refine (h.attentive.waits i a w ha begun).look fun d x hv harr => ?_
    have open_ : a.Open := Attended.open_of_vigil begun (by simp [hv])
    have never := h.arrived_ne_timedOut ha open_
    obtain ⟨c, -, -, -, signalled⟩ := h.cycle ha
    refine ⟨signalled.eq_of_head? ((h.arrived ha open_).symm.trans harr), ?_⟩
    rintro rfl
    exact never harr
  | @expired _ w begun late =>
    cases hw'
    rw [s.time_step_expire]
    refine (h.attentive.waits i a w ha begun).settle late (fun yes => ?_) fun no => grow_ne ?_
    · exact h.resumptions_expire ha begun late yes
    · rw [ne_eq, ← h.expire_answer_iff ha, no]
      exact Bool.false_ne_true

theorem ranOut_step (h : Orderly s moments) (st : Step) {p : Nat}
    (hmem : .timedOut ∈ resumptions (moments ++ s.momentsOf st) p) :
    ∃ (i : Nat) (a : Attended) (w : Wait) (t : Nat), (s.step st).spans[i]? = some a ∧
      a.span.channel = p ∧ a.wait = some w ∧ w.vigil = .ended .timedOut t := by
  rw [resumptions, List.filterMap_append, List.mem_append] at hmem
  rcases hmem with hold | hnew
  · obtain ⟨i, a, w, t, ha, hchannel, hw, hended⟩ := h.attentive.ranOut p hold
    obtain ⟨a', ha', turned⟩ := turned_step st ha
    obtain ⟨w', hw', hended'⟩ := turned.ended hw hended
    exact ⟨i, a', w', t, ha', by rw [turned.span_eq, hchannel], hw', hended'⟩
  · obtain ⟨m, hm, hresumed⟩ := List.mem_filterMap.1 hnew
    cases st with
    | operate op =>
      simp only [Scene.momentsOf, Scene.event?, Option.toList_some, Runs.history_cons,
        Runs.history_nil, List.mem_singleton] at hm
      subst hm
      exact absurd hresumed (resumption?_ne_timedOut _ _ _ _)
    | pass ms => cases hm
    | resume i => cases hm
    | look i => cases hm
    | expire i =>
      cases hl : s.lateSpan? i with
      | none =>
        rw [Scene.momentsOf, Scene.event?, hl] at hm
        cases hm
      | some span =>
        obtain ⟨a, w, ha, rfl, hw, late⟩ := lateSpan?_eq_some hl
        rw [momentsOf_expire ha hw late, List.mem_singleton] at hm
        subst hm
        obtain ⟨hplace, hevent⟩ := of_resumption?_expiry hresumed
        have hanswer := (Scene.expire_eq s.request a.span).2.2 hevent
        refine ⟨i, _, _, s.time, step_expire ha hw late, ?_, rfl, ?_⟩
        · rw [← hplace, ← h.attentive.paired i a ha]
        · rw [Wait.turn_vigil, late, hanswer]
          rfl

/-- Every step keeps a scene orderly. -/
theorem step (h : Orderly s moments) (st : Step) :
    Orderly (s.step st) (moments ++ s.momentsOf st) := by
  refine ⟨?_, ?_, accounted_step h st, ?_, ?_, ?_, fun p => h.receiver_step st, ?_, ?_,
    fun p => h.ranOut_step st⟩
  · rw [s.request_step]
    exact sound_after h.sound _
  · rw [s.request_step]
    exact path_after h.path _
  · intro i a' ha'
    rcases span_step_cases ha' with ⟨a, ha, turned⟩ | ⟨-, op, span, rfl, hans, rfl, -⟩
    · rw [turned.span_eq]
      exact h.attentive.paired i a ha
    · exact (h.taken hans).1
  · intro i a' ha'
    rcases span_step_cases ha' with ⟨a, ha, turned⟩ | ⟨-, op, span, rfl, hans, rfl, -⟩
    · rw [turned.span_eq]
      exact (hears_step st (h.attentive.hears i a ha) (h.attentive.given i a ha)).1
    · exact (h.taken hans).2.2.1
  · intro i a' ha'
    rcases span_step_cases ha' with ⟨a, ha, turned⟩ | ⟨-, op, span, rfl, hans, rfl, -⟩
    · rw [turned.span_eq]
      exact (hears_step st (h.attentive.hears i a ha) (h.attentive.given i a ha)).2
    · exact (h.taken hans).2.2.2
  · intro i j a' b' ha' hb' same
    rcases span_step_cases ha' with ⟨a, ha, turned⟩ | ⟨-, op, span, rfl, hans, rfl, hi⟩
    · rcases span_step_cases hb' with ⟨b, hb, turned'⟩ | ⟨-, op, span, rfl, hans, rfl, -⟩
      · rw [turned.span_eq, turned'.span_eq] at same
        exact h.attentive.apart i j a b ha hb same
      · rw [turned.span_eq] at same
        exact absurd (same ▸ (h.taken hans).2.1) (h.attentive.given i a ha)
    · rcases span_step_cases hb' with ⟨b, hb, turned'⟩ | ⟨-, op', span', -, -, -, hj⟩
      · rw [turned'.span_eq] at same
        exact absurd (same ▸ (h.taken hans).2.1) (h.attentive.given j b hb)
      · rw [hi, hj]
  · intro i a' w' ha' hw'
    rcases span_step_cases ha' with ⟨a, ha, turned⟩ | ⟨-, op, span, rfl, hans, rfl, -⟩
    · rw [turned.span_eq]
      exact h.waits_turned ha turned hw'
    · cases hw'

/-- Every run from an orderly scene leads to an orderly one. -/
theorem run (h : Orderly s moments) (steps : List Step) :
    Orderly (s.run steps) (moments ++ s.moments steps) := by
  induction steps using List.reverseRecOn with
  | nil => simpa [Scene.moments, Scene.events] using h
  | append_singleton steps st ih =>
    rw [s.run_snoc, s.moments_snoc, ← List.append_assoc]
    exact ih.step st

/-- What a cycle was resumed with is all that it is ever resumed with. -/
theorem resumptions_run (h : Orderly s moments) (steps : List Step) {i : Nat} {a : Attended}
    (ha : s.spans[i]? = some a) {x : Resumption}
    (hx : resumptions moments a.span.channel = [x]) :
    resumptions (moments ++ s.moments steps) a.span.channel = [x] := by
  have held : ∃ a', (s.run steps).spans[i]? = some a' ∧ a'.span = a.span := by
    induction steps using List.reverseRecOn with
    | nil => exact ⟨a, ha, rfl⟩
    | append_singleton steps st ih =>
      obtain ⟨a₁, ha₁, hspan⟩ := ih
      obtain ⟨a', ha', turned⟩ := turned_step st ha₁
      rw [s.run_snoc]
      exact ⟨a', ha', turned.span_eq.trans hspan⟩
  obtain ⟨a', ha', hspan⟩ := held
  obtain ⟨c, hc, -, -, signalled⟩ := (h.run steps).cycle ha'
  rw [hspan, resumptions, List.filterMap_append] at signalled
  rw [resumptions, List.filterMap_append]
  exact signalled.unchanged hx

end Orderly

end WebRequest.Suspension
