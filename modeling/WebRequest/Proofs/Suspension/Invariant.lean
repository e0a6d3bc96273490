-- The invariant of the suspensions of a request. Only the last cycle can be current, and
-- every other one has been taken off; a cycle can be resumed exactly while it is started,
-- and keeps no listener once it is over.
import WebRequest.Proofs.Suspension.Change

namespace WebRequest.Suspension

open Async

/-! ## The invariant -/

/-- What holds of every cycle by itself. -/
structure Good (c : Cycle) : Prop where
  armed_iff : c.armed = true ↔ c.phase = .started
  fresh : c.phase = .started → c.taken = false ∧ c.superseded = false ∧ c.sent = none
  returned : c.superseded = true → c.phase = .dispatched
  silent : c.isLive = false → c.listeners = []

/-- What holds of the cycle at a place among the others. -/
structure Fits (l : Lifecycle) (place : Nat) (c : Cycle) : Prop where
  good : Good c
  numbered : c.number = place + 1
  path_eq : c.path = l.path
  held_iff : c.superseded = false ↔ l.current = some place

structure Sound (l : Lifecycle) : Prop where
  current_last : ∀ p, l.current = some p → p + 1 = l.cycles.length
  receiver_last : ∀ p, l.receiver = some p → p + 1 = l.cycles.length
  fits : ∀ p c, l.cycle? p = some c → Fits l p c

theorem Fits.isLive_iff {l : Lifecycle} {p : Nat} {c : Cycle} (h : Fits l p c) :
    c.isLive = true ↔ l.current = some p ∧ c.phase ≠ .completed := by
  rw [Suspension.isLive_iff, h.held_iff]

theorem lt_of_cycle? {l : Lifecycle} {p : Nat} {c : Cycle} (h : l.cycle? p = some c) :
    p < l.cycles.length := (List.getElem?_eq_some_iff.1 h).1

theorem exists_cycle {l : Lifecycle} {p : Nat} (h : p < l.cycles.length) :
    ∃ c, l.cycle? p = some c := ⟨_, List.getElem?_eq_getElem h⟩

theorem Sound.exists_current {l : Lifecycle} (h : Sound l) {p : Nat} (hp : l.current = some p) :
    ∃ c, l.cycle? p = some c := exists_cycle (by have := h.current_last p hp; omega)

theorem Sound.state_of_none {l : Lifecycle} (h : l.current = none) : l.state = .sync := by
  simp [Lifecycle.state, Lifecycle.currentCycle?, h]

/-- The request is in sync exactly if it holds no cycle. -/
theorem Sound.state_eq_sync_iff {l : Lifecycle} (h : Sound l) :
    l.state = .sync ↔ l.current = none := by
  constructor
  · intro hs
    cases hp : l.current with
    | none => rfl
    | some p =>
      obtain ⟨c, hc⟩ := h.exists_current hp
      have held := (h.fits p c hc).held_iff.2 hp
      rw [state_of_current hp hc, Cycle.state, held] at hs
      cases hph : c.phase <;> simp [hph, Phase.state] at hs
  · exact Sound.state_of_none

/-- A request that holds a cycle reports how far it has come. -/
theorem Sound.state_eq {l : Lifecycle} (h : Sound l) {p : Nat} {c : Cycle}
    (hp : l.current = some p) (hc : l.cycle? p = some c) : l.state = c.phase.state := by
  rw [state_of_current hp hc, Cycle.state, (h.fits p c hc).held_iff.2 hp]
  rfl

/-! ## Looking up cycles after a change -/

@[simp] theorem put_current (l : Lifecycle) (p : Nat) (c : Cycle) :
    (put l p c).current = l.current := rfl

@[simp] theorem put_receiver (l : Lifecycle) (p : Nat) (c : Cycle) :
    (put l p c).receiver = l.receiver := rfl

@[simp] theorem put_path (l : Lifecycle) (p : Nat) (c : Cycle) : (put l p c).path = l.path := rfl

@[simp] theorem length_cycles_put (l : Lifecycle) (p : Nat) (c : Cycle) :
    (put l p c).cycles.length = l.cycles.length := Lifecycle.length_cycles_modify l p _

theorem cycle?_put_self {l : Lifecycle} {p : Nat} {c : Cycle} (h : l.cycle? p = some c)
    (c' : Cycle) : (put l p c').cycle? p = some c' := by
  simp [put, cycle?_modify, h]

theorem cycle?_put_ne (l : Lifecycle) {p q : Nat} (h : p ≠ q) (c' : Cycle) :
    (put l p c').cycle? q = l.cycle? q := by
  simp [put, cycle?_modify, h]

/-- A cycle whose resumption nobody can receive. -/
def deafened (c : Cycle) : Cycle := { c with heard := false }

def freshCycle (l : Lifecycle) (exchange : Exchange) : Cycle :=
  { number := l.cycles.length + 1, exchange, path := l.path, timeout := l.defaultTimeout }

theorem cycle?_dropReceiver (l : Lifecycle) (q : Nat) :
    l.dropReceiver.cycle? q =
      (l.cycle? q).map fun c => if l.receiver = some q then deafened c else c := by
  unfold Lifecycle.dropReceiver Lifecycle.deafen
  cases hr : l.receiver with
  | none => simp
  | some p =>
    refine (cycle?_modify l p q deafened).trans ?_
    by_cases hpq : p = q <;> simp [hpq]

@[simp] theorem dropReceiver_current (l : Lifecycle) : l.dropReceiver.current = l.current := by
  unfold Lifecycle.dropReceiver
  cases l.receiver <;> rfl

@[simp] theorem dropReceiver_receiver (l : Lifecycle) : l.dropReceiver.receiver = none := by
  unfold Lifecycle.dropReceiver
  cases h : l.receiver <;> simp [h]

@[simp] theorem dropReceiver_path (l : Lifecycle) : l.dropReceiver.path = l.path := by
  unfold Lifecycle.dropReceiver
  cases l.receiver <;> rfl

@[simp] theorem length_cycles_dropReceiver (l : Lifecycle) :
    l.dropReceiver.cycles.length = l.cycles.length := by
  unfold Lifecycle.dropReceiver
  cases l.receiver <;> simp [Lifecycle.deafen]

@[simp] theorem launch_current (l : Lifecycle) (e : Exchange) :
    (l.launch e).current = some l.cycles.length := rfl

@[simp] theorem launch_receiver (l : Lifecycle) (e : Exchange) :
    (l.launch e).receiver = some l.cycles.length := rfl

@[simp] theorem launch_path (l : Lifecycle) (e : Exchange) : (l.launch e).path = l.path := by
  simp [Lifecycle.launch]

theorem cycle?_launch_new (l : Lifecycle) (e : Exchange) :
    (l.launch e).cycle? l.cycles.length = some (freshCycle l e) := by
  have hlen := length_cycles_dropReceiver l
  have htime : l.dropReceiver.defaultTimeout = l.defaultTimeout := by
    unfold Lifecycle.dropReceiver
    cases l.receiver <;> rfl
  simp only [Lifecycle.launch, Lifecycle.cycle?]
  rw [List.getElem?_append_right (by omega)]
  simp [hlen, htime, freshCycle]

theorem cycle?_launch_old {l : Lifecycle} {p : Nat} (e : Exchange) (h : p < l.cycles.length) :
    (l.launch e).cycle? p = l.dropReceiver.cycle? p := by
  have hlen := length_cycles_dropReceiver l
  simp only [Lifecycle.launch, Lifecycle.cycle?]
  rw [List.getElem?_append_left (by omega)]

/-- A cycle after a start is the new one, or one from before that may have lost its receiver. -/
theorem cycle?_launch {l : Lifecycle} {e : Exchange} {p : Nat} {c : Cycle}
    (h : (l.launch e).cycle? p = some c) :
    (p = l.cycles.length ∧ c = freshCycle l e) ∨
      (∃ c₀, l.cycle? p = some c₀ ∧ (c = c₀ ∨ (c = deafened c₀ ∧ l.receiver = some p))) := by
  have hlt := lt_of_cycle? h
  rw [Lifecycle.length_cycles_launch] at hlt
  rcases Nat.lt_or_ge p l.cycles.length with hp | hp
  · right
    rw [cycle?_launch_old e hp, cycle?_dropReceiver, Option.map_eq_some_iff] at h
    obtain ⟨c₀, hc₀, hc⟩ := h
    refine ⟨c₀, hc₀, ?_⟩
    split at hc
    · exact .inr ⟨hc.symm, ‹_›⟩
    · exact .inl hc.symm
  · left
    have hpe : p = l.cycles.length := by omega
    subst hpe
    rw [cycle?_launch_new] at h
    exact ⟨rfl, (Option.some.inj h).symm⟩

/-! ## The invariant is kept -/

theorem good_deafened {c : Cycle} (h : Good c) : Good (deafened c) :=
  ⟨h.armed_iff, h.fresh, h.returned, h.silent⟩

theorem good_fresh (l : Lifecycle) (e : Exchange) : Good (freshCycle l e) := by
  refine ⟨by simp [freshCycle], by simp [freshCycle], by simp [freshCycle], fun _ => rfl⟩

theorem good_closed {c : Cycle} (h : Good c) (target : c.inTarget = true) : Good (closed c) := by
  obtain ⟨-, hphase, -⟩ := inTarget_iff.1 target
  exact ⟨h.armed_iff, by simp [closed, hphase], fun _ => hphase, fun _ => rfl⟩

theorem good_timedOut {c : Cycle} (held : c.superseded = false) : Good (timedOut c) := by
  refine ⟨by simp [timedOut], by simp [timedOut], by simp [timedOut, held], fun _ => rfl⟩

theorem good_taken {c : Cycle} (h : Good c) (pending : c.dispatchPending = true) :
    Good { c with taken := true } := by
  simp only [Cycle.dispatchPending, Bool.and_eq_true, decide_eq_true_eq] at pending
  exact ⟨h.armed_iff, by simp [pending.1], h.returned, h.silent⟩

/-- A call keeps what a cycle is known by. -/
theorem Called.same {c c' : Cycle} {call : Call} {ns : List Notice} (h : Called c call c' ns) :
    c'.number = c.number ∧ c'.path = c.path ∧ c'.exchange = c.exchange ∧
      c'.superseded = c.superseded := by
  cases h <;> exact ⟨rfl, rfl, rfl, rfl⟩

theorem good_called {c c' : Cycle} {call : Call} {ns : List Notice} (h : Good c)
    (hc : Called c call c' ns) : Good c' := by
  cases hc with
  | dispatched resolved current started =>
    refine ⟨by simp [signalled], by simp [signalled], by simp [signalled, current], ?_⟩
    simp [isLive_iff, signalled, current, ← Bool.not_eq_true]
  | completed current open_ notPending =>
    refine ⟨by simp [signalled], by simp [signalled], by simp [signalled, current], fun _ => rfl⟩
  | timeoutSet live => exact ⟨h.armed_iff, h.fresh, h.returned, h.silent⟩
  | listenerAdded live =>
    refine ⟨h.armed_iff, h.fresh, h.returned, fun ended => ?_⟩
    rw [← Bool.not_eq_true] at ended
    exact absurd live ended

/-- Nothing but the receiver sets a deafened cycle apart. -/
theorem fits_deafened {l : Lifecycle} {p : Nat} {c : Cycle} (h : Fits l p c) :
    Fits l p (deafened c) :=
  ⟨good_deafened h.good, h.numbered, h.path_eq, h.held_iff⟩

theorem sound_put {l : Lifecycle} {p : Nat} {c' : Cycle} (h : Sound l) (hc' : Fits l p c') :
    Sound (put l p c') := by
  refine ⟨fun q => ?_, fun q => ?_, fun q d hd => ?_⟩
  · simpa using h.current_last q
  · simpa using h.receiver_last q
  · by_cases hpq : p = q
    · subst hpq
      obtain ⟨c, hc⟩ := exists_cycle (l := l) (by simpa using lt_of_cycle? hd)
      rw [cycle?_put_self hc, Option.some.injEq] at hd
      subst hd
      exact ⟨hc'.good, hc'.numbered, hc'.path_eq, hc'.held_iff⟩
    · rw [cycle?_put_ne l hpq] at hd
      have f := h.fits q d hd
      exact ⟨f.good, f.numbered, f.path_eq, f.held_iff⟩

/-- A start keeps the invariant when every cycle from before has been taken off. -/
theorem sound_launch {l : Lifecycle} (e : Exchange)
    (h : ∀ p c, l.cycle? p = some c →
      Good c ∧ c.number = p + 1 ∧ c.path = l.path ∧ c.superseded = true) :
    Sound (l.launch e) := by
  refine ⟨fun p hp => ?_, fun p hp => ?_, fun p c hc => ?_⟩
  · simp only [launch_current, Option.some.injEq] at hp
    rw [Lifecycle.length_cycles_launch, hp]
  · simp only [launch_receiver, Option.some.injEq] at hp
    rw [Lifecycle.length_cycles_launch, hp]
  · rcases cycle?_launch hc with ⟨rfl, rfl⟩ | ⟨c₀, hc₀, hcase⟩
    · exact ⟨good_fresh l e, rfl, by simp [freshCycle], by simp [freshCycle]⟩
    · obtain ⟨good, numbered, path_eq, off⟩ := h p c₀ hc₀
      have hlt := lt_of_cycle? hc₀
      have gone : l.cycles.length ≠ p := by omega
      have f : Fits (l.launch e) p c₀ :=
        ⟨good, numbered, by rw [launch_path, path_eq], by simp [off, gone]⟩
      rcases hcase with rfl | ⟨rfl, -⟩
      · exact f
      · exact fits_deafened f

theorem sound_dropReceiver {l : Lifecycle} (h : Sound l) : Sound l.dropReceiver := by
  refine ⟨fun p hp => ?_, fun p hp => ?_, fun p c hc => ?_⟩
  · simpa using h.current_last p (by simpa using hp)
  · simp at hp
  · rw [cycle?_dropReceiver, Option.map_eq_some_iff] at hc
    obtain ⟨c₀, hc₀, rfl⟩ := hc
    obtain ⟨good, numbered, path_eq, held_iff⟩ := h.fits p c₀ hc₀
    have f : Fits l.dropReceiver p c₀ :=
      ⟨good, numbered, by rw [dropReceiver_path, path_eq], by rw [dropReceiver_current, held_iff]⟩
    split
    · exact fits_deafened f
    · exact f

/-- The suspensions once the current cycle has been taken off, and none is current any more. -/
theorem closed_others {l : Lifecycle} {place : Nat} {c : Cycle} (h : Sound l)
    (current : l.current = some place) (cycle : l.cycle? place = some c)
    (target : c.inTarget = true) (p : Nat) (d : Cycle)
    (hd : (put l place (closed c)).cycle? p = some d) :
    Good d ∧ d.number = p + 1 ∧ d.path = l.path ∧ d.superseded = true := by
  by_cases hpq : place = p
  · subst hpq
    rw [cycle?_put_self cycle, Option.some.injEq] at hd
    subst hd
    have f := h.fits place c cycle
    exact ⟨good_closed f.good target, f.numbered, f.path_eq, rfl⟩
  · rw [cycle?_put_ne l hpq] at hd
    have f := h.fits p d hd
    refine ⟨f.good, f.numbered, f.path_eq, ?_⟩
    have := f.held_iff
    rw [current, Option.some.injEq] at this
    simpa [hpq] using this

theorem sound_change {l l' : Lifecycle} {e : Event} {a : Answer} {ns : List Notice}
    (h : Sound l) (hc : Change l e a l' ns) : Sound l' := by
  cases hc with
  | refused | absent | contextGiven | stayed | notExpired => exact h
  | noSpan => exact sound_dropReceiver h
  | spanGiven =>
    exact ⟨h.current_last, by simp, fun p c hc =>
      have f := h.fits p c hc
      ⟨f.good, f.numbered, f.path_eq, f.held_iff⟩⟩
  | launched sync =>
    refine sound_launch _ fun p c hc => ?_
    have f := h.fits p c hc
    have none_current := h.state_eq_sync_iff.1 sync
    exact ⟨f.good, f.numbered, f.path_eq, by simpa [none_current] using f.held_iff⟩
  | relaunched current cycle target =>
    exact sound_launch _ (closed_others h current cycle target)
  | @entered place c current cycle held pending =>
    have f := h.fits place c cycle
    exact sound_put h ⟨good_taken f.good pending, f.numbered, f.path_eq, f.held_iff⟩
  | @returned place c current cycle target =>
    refine ⟨by simp, by simpa using h.receiver_last, fun p d hd => ?_⟩
    obtain ⟨good, numbered, path_eq, off⟩ := closed_others h current cycle target p d hd
    exact ⟨good, numbered, path_eq, by simp [off]⟩
  | @called place call c c' ns cycle hcalled =>
    have f := h.fits place c cycle
    obtain ⟨hnumber, hpath, -, hsup⟩ := hcalled.same
    exact sound_put h ⟨good_called f.good hcalled, hnumber.trans f.numbered,
      hpath.trans f.path_eq, by rw [hsup]; exact f.held_iff⟩
  | @expired place c cycle held started =>
    have f := h.fits place c cycle
    exact sound_put h ⟨good_timedOut held, f.numbered, f.path_eq, f.held_iff⟩

theorem sound_perform {r : Request} (h : Sound r.lifecycle) (e : Event) :
    Sound (perform r e).state.lifecycle := sound_change h (changedBy_perform r e)

theorem sound_receive (a : Request.Arrival) (s : Settings) (id : Nat) :
    Sound (Request.receive a s id).lifecycle := by
  refine ⟨by simp [Request.receive], by simp [Request.receive], fun p c hc => ?_⟩
  simp [Request.receive, Lifecycle.cycle?] at hc

theorem sound_after {r : Request} (h : Sound r.lifecycle) (events : List Event) :
    Sound (after r events).lifecycle :=
  Runs.after_induction (P := fun r : Request => Sound r.lifecycle) h
    (fun _ e h => sound_perform h e) events

end WebRequest.Suspension
