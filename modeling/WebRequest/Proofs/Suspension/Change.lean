-- What one event can do to the suspensions of a request. Every later law about runs goes
-- through the case distinction of `Change`, and none of them opens an operation again.
import WebRequest.Proofs.Suspension.Run

namespace WebRequest.Suspension

open Async

/-! ## Calls on one cycle -/

/-- Where a call would dispatch the request to. -/
def Call.target? (path : String) : Call → Option String
  | .dispatch => Target.resolve? path path
  | .dispatchTo target => Target.resolve? path target
  | _ => none

/-- The cycle after its resumption has been sent. -/
def signalled (c : Cycle) (r : Resumption) : Cycle :=
  { c with armed := false, sent := if c.armed && c.heard then some r else c.sent }

/-- The registration that the next listener of a cycle gets. -/
def nextRegistration (c : Cycle) (label : Option String) : Registration :=
  { cycle := c.number, place := c.listeners.length, label }

/-- What a call that succeeds does to its cycle. -/
inductive Called (c : Cycle) : Call → Cycle → List Notice → Prop
  | dispatched {call : Call} {target : String} (resolved : call.target? c.path = some target)
      (current : c.superseded = false) (started : c.phase = .started) :
      Called c call
        (signalled { c with phase := .dispatched, taken := false } (.dispatch target)) []
  | completed (current : c.superseded = false) (open_ : c.phase ≠ .completed)
      (notPending : c.dispatchPending = false) :
      Called c .complete (signalled { c with phase := .completed, listeners := [] } .complete)
        (c.listeners.map fun r => ⟨r, .completion, c.exchange⟩)
  | timeoutSet {ms : Nat} (live : c.isLive = true) :
      Called c (.setTimeout ms) { c with timeout := ms } []
  | listenerAdded {label : Option String} (live : c.isLive = true) :
      Called c (.addListener label)
        { c with listeners := c.listeners ++ [nextRegistration c label] } []

theorem signal_state (c : Cycle) (r : Resumption) : (c.signal r).state = signalled c r := by
  unfold Cycle.signal signalled
  cases ha : c.armed <;> cases hh : c.heard <;> cases c <;> simp_all

@[simp] theorem notices_signal (c : Cycle) (r : Resumption) :
    notices (c.signal r).effects = [] := by
  unfold Cycle.signal
  split
  · rfl
  · split <;> rfl

theorem isLive_iff {c : Cycle} :
    c.isLive = true ↔ c.superseded = false ∧ c.phase ≠ .completed := by
  unfold Cycle.isLive Cycle.refusal?
  cases c.superseded <;> cases c.phase <;> simp

theorem refusal?_eq_none_iff {c : Cycle} : c.refusal? = none ↔ c.isLive = true := by
  simp [Cycle.isLive]

/-- A call on a cycle that is over is refused, whatever the call. -/
theorem on_of_not_live {c : Cycle} (h : c.isLive = false) (call : Call) :
    ∃ m, call.on c = .refuse c m := by
  obtain ⟨m, hm⟩ : ∃ m, c.refusal? = some m := by
    simpa [Cycle.isLive, Option.isNone_eq_false_iff, Option.isSome_iff_exists] using h
  have refused {f : Attempt Cycle Unit} : c.whenLive f = .refuse c m :=
    Cycle.whenLive_of_refusal hm f
  have dispatchTo (path : String) : ∃ m, c.dispatchTo path = .refuse c m := by
    unfold Cycle.dispatchTo
    split
    · exact ⟨_, rfl⟩
    · exact ⟨m, refused⟩
  cases call with
  | dispatch => exact dispatchTo c.path
  | dispatchTo target => exact dispatchTo target
  | complete => exact ⟨m, refused⟩
  | setTimeout ms => exact ⟨m, refused⟩
  | addListener label => exact ⟨m, refused⟩

/-- A call is refused, or it does what `Called` says. -/
def Settled (c : Cycle) (call : Call) (o : Attempt Cycle Unit) : Prop :=
  (∃ m, o = .refuse c m) ∨ (o.answer = .ok () ∧ Called c call o.state (notices o.effects))

theorem settled_dispatchTo {c : Cycle} {call : Call} (path : String)
    (h : call.target? c.path = Target.resolve? c.path path) :
    Settled c call (c.dispatchTo path) := by
  unfold Cycle.dispatchTo
  cases ht : Target.resolve? c.path path with
  | none => exact .inl ⟨_, rfl⟩
  | some target =>
    simp only
    cases hr : c.refusal? with
    | some m => exact .inl ⟨m, Cycle.whenLive_of_refusal hr _⟩
    | none =>
      rw [Cycle.whenLive_of_live hr]
      by_cases hs : c.phase = .started
      · have live := isLive_iff.1 (refusal?_eq_none_iff.1 hr)
        refine .inr ⟨by simp [hs, Outcome.after, Outcome.map], ?_⟩
        simpa [hs, Outcome.after, Outcome.map, signal_state] using
          Called.dispatched (h.trans ht) live.1 hs
      · exact .inl ⟨_, by simp [hs]; rfl⟩

theorem settled_on (c : Cycle) (call : Call) : Settled c call (call.on c) := by
  cases hl : c.isLive with
  | false => exact .inl (on_of_not_live hl call)
  | true =>
    have hr := refusal?_eq_none_iff.2 hl
    cases call with
    | dispatch => exact settled_dispatchTo c.path rfl
    | dispatchTo target => exact settled_dispatchTo target rfl
    | complete =>
      simp only [Call.on, Cycle.complete, Cycle.whenLive_of_live hr]
      cases hp : c.dispatchPending with
      | true => exact .inl ⟨_, rfl⟩
      | false =>
        have live := isLive_iff.1 hl
        refine .inr ⟨rfl, ?_⟩
        simpa [signal_state] using Called.completed live.1 live.2 hp
    | setTimeout ms =>
      simp only [Call.on, Cycle.setTimeout, Cycle.whenLive_of_live hr]
      exact .inr ⟨rfl, .timeoutSet hl⟩
    | addListener label =>
      simp only [Call.on, Cycle.addListener, Cycle.whenLive_of_live hr]
      exact .inr ⟨rfl, .listenerAdded hl⟩

/-! ## Changes of all suspensions -/

/-- The suspensions with the cycle at a place replaced. -/
def put (l : Lifecycle) (place : Nat) (c : Cycle) : Lifecycle := l.modify place fun _ => c

/-- A cycle that has been taken off: nobody is told of it any more. -/
def closed (c : Cycle) : Cycle := { c with superseded := true, listeners := [] }

/-- A cycle whose time ran out. -/
def timedOut (c : Cycle) : Cycle := { c with phase := .completed, armed := false, listeners := [] }

/-- What an event can do to the suspensions of a request: its answer, the suspensions after it,
and what the listeners are told. -/
inductive Change (l : Lifecycle) : Event → Answer → Lifecycle → List Notice → Prop
  | refused (e : Event) (m : Misuse) : Change l e (.failed (.illegalState m)) l []
  | absent (e : Event) : Change l e .absent l []
  | contextGiven {place : Nat} : Change l (.operation .context) (.handle place) l []
  | stayed : Change l (.operation .exitDispatch) (.state l.state) l []
  | notExpired (place : Nat) : Change l (.expiry place) (.expired false) l []
  | noSpan : Change l (.operation .takeSpan) (.failed (.illegalState .noSpan)) l.dropReceiver []
  | spanGiven {place channel : Nat} (current : l.current = some place)
      (receiver : l.receiver = some channel) :
      Change l (.operation .takeSpan) (.span ⟨place, channel⟩) { l with receiver := none } []
  | launched {exchange : Exchange} (sync : l.state = .sync) :
      Change l (.operation (.start exchange)) (.handle l.cycles.length) (l.launch exchange) []
  | relaunched {exchange : Exchange} {place : Nat} {c : Cycle} (current : l.current = some place)
      (cycle : l.cycle? place = some c) (target : c.inTarget = true) :
      Change l (.operation (.start exchange)) (.handle l.cycles.length)
        ((put l place (closed c)).launch exchange)
        (c.listeners.map fun r => ⟨r, .start, exchange⟩)
  | entered {place : Nat} {c : Cycle} (current : l.current = some place)
      (cycle : l.cycle? place = some c) (held : c.superseded = false)
      (pending : c.dispatchPending = true) :
      Change l (.operation .enterDispatch) .done (put l place { c with taken := true }) []
  | returned {place : Nat} {c : Cycle} (current : l.current = some place)
      (cycle : l.cycle? place = some c) (target : c.inTarget = true) :
      Change l (.operation .exitDispatch) (.state .sync)
        { put l place (closed c) with current := none }
        (c.listeners.map fun r => ⟨r, .completion, c.exchange⟩)
  | called {place : Nat} {call : Call} {c c' : Cycle} {ns : List Notice}
      (cycle : l.cycle? place = some c) (called : Called c call c' ns) :
      Change l (.operation (.call place call)) .done (put l place c') ns
  | expired {place : Nat} {c : Cycle} (cycle : l.cycle? place = some c)
      (held : c.superseded = false) (started : c.phase = .started) :
      Change l (.expiry place) (.expired true) (put l place (timedOut c))
        (c.listeners.map (fun r => ⟨r, .timeout, c.exchange⟩) ++
          c.listeners.map fun r => ⟨r, .completion, c.exchange⟩)

/-- The change that a request underwent in an outcome. -/
def ChangedBy (r : Request) (e : Event) (o : Outcome Request Answer) : Prop :=
  Change r.lifecycle e o.answer o.state.lifecycle (notices o.effects)

/-! ## Looking up cycles -/

theorem cycle?_modify (l : Lifecycle) (place q : Nat) (f : Cycle → Cycle) :
    (l.modify place f).cycle? q = if place = q then (l.cycle? q).map f else l.cycle? q := by
  simp only [Lifecycle.cycle?, Lifecycle.modify, List.getElem?_modify]
  split <;> simp

theorem modify_eq_put {l : Lifecycle} {place : Nat} {c : Cycle} (h : l.cycle? place = some c)
    (f : Cycle → Cycle) : l.modify place f = put l place (f c) := by
  have key : l.cycles.modify place f = l.cycles.modify place fun _ => f c := by
    apply List.ext_getElem?
    intro q
    simp only [List.getElem?_modify]
    by_cases hq : place = q
    · subst hq
      have hc : l.cycles[place]? = some c := h
      simp [hc]
    · simp [hq]
  simp [put, Lifecycle.modify, key]

theorem put_self {l : Lifecycle} {place : Nat} {c : Cycle} (h : l.cycle? place = some c) :
    put l place c = l := by
  have h' := modify_eq_put h id
  simpa [Lifecycle.modify] using h'.symm

theorem currentCycle?_of_some {l : Lifecycle} {place : Nat} (h : l.current = some place) :
    l.currentCycle? = l.cycle? place := by
  simp [Lifecycle.currentCycle?, h]

theorem state_of_current {l : Lifecycle} {place : Nat} {c : Cycle} (h : l.current = some place)
    (hc : l.cycle? place = some c) : l.state = c.state := by
  simp [Lifecycle.state, currentCycle?_of_some h, hc]

/-- A request that is not in sync holds a cycle, and reports its state. -/
theorem exists_current_of_state_ne {l : Lifecycle} (h : l.state ≠ .sync) :
    ∃ place c, l.current = some place ∧ l.cycle? place = some c ∧ c.state = l.state := by
  cases hp : l.current with
  | none => simp [Lifecycle.state, Lifecycle.currentCycle?, hp] at h
  | some place =>
    cases hc : l.cycle? place with
    | none => simp [Lifecycle.state, currentCycle?_of_some hp, hc] at h
    | some c => exact ⟨place, c, rfl, hc, (state_of_current hp hc).symm⟩

theorem state_eq_dispatched_iff {c : Cycle} :
    c.state = .dispatched ↔ c.superseded = false ∧ c.phase = .dispatched := by
  unfold Cycle.state
  cases c.superseded <;> cases c.phase <;> simp [Phase.state]

theorem inTarget_iff {c : Cycle} :
    c.inTarget = true ↔ c.superseded = false ∧ c.phase = .dispatched ∧ c.taken = true := by
  simp [Cycle.inTarget, and_assoc]

/-! ## The change of each event -/

theorem change_start (l : Lifecycle) (exchange : Exchange) :
    Change l (.operation (.start exchange)) (.ofExcept .handle (l.start exchange).answer)
      (l.start exchange).state (notices (l.start exchange).effects) := by
  unfold Lifecycle.start
  by_cases hsup : l.supported = true
  · simp only [hsup, Bool.not_true, Bool.false_eq_true, if_false]
    cases hs : l.state with
    | started => exact .refused _ _
    | completed => exact .refused _ _
    | sync =>
      have changed := @Change.launched l exchange hs
      simpa [Lifecycle.startAfter, Cycle.notices] using changed
    | dispatched =>
      obtain ⟨place, c, hcur, hc, hstate⟩ := exists_current_of_state_ne (l := l) (by simp [hs])
      obtain ⟨held, hphase⟩ := state_eq_dispatched_iff.1 (hstate.trans hs)
      simp only [hcur, currentCycle?_of_some hcur, hc]
      cases ht : c.taken with
      | false => exact .refused _ _
      | true =>
        have target := inTarget_iff.2 ⟨held, hphase, ht⟩
        have changed := @Change.relaunched l exchange _ _ hcur hc target
        rw [modify_eq_put hc]
        simpa [Lifecycle.startAfter, closed, put] using changed
  · simp only [Bool.not_eq_true] at hsup
    simp only [hsup, Bool.not_false, if_true]
    exact .refused _ _

theorem change_context (l : Lifecycle) :
    Change l (.operation .context) (.ofExcept .handle l.context) l [] := by
  unfold Lifecycle.context
  split
  · exact .contextGiven
  · exact .contextGiven
  · exact .refused _ _

theorem change_takeSpan (l : Lifecycle) :
    Change l (.operation .takeSpan) (.ofExcept .span l.takeSpan.answer) l.takeSpan.state
      (notices l.takeSpan.effects) := by
  unfold Lifecycle.takeSpan
  split
  · exact .spanGiven ‹_› ‹_›
  · exact .noSpan

theorem change_enterDispatch (l : Lifecycle) :
    Change l (.operation .enterDispatch) (.ofExcept (fun _ => .done) l.enterDispatch.answer)
      l.enterDispatch.state (notices l.enterDispatch.effects) := by
  unfold Lifecycle.enterDispatch
  split
  · rename_i place c hcur hc
    rw [currentCycle?_of_some hcur] at hc
    split
    · rename_i h
      simp only [Bool.and_eq_true, Bool.not_eq_eq_eq_not, Bool.not_true] at h
      have changed := Change.entered hcur hc h.1 h.2
      rw [modify_eq_put hc]
      exact changed
    · exact .refused _ _
  · exact .refused _ _

theorem change_exitDispatch (l : Lifecycle) :
    Change l (.operation .exitDispatch) (.state l.exitDispatch.answer) l.exitDispatch.state
      (notices l.exitDispatch.effects) := by
  unfold Lifecycle.exitDispatch
  split
  · rename_i place c hcur hc
    rw [currentCycle?_of_some hcur] at hc
    split
    · rename_i target
      have changed := Change.returned hcur hc target
      rw [modify_eq_put hc]
      simpa [closed, put] using changed
    · rw [← state_of_current hcur hc]
      exact .stayed
  · rename_i h
    have hs : l.state = .sync := by
      by_contra hne
      obtain ⟨place, c, hcur, hc, -⟩ := exists_current_of_state_ne hne
      exact h place c hcur (by rw [currentCycle?_of_some hcur, hc])
    rw [← hs]
    exact .stayed

/-- An event on a handle is one on the cycle, if there is one at the place. -/
theorem onHandle_eq (r : Request) (place : Nat) (f : Cycle → Outcome Cycle Answer) :
    onHandle r place f =
      match r.lifecycle.cycle? place with
      | none => { answer := .absent, state := r }
      | some c => (f c).within fun c' => r.withLifecycle (put r.lifecycle place c') := by
  unfold onHandle Request.callCycle Lifecycle.call
  cases r.lifecycle.cycle? place <;> rfl

theorem changedBy_call (r : Request) (place : Nat) (call : Call) :
    ChangedBy r (.operation (.call place call)) (perform r (.operation (.call place call))) := by
  unfold perform ChangedBy
  simp only [onHandle_eq]
  cases hc : r.lifecycle.cycle? place with
  | none => exact .absent _
  | some c =>
    simp only [Outcome.within, Outcome.map, Request.withLifecycle]
    rcases settled_on c call with ⟨m, hm⟩ | ⟨hok, hcalled⟩
    · rw [hm]
      simpa [Attempt.refuse, Attempt.fail, put_self hc] using
        Change.refused (l := r.lifecycle) (.operation (.call place call)) m
    · rw [hok]
      exact .called hc hcalled

theorem changedBy_expiry (r : Request) (place : Nat) :
    ChangedBy r (.expiry place) (perform r (.expiry place)) := by
  unfold perform ChangedBy
  simp only [onHandle_eq]
  cases hc : r.lifecycle.cycle? place with
  | none => exact .absent _
  | some c =>
    simp only [Outcome.within, Outcome.map, Request.withLifecycle, Cycle.expire]
    split
    · simpa [put_self hc] using Change.notExpired (l := r.lifecycle) place
    · rename_i h
      simp only [Bool.or_eq_true, decide_eq_true_eq, not_or, Bool.not_eq_true, not_not] at h
      simpa [timedOut] using Change.expired hc h.1 h.2

/-- Whatever happens to a request, its suspensions change as `Change` says. -/
theorem changedBy_perform (r : Request) (e : Event) : ChangedBy r e (perform r e) := by
  cases e with
  | expiry place => exact changedBy_expiry r place
  | operation op =>
    cases op with
    | start exchange =>
      have h := change_start r.lifecycle exchange
      unfold ChangedBy perform Request.startAsync Attempt.bind
      cases ha : (r.lifecycle.start exchange).answer with
      | error f =>
        simpa [ha, Outcome.andThen, Outcome.within, Outcome.map, Outcome.after, Attempt.fail,
          Request.withLifecycle] using h
      | ok place =>
        simpa [ha, Outcome.andThen, Outcome.within, Outcome.map, Outcome.after,
          Request.withLifecycle] using h
    | context => exact change_context r.lifecycle
    | takeSpan => exact change_takeSpan r.lifecycle
    | enterDispatch => exact change_enterDispatch r.lifecycle
    | exitDispatch => exact change_exitDispatch r.lifecycle
    | call place call => exact changedBy_call r place call

theorem head_perform (r : Request) (e : Event) : (perform r e).state.head = r.head := by
  cases e with
  | expiry place =>
    simp only [perform, onHandle_eq]
    split <;> rfl
  | operation op =>
    cases op with
    | call place call =>
      simp only [perform, onHandle_eq]
      split <;> rfl
    | _ => rfl

end WebRequest.Suspension
