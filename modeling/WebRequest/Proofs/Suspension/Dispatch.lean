-- Where a dispatch without a target goes. Its target is the path of the request resolved against
-- itself, so it goes back to that path exactly if the path is canonical already; and whoever waits
-- on the span of the cycle is resumed with it.
import WebRequest.Proofs.Suspension.Returns
import WebRequest.Proofs.Target

namespace WebRequest.Suspension

open Async

theorem dispatch_of_started {c : Cycle} (held : c.superseded = false)
    (started : c.phase = .started) :
    (Target.resolve? c.path c.path = none → c.dispatch = .refuse c (.invalidTarget c.path)) ∧
      ∀ d, Target.resolve? c.path c.path = some d → c.dispatch.answer = .ok () := by
  have live : c.refusal? = none := by simp [Cycle.refusal?, held, started]
  unfold Cycle.dispatch Cycle.dispatchTo
  refine ⟨fun h => ?_, fun d h => ?_⟩
  · rw [h]
  · rw [h]
    simp only [Cycle.whenLive_of_live live]
    rw [if_neg (by simp [started])]
    rfl

theorem state_eq_started_iff {c : Cycle} :
    c.state = .started ↔ c.superseded = false ∧ c.phase = .started := by
  unfold Cycle.state
  cases c.superseded <;> cases c.phase <;> simp [Phase.state]

/-- A dispatch on the handle of a suspended cycle succeeds if the path resolves, and otherwise
changes nothing. -/
theorem perform_dispatch {r : Request} {p : Nat} {c : Cycle}
    (hc : r.lifecycle.cycle? p = some c) (started : c.state = .started) :
    (Target.resolve? c.path c.path = none →
      perform r (.operation (.call p .dispatch)) =
        { answer := .failed (.illegalState (.invalidTarget c.path)), state := r }) ∧
      ∀ d, Target.resolve? c.path c.path = some d →
        (perform r (.operation (.call p .dispatch))).answer = .done := by
  obtain ⟨held, phase⟩ := state_eq_started_iff.1 started
  obtain ⟨refused, succeeds⟩ := dispatch_of_started held phase
  simp only [perform, onHandle_eq, hc, Call.on]
  refine ⟨fun h => ?_, fun d h => ?_⟩
  · rw [refused h]
    simp [Attempt.refuse, Attempt.fail, Outcome.map, Outcome.within, put_self hc,
      Request.withLifecycle]
  · simp [Outcome.within, Outcome.map, succeeds d h]

/-! ## What arrives -/

theorem head_after (r : Request) (events : List Event) : (after r events).head = r.head := by
  refine Runs.after_induction (P := fun r' : Request => r'.head = r.head) rfl ?_ events
  intro r' e same
  rw [head_perform, same]

theorem ended_run {s : Scene} {i : Nat} {a : Attended} {w : Wait} {x : Resumption} {t : Nat}
    (ha : s.spans[i]? = some a) (hw : a.wait = some w) (ended : w.vigil = .ended x t)
    (steps : List Step) :
    ∃ a' w', (s.run steps).spans[i]? = some a' ∧ a'.wait = some w' ∧ w'.vigil = .ended x t := by
  induction steps using List.reverseRecOn with
  | nil => exact ⟨a, w, ha, hw, ended⟩
  | append_singleton steps st ih =>
    obtain ⟨a₁, w₁, ha₁, hw₁, ended₁⟩ := ih
    obtain ⟨a', ha', turned⟩ := turned_step st ha₁
    obtain ⟨w', hw', ended'⟩ := turned.ended hw₁ ended₁
    rw [s.run_snoc]
    exact ⟨a', w', ha', hw', ended'⟩

/-- The wait on a span is over and has returned a resumption, or it returns it once it has begun
and its waiter is woken. -/
def ResolvesTo (s : Scene) (i : Nat) (x : Resumption) : Prop :=
  ∃ a w t, ((s.step (.resume i)).wake i).spans[i]? = some a ∧ a.wait = some w ∧
    w.vigil = .ended x t

theorem ResolvesTo.unique {s : Scene} {i : Nat} {x y : Resumption} (hx : ResolvesTo s i x)
    (hy : ResolvesTo s i y) : x = y := by
  obtain ⟨a, w, t, ha, hw, hv⟩ := hx
  obtain ⟨b, v, u, hb, hv', hu⟩ := hy
  rw [ha, Option.some.injEq] at hb
  subst hb
  rw [hw, Option.some.injEq] at hv'
  subst hv'
  rw [hv, Vigil.ended.injEq] at hu
  exact hu.1

namespace Orderly

variable {s : Scene} {moments : List Moment} {i : Nat} {a : Attended}

/-- A span resolves to what its cycle has been resumed with. -/
theorem resolvesTo (h : Orderly s moments) (ha : s.spans[i]? = some a) {x : Resumption}
    (hx : resumptions moments a.span.channel = [x]) : ResolvesTo s i x := by
  by_cases open_ : a.Open
  · obtain ⟨c, hc, -, -, signalled⟩ := h.cycle ha
    have ended : c.phase ≠ .started := by
      intro started
      rw [signalled.suspended started] at hx
      cases hx
    obtain ⟨y, -, hy, -, w, hw, resumed⟩ := h.ready ha open_ hc ended
    rw [hx, List.cons.injEq] at hy
    obtain ⟨rfl, -⟩ := hy
    exact ⟨_, w, _, hw, rfl, resumed⟩
  · simp only [Attended.Open, not_forall, not_not] at open_
    obtain ⟨w, y, t, hw, ended⟩ := open_
    have returned := ((h.attentive.waits i a w ha hw).ended y t ended).1
    rw [hx, List.cons.injEq] at returned
    obtain ⟨rfl, -⟩ := returned
    obtain ⟨a', w', ha', hw', ended'⟩ :=
      ended_run ha hw ended [.resume i, .look i, .expire i, .look i]
    exact ⟨a', w', t, ha', hw', ended'⟩

/-- The cycle of a dispatch is resumed with its target, and with nothing else. -/
theorem resumptions_dispatch (h : Orderly s moments) {p : Nat} {c : Cycle}
    (hc : s.request.lifecycle.cycle? p = some c) (started : c.phase = .started)
    (done : (perform s.request (.operation (.call p .dispatch))).answer = .done) {d : String}
    (hd : Target.resolve? s.request.head.uri.path s.request.head.uri.path = some d) :
    resumptions (moments ++ s.momentsOf (.operate (.call p .dispatch))) p = [.dispatch d] := by
  have fresh := (h.accounted.signalled p c hc).suspended started
  have moment : s.momentsOf (.operate (.call p .dispatch)) =
      [⟨s.request, .operation (.call p .dispatch)⟩] := rfl
  rw [moment, resumptions_snoc, fresh, Moment.resumption?]
  change (resumption? _ _ _ (perform s.request _).answer).toList = _
  rw [done, resumption?, if_pos rfl]
  simp [Call.resumption?, Call.target?, hd]

end Orderly

/-! ## The law -/

/-- A dispatch without a target, on the handle of a suspended cycle of any run. If the path of the
request does not resolve against itself, it fails and changes nothing. If it does, the dispatch
succeeds, and whatever happens then, the span of the cycle resolves to the resolved path; and this
is the path of the request exactly if that is canonical. -/
theorem a_dispatch_goes_back_to_a_canonical_path (a : Request.Arrival) (st : Settings) (id : Nat)
    (steps : List Step) (p : Nat) (c : Cycle) :
    let now : Scene := Scene.run { request := Request.receive a st id } steps
    let path := a.head.uri.path
    let dispatched := perform now.request (.operation (.call p .dispatch))
    now.request.lifecycle.cycle? p = some c → c.state = .started →
      (Target.resolve? path path = none →
        dispatched =
          { answer := .failed (.illegalState (.invalidTarget path)), state := now.request }) ∧
      ∀ d, Target.resolve? path path = some d →
        dispatched.answer = .done ∧
        (d = path ↔ Target.Canonical (path.toList.takeWhile (· ≠ '?'))) ∧
        ∀ more i b, let later := (now.step (.operate (.call p .dispatch))).run more
          later.spans[i]? = some b → b.span.channel = p → ResolvesTo later i (.dispatch d) := by
  intro now path dispatched hc started
  have h : Orderly now ([] ++ _) := (orderly_receive a st id).run steps
  have hpath : now.request.head.uri.path = path := by
    rw [Scene.request_run, head_after]
    rfl
  have cycle_path : c.path = path := ((h.sound.fits p c hc).path_eq.trans h.path).trans hpath
  obtain ⟨refused, succeeds⟩ := perform_dispatch hc started
  rw [cycle_path] at refused succeeds
  refine ⟨refused, fun d hd => ⟨succeeds d hd, ?_, ?_⟩⟩
  · rw [← Target.resolve?_eq_self_iff, hd, Option.some.injEq]
  · intro more i b later hb hchannel
    have resumed := h.resumptions_dispatch hc (state_eq_started_iff.1 started).2 (succeeds d hd)
      (hpath.symm ▸ hd)
    have ordered := (h.step (.operate (.call p .dispatch))).run more
    obtain ⟨c', hc', -, -, signalled⟩ := ordered.cycle hb
    apply ordered.resolvesTo hb
    rw [hchannel, resumptions, List.filterMap_append] at signalled ⊢
    exact signalled.unchanged resumed

/-- A request on a path, to an endpoint that can be suspended. -/
def suspendable (path : String) : Request.Arrival :=
  { head := { method := "GET", uri := { path }, version := .v11, fields := ⟨[]⟩ },
    transport := { frames := [] }, endpoint := { asyncSupported := true } }

/-- A request that has been suspended, and whose span has been taken. -/
def suspendedOn (path : String) : Scene :=
  Scene.run { request := Request.receive (suspendable path) {} 1 }
    [.operate (.start {}), .operate .takeSpan]

theorem a_dispatch_goes_back_to_a_plain_path :
    let s := suspendedOn "/a/b"
    (perform s.request (.operation (.call 0 .dispatch))).answer = .done ∧
      ResolvesTo (s.step (.operate (.call 0 .dispatch))) 0 (.dispatch "/a/b") := by
  obtain ⟨c, hc, started⟩ : ∃ c, (suspendedOn "/a/b").request.lifecycle.cycle? 0 = some c ∧
      c.state = .started := ⟨_, rfl, by decide⟩
  obtain ⟨-, resolved⟩ := a_dispatch_goes_back_to_a_canonical_path (suspendable "/a/b") {} 1
    [.operate (.start {}), .operate .takeSpan] 0 c hc started
  have canonical : Target.Canonical ("/a/b".toList.takeWhile (· ≠ '?')) :=
    ⟨[['a']], ['b'], by decide, by decide, by decide⟩
  obtain ⟨done, -, returns⟩ := resolved "/a/b" (Target.resolve?_eq_self_iff.2 canonical)
  exact ⟨done, returns [] 0 { span := ⟨0, 0⟩ } rfl rfl⟩

/-- Of two slashes in a row, a dispatch keeps one. -/
theorem a_dispatch_loses_a_doubled_slash :
    let s := suspendedOn "/a//b"
    let dispatched := s.step (.operate (.call 0 .dispatch))
    s.request.head.uri.path = "/a//b" ∧
      (s.request.lifecycle.cycle? 0).map Cycle.state = some .started ∧
      ResolvesTo dispatched 0 (.dispatch "/a/b") ∧
      ¬ ResolvesTo dispatched 0 (.dispatch "/a//b") := by
  intro s dispatched
  have lost : ResolvesTo dispatched 0 (.dispatch "/a/b") := ⟨_, _, _, rfl, rfl, rfl⟩
  refine ⟨rfl, rfl, lost, ?_⟩
  intro kept
  have same := lost.unique kept
  simp at same

end WebRequest.Suspension
