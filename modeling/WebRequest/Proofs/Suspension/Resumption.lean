-- What a cycle is resumed with. At most one event of a run resumes it: a dispatch, a
-- completion while it is suspended, or its time limit. What was sent then is still found
-- where the resumption arrives, as long as somebody can receive it.
import WebRequest.Proofs.Suspension.Evolution

namespace WebRequest.Suspension

open Async

/-! ## The event that resumes a cycle -/

/-- Nothing has resumed the cycle at a place yet. -/
def suspendedAt (r : Request) (place : Nat) : Bool :=
  (r.lifecycle.cycle? place).any fun c => c.phase = .started

theorem suspendedAt_iff {r : Request} {place : Nat} {c : Cycle}
    (hc : r.lifecycle.cycle? place = some c) :
    suspendedAt r place = true ↔ c.phase = .started := by
  simp [suspendedAt, hc]

/-- What a call that succeeds resumes its cycle with, if the cycle is suspended. -/
def Call.resumption? (path : String) (suspended : Bool) : Call → Option Resumption
  | .complete => if suspended then some .complete else none
  | call => (call.target? path).map .dispatch

/-- What an event that happens to a request resumes the cycle at a place with. -/
def resumption? (r : Request) (place : Nat) : Event → Answer → Option Resumption
  | .operation (.call q call), .done =>
    if q = place then call.resumption? r.head.uri.path (suspendedAt r place) else none
  | .expiry q, .expired true => if q = place then some .timedOut else none
  | _, _ => none

/-- What the cycle at a place is resumed with at this moment. -/
def Moment.resumption? (m : Moment) (place : Nat) : Option Resumption :=
  Suspension.resumption? m.before place m.event m.answer

/-- All that the cycle at a place was resumed with. -/
def resumptions (moments : List Moment) (place : Nat) : List Resumption :=
  moments.filterMap fun m => m.resumption? place

@[simp] theorem resumptions_nil (place : Nat) : resumptions [] place = [] := rfl

theorem resumptions_snoc (moments : List Moment) (m : Moment) (place : Nat) :
    resumptions (moments ++ [m]) place =
      resumptions moments place ++ (m.resumption? place).toList := by
  rw [resumptions, List.filterMap_append]
  cases h : m.resumption? place <;> simp [resumptions, h]

/-- Only calls on the handles of a cycle, and its time limit, can resume it. -/
theorem resumption?_of_untouched {r : Request} {place : Nat} {e : Event} {a : Answer}
    (h : ¬ Touches e a place) : resumption? r place e a = none := by
  unfold resumption?
  split
  · rename_i q call
    have hq : q ≠ place := by
      rintro rfl
      exact h (.inl ⟨rfl, call, rfl⟩)
    rw [if_neg hq]
  · rename_i q
    have hq : q ≠ place := by
      rintro rfl
      exact h (.inr ⟨rfl, rfl⟩)
    rw [if_neg hq]
  · rfl

/-- An operation does not let the time run out. -/
theorem resumption?_ne_timedOut (r : Request) (place : Nat) (op : Operation) (a : Answer) :
    resumption? r place (.operation op) a ≠ some .timedOut := by
  unfold resumption?
  split
  · rename_i call _
    cases call <;> simp [Call.resumption?, Call.target?]
  · rename_i he
    cases he
  · simp

/-- A time limit that resumes a cycle is its own, and ended it. -/
theorem of_resumption?_expiry {r : Request} {place q : Nat} {a : Answer} {x : Resumption}
    (h : resumption? r place (.expiry q) a = some x) : q = place ∧ a = .expired true := by
  unfold resumption? at h
  split at h
  · rename_i he
    cases he
  · rename_i he
    split at h
    · rename_i hq
      cases he
      exact ⟨hq, rfl⟩
    · cases h
  · cases h

theorem path_of_change {l l' : Lifecycle} {e : Event} {a : Answer} {ns : List Notice}
    (h : Change l e a l' ns) : l'.path = l.path := by
  cases h <;> simp

theorem path_perform (r : Request) (e : Event) :
    (perform r e).state.lifecycle.path = r.lifecycle.path :=
  path_of_change (changedBy_perform r e)

theorem path_after {r : Request} (h : r.lifecycle.path = r.head.uri.path)
    (events : List Event) : (after r events).lifecycle.path = (after r events).head.uri.path := by
  refine Runs.after_induction (P := fun r : Request => r.lifecycle.path = r.head.uri.path)
    h ?_ events
  intro r e h
  rw [path_perform, head_perform, h]

/-! ## What was sent -/

/-- A suspended cycle has not been resumed. Any other one has been resumed once; what it was
resumed with was sent, unless its time ran out, and can be received as long as it is heard. -/
structure Signalled (rs : List Resumption) (c : Cycle) : Prop where
  suspended : c.phase = .started → rs = []
  resumed : c.phase ≠ .started →
    ∃ x, rs = [x] ∧ (c.heard = true → x ≠ .timedOut → c.sent = some x)

/-- An event that does not resume the cycle keeps what is known of its resumption, as long as
it keeps how far the cycle has come and what was sent. -/
theorem Signalled.eq_nil_iff {rs : List Resumption} {c : Cycle} (h : Signalled rs c) :
    rs = [] ↔ c.phase = .started := by
  refine ⟨fun hnone => ?_, h.suspended⟩
  by_contra started
  obtain ⟨x, hx, -⟩ := h.resumed started
  rw [hnone] at hx
  cases hx

/-- A cycle is resumed at most once. -/
theorem Signalled.length_le_one {rs : List Resumption} {c : Cycle} (h : Signalled rs c) :
    rs.length ≤ 1 := by
  by_cases started : c.phase = .started
  · rw [h.suspended started]
    exact Nat.zero_le 1
  · obtain ⟨x, hx, -⟩ := h.resumed started
    rw [hx]
    exact Nat.le_refl 1

theorem Signalled.eq_of_head? {rs : List Resumption} {c : Cycle} {x : Resumption}
    (h : Signalled rs c) (hx : rs.head? = some x) : rs = [x] := by
  obtain ⟨rest, rfl⟩ := List.head?_eq_some_iff.1 hx
  have hlen := h.length_le_one
  rw [List.length_cons] at hlen
  have hrest : rest.length = 0 := by omega
  rw [List.length_eq_zero_iff.1 hrest]

theorem Signalled.kept {rs : List Resumption} {c c' : Cycle} (h : Signalled rs c)
    (hphase : c'.phase = .started ↔ c.phase = .started) (hsent : c'.sent = c.sent)
    (hheard : c'.heard = true → c.heard = true) : Signalled rs c' := by
  refine ⟨fun hs => h.suspended (hphase.1 hs), fun hs => ?_⟩
  obtain ⟨x, hrs, hx⟩ := h.resumed (fun hc => hs (hphase.2 hc))
  exact ⟨x, hrs, fun hh hne => hsent.trans (hx (hheard hh) hne)⟩

theorem signalled_called {r : Request} {place : Nat} {call : Call} {c c' : Cycle}
    {ns : List Notice} {rs : List Resumption} (good : Good c) (h : Signalled rs c)
    (hc : r.lifecycle.cycle? place = some c) (hpath : c.path = r.head.uri.path)
    (hcalled : Called c call c' ns) :
    Signalled (rs ++ (call.resumption? r.head.uri.path (suspendedAt r place)).toList) c' := by
  cases hcalled with
  | @dispatched _ target resolved held started =>
    have hnew : call.resumption? r.head.uri.path (suspendedAt r place) =
        some (.dispatch target) := by
      rw [← hpath]
      cases call <;> simp_all [Call.resumption?, Call.target?]
    have armed := good.armed_iff.2 started
    rw [h.suspended started, hnew]
    refine ⟨by simp [signalled], fun _ => ⟨_, rfl, fun heard _ => ?_⟩⟩
    have heard' : c.heard = true := heard
    simp [signalled, armed, heard']
  | completed held open_ notPending =>
    by_cases started : c.phase = .started
    · have hsus : suspendedAt r place = true := by simp [suspendedAt, hc, started]
      have armed := good.armed_iff.2 started
      rw [h.suspended started, hsus]
      refine ⟨by simp [signalled], fun _ => ⟨.complete, rfl, fun heard _ => ?_⟩⟩
      have heard' : c.heard = true := heard
      simp [signalled, armed, heard']
    · have hsus : suspendedAt r place = false := by simp [suspendedAt, hc, started]
      have unarmed : c.armed = false := by
        rw [← Bool.not_eq_true, good.armed_iff]
        exact started
      obtain ⟨x, hrs, hx⟩ := h.resumed started
      rw [hsus]
      refine ⟨by simp [signalled], fun _ => ⟨x, by simpa [Call.resumption?] using hrs, ?_⟩⟩
      simpa [signalled, unarmed] using hx
  | timeoutSet live =>
    rw [Call.resumption?, Call.target?, Option.map_none, Option.toList_none, List.append_nil]
    · exact h.kept Iff.rfl rfl id
    all_goals simp
  | listenerAdded live =>
    rw [Call.resumption?, Call.target?, Option.map_none, Option.toList_none, List.append_nil]
    · exact h.kept Iff.rfl rfl id
    all_goals simp

/-- What holds of the resumption of a cycle before an event holds after it. -/
theorem signalled_evolves {r : Request} {place : Nat} {e : Event} {a : Answer} {c c' : Cycle}
    {own : List Notice} {rs : List Resumption} (good : Good c) (h : Signalled rs c)
    (hc : r.lifecycle.cycle? place = some c) (hpath : c.path = r.head.uri.path)
    (hev : Evolves r.lifecycle place e a c c' own) :
    Signalled (rs ++ (resumption? r place e a).toList) c' := by
  cases hev with
  | kept _ untouched =>
    rw [resumption?_of_untouched untouched]
    simpa using h
  | deafened _ untouched receiver =>
    rw [resumption?_of_untouched untouched, Option.toList_none, List.append_nil]
    exact h.kept Iff.rfl rfl (by simp [deafened])
  | superseded target result =>
    have closed_ : Signalled rs (closed c) := h.kept Iff.rfl rfl id
    rw [resumption?_of_untouched (by simp [Touches]), Option.toList_none, List.append_nil]
    rcases result with rfl | ⟨rfl, -⟩
    · exact closed_
    · exact closed_.kept Iff.rfl rfl (by simp [deafened])
  | entered current held pending =>
    rw [resumption?_of_untouched (by simp [Touches]), Option.toList_none, List.append_nil]
    exact h.kept Iff.rfl rfl id
  | returned target =>
    rw [resumption?_of_untouched (by simp [Touches]), Option.toList_none, List.append_nil]
    exact h.kept Iff.rfl rfl id
  | called hcalled =>
    rw [resumption?, if_pos rfl]
    exact signalled_called good h hc hpath hcalled
  | expired held started =>
    rw [resumption?, if_pos rfl, h.suspended started]
    exact ⟨by simp [timedOut], fun _ => ⟨.timedOut, by simp, by simp⟩⟩

/-! ## Runs -/

/-- What the cycles have been resumed with in a run. -/
structure Accounted (moments : List Moment) (l : Lifecycle) : Prop where
  signalled : ∀ p c, l.cycle? p = some c → Signalled (resumptions moments p) c
  unborn : ∀ p, l.cycle? p = none → resumptions moments p = []

theorem accounted_snoc {moments : List Moment} {r : Request} (hs : Sound r.lifecycle)
    (hpath : r.lifecycle.path = r.head.uri.path) (h : Accounted moments r.lifecycle)
    (e : Event) : Accounted (moments ++ [⟨r, e⟩]) (perform r e).state.lifecycle := by
  have hch : Change r.lifecycle e (⟨r, e⟩ : Moment).answer _ _ := changedBy_perform r e
  have unborn_kept : ∀ p, r.lifecycle.cycle? p = none →
      resumptions (moments ++ [⟨r, e⟩]) p = [] := by
    intro p hp
    have untouched : ¬ Touches e (⟨r, e⟩ : Moment).answer p := by
      intro ht
      obtain ⟨c, hc⟩ := exists_of_touches hch ht
      rw [hp] at hc
      cases hc
    rw [resumptions_snoc, h.unborn p hp, Moment.resumption?, resumption?_of_untouched untouched]
    rfl
  refine ⟨fun p c' hc' => ?_, fun p hp => unborn_kept p ?_⟩
  · cases hc : r.lifecycle.cycle? p with
    | none =>
      obtain ⟨exchange, l₀, -, -, rfl, -⟩ := born_of_change hch hc hc'
      rw [unborn_kept p hc]
      exact ⟨fun _ => rfl, fun hne => absurd rfl hne⟩
    | some c =>
      obtain ⟨c₁, own, hc₁, hev, -⟩ := evolves_of_change hch hc
      rw [hc', Option.some.injEq] at hc₁
      subst hc₁
      have f := hs.fits p c hc
      rw [resumptions_snoc]
      exact signalled_evolves f.good (h.signalled p c hc) hc (f.path_eq.trans hpath) hev
  · cases hc : r.lifecycle.cycle? p with
    | none => rfl
    | some c =>
      obtain ⟨c', _, hc', -⟩ := evolves_of_change hch hc
      rw [hp] at hc'
      cases hc'

/-- After every run from a request without suspensions, every cycle has been resumed as its
state says. -/
theorem accounted_history {r : Request} (h : r.lifecycle.cycles = []) (hs : Sound r.lifecycle)
    (hpath : r.lifecycle.path = r.head.uri.path) (events : List Event) :
    Accounted (history r events) (after r events).lifecycle := by
  induction events using List.reverseRecOn with
  | nil => exact ⟨fun p c hc => by simp [Lifecycle.cycle?, h] at hc, fun _ _ => rfl⟩
  | append_singleton es e ih =>
    rw [history, Runs.history_snoc, after, Runs.after_snoc]
    exact accounted_snoc (sound_after hs es) (path_after hpath es) ih e

/-- A cycle that was resumed is not resumed again. -/
theorem Signalled.unchanged {rs new : List Resumption} {x : Resumption} {c' : Cycle}
    (h : Signalled (rs ++ new) c') (hrs : rs = [x]) : rs ++ new = [x] := by
  subst hrs
  by_cases started : c'.phase = .started
  · cases h.suspended started
  · obtain ⟨y, hy, -⟩ := h.resumed started
    simp only [List.cons_append, List.nil_append, List.cons.injEq] at hy
    simp [hy.2]

end WebRequest.Suspension
