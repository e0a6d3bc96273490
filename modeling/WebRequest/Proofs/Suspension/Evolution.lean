-- How one cycle goes on from event to event. A cycle never disappears, and it changes only
-- by calls on its own handles, by its own time limit, and by what the request does with the
-- cycle that it holds.
import WebRequest.Proofs.Suspension.Invariant

namespace WebRequest.Suspension

open Async

/-- The event is a call on the cycle at a place that succeeds, or its time limit that ends it. -/
def Touches (e : Event) (a : Answer) (place : Nat) : Prop :=
  (a = .done ∧ ∃ call, e = .operation (.call place call)) ∨
    (a = .expired true ∧ e = .expiry place)

/-- What an event does to the cycle at a place, and what its listeners are told thereby. -/
inductive Evolves (l : Lifecycle) (place : Nat) :
    Event → Answer → Cycle → Cycle → List Notice → Prop
  | kept {e : Event} {a : Answer} (c : Cycle) (untouched : ¬ Touches e a place) :
      Evolves l place e a c c []
  | deafened {e : Event} {a : Answer} (c : Cycle) (untouched : ¬ Touches e a place)
      (receiver : l.receiver = some place) : Evolves l place e a c (deafened c) []
  | superseded {exchange : Exchange} {c c' : Cycle} (target : c.inTarget = true)
      (result : c' = closed c ∨ (c' = deafened (closed c) ∧ l.receiver = some place)) :
      Evolves l place (.operation (.start exchange)) (.handle l.cycles.length) c c'
        (c.listeners.map fun r => ⟨r, .start, exchange⟩)
  | entered {c : Cycle} (current : l.current = some place) (held : c.superseded = false)
      (pending : c.dispatchPending = true) :
      Evolves l place (.operation .enterDispatch) .done c { c with taken := true } []
  | returned {c : Cycle} (target : c.inTarget = true) :
      Evolves l place (.operation .exitDispatch) (.state .sync) c (closed c)
        (c.listeners.map fun r => ⟨r, .completion, c.exchange⟩)
  | called {call : Call} {c c' : Cycle} {ns : List Notice} (called : Called c call c' ns) :
      Evolves l place (.operation (.call place call)) .done c c' ns
  | expired {c : Cycle} (held : c.superseded = false) (started : c.phase = .started) :
      Evolves l place (.expiry place) (.expired true) c (timedOut c)
        (c.listeners.map (fun r => ⟨r, .timeout, c.exchange⟩) ++
          c.listeners.map fun r => ⟨r, .completion, c.exchange⟩)

/-- The notices of an event are those of the cycle at a place, or the event leaves that cycle
alone and all of them go to listeners of one other cycle. -/
def Apart (l : Lifecycle) (place : Nat) (c c' : Cycle) (own all : List Notice) : Prop :=
  own = all ∨ ((c' = c ∨ c' = deafened c) ∧ own = [] ∧ ∃ q d, q ≠ place ∧
    l.cycle? q = some d ∧ ∀ n ∈ all, n.registration ∈ d.listeners)

theorem Called.mem_listeners {c c' : Cycle} {call : Call} {ns : List Notice}
    (h : Called c call c' ns) : ∀ n ∈ ns, n.registration ∈ c.listeners := by
  cases h with
  | completed => simp
  | _ => simp

/-- Listeners of a cycle that are told twice are listeners of the cycle. -/
theorem mem_listeners_of_twice {rs : List Registration} {o o' : Occasion} {x : Exchange} :
    ∀ n ∈ (rs.map fun r => (⟨r, o, x⟩ : Notice)) ++ rs.map fun r => ⟨r, o', x⟩,
      n.registration ∈ rs := by
  intro n hn
  rcases List.mem_append.1 hn with h | h
  · obtain ⟨r, hr, rfl⟩ := List.mem_map.1 h
    exact hr
  · obtain ⟨r, hr, rfl⟩ := List.mem_map.1 h
    exact hr

/-- A start leaves a cycle as it is, or takes its receiver away. -/
theorem cycle?_launch_kept {l : Lifecycle} {place : Nat} {c : Cycle} (exchange : Exchange)
    (hc : l.cycle? place = some c) :
    ∃ c', (l.launch exchange).cycle? place = some c' ∧
      (c' = c ∨ (c' = deafened c ∧ l.receiver = some place)) := by
  rw [cycle?_launch_old exchange (lt_of_cycle? hc), cycle?_dropReceiver, hc]
  simp only [Option.map_some, Option.some.injEq, exists_eq_left']
  split
  · exact .inr ⟨rfl, ‹_›⟩
  · exact .inl rfl

/-- A change of the cycle at one place, seen from the place `p`. -/
theorem evolves_put {l : Lifecycle} {e : Event} {a : Answer} {ns : List Notice} {p q : Nat}
    {c d d' : Cycle} (hc : l.cycle? p = some c) (hd : l.cycle? q = some d)
    (self : p = q → d = c → Evolves l p e a c d' ns) (other : p ≠ q → ¬ Touches e a p)
    (hns : ∀ n ∈ ns, n.registration ∈ d.listeners) :
    ∃ c' own, (put l q d').cycle? p = some c' ∧ Evolves l p e a c c' own ∧ Apart l p c c' own ns := by
  by_cases hq : p = q
  · subst hq
    rw [hc, Option.some.injEq] at hd
    exact ⟨d', ns, cycle?_put_self hc d', self rfl hd.symm, .inl rfl⟩
  · refine ⟨c, [], ?_, .kept c (other hq), .inr ⟨.inl rfl, rfl, q, d, Ne.symm hq, hd, hns⟩⟩
    rw [cycle?_put_ne l (Ne.symm hq), hc]

/-- A start from the target of a dispatch, seen from the place `p`. -/
theorem evolves_relaunch {l : Lifecycle} {exchange : Exchange} {p q : Nat} {c d : Cycle}
    (hc : l.cycle? p = some c) (hd : l.cycle? q = some d)
    (target : d.inTarget = true) :
    ∃ c' own, ((put l q (closed d)).launch exchange).cycle? p = some c' ∧
      Evolves l p (.operation (.start exchange)) (.handle l.cycles.length) c c' own ∧
      Apart l p c c' own (d.listeners.map fun r => ⟨r, .start, exchange⟩) := by
  by_cases hq : p = q
  · subst hq
    rw [hc, Option.some.injEq] at hd
    subst hd
    obtain ⟨c', hc', hcase⟩ := cycle?_launch_kept exchange (cycle?_put_self hc (closed c))
    exact ⟨c', _, hc', .superseded target hcase, .inl rfl⟩
  · have hput := cycle?_put_ne l (Ne.symm hq) (closed d)
    rw [hc] at hput
    obtain ⟨c', hc', hcase⟩ := cycle?_launch_kept exchange hput
    have away : Apart l p c c' [] (d.listeners.map fun r => ⟨r, .start, exchange⟩) :=
      .inr ⟨hcase.imp_right And.left, rfl, q, d, Ne.symm hq, hd, by simp⟩
    refine ⟨c', [], hc', ?_, away⟩
    rcases hcase with rfl | ⟨rfl, hr⟩
    · exact .kept _ (by simp [Touches])
    · exact .deafened _ (by simp [Touches]) hr

/-- Every cycle that is there goes on, in one of the ways of `Evolves`. -/
theorem evolves_of_change {l l' : Lifecycle} {e : Event} {a : Answer} {ns : List Notice}
    (hch : Change l e a l' ns) {p : Nat} {c : Cycle} (hc : l.cycle? p = some c) :
    ∃ c' own, l'.cycle? p = some c' ∧ Evolves l p e a c c' own ∧ Apart l p c c' own ns := by
  cases hch with
  | refused | absent | contextGiven | stayed | notExpired | spanGiven =>
    exact ⟨c, [], hc, .kept c (by simp [Touches]), .inl rfl⟩
  | noSpan =>
    have hd := cycle?_dropReceiver l p
    rw [hc, Option.map_some] at hd
    split at hd
    · exact ⟨_, [], hd, .deafened c (by simp [Touches]) ‹_›, .inl rfl⟩
    · exact ⟨_, [], hd, .kept c (by simp [Touches]), .inl rfl⟩
  | launched sync =>
    obtain ⟨c', hc', rfl | ⟨rfl, hr⟩⟩ := cycle?_launch_kept _ hc
    · exact ⟨_, [], hc', .kept _ (by simp [Touches]), .inl rfl⟩
    · exact ⟨_, [], hc', .deafened _ (by simp [Touches]) hr, .inl rfl⟩
  | relaunched current cycle target => exact evolves_relaunch hc cycle target
  | entered current cycle held pending =>
    refine evolves_put hc cycle (fun hp hd => ?_) (by simp [Touches]) (by simp)
    subst hp hd
    exact .entered current held pending
  | returned current cycle target =>
    refine evolves_put hc cycle (fun hp hd => ?_) (by simp [Touches]) (by simp)
    subst hp hd
    exact .returned target
  | called cycle hcalled =>
    refine evolves_put hc cycle (fun hp hd => ?_) (fun hq => ?_) hcalled.mem_listeners
    · subst hp hd
      exact .called hcalled
    · simpa [Touches] using Ne.symm hq
  | expired cycle held started =>
    refine evolves_put hc cycle (fun hp hd => ?_) (fun hq => ?_) mem_listeners_of_twice
    · subst hp hd
      exact .expired held started
    · simpa [Touches] using Ne.symm hq

/-- A cycle that was not there before is the one that a start has just added. -/
theorem born_of_change {l l' : Lifecycle} {e : Event} {a : Answer} {ns : List Notice}
    (hch : Change l e a l' ns) {p : Nat} {c : Cycle} (hnone : l.cycle? p = none)
    (hc : l'.cycle? p = some c) :
    ∃ exchange l₀, e = .operation (.start exchange) ∧ a = .handle p ∧ c = freshCycle l₀ exchange ∧
      p = l.cycles.length := by
  have hle : l.cycles.length ≤ p := List.getElem?_eq_none_iff.1 hnone
  have hlt := lt_of_cycle? hc
  have grown : ∀ {q : Nat} {d : Cycle}, p < (put l q d).cycles.length → False := by
    intro q d h
    rw [length_cycles_put] at h
    omega
  cases hch with
  | refused | absent | contextGiven | stayed | notExpired | spanGiven =>
    have h : p < l.cycles.length := hlt
    omega
  | noSpan =>
    rw [length_cycles_dropReceiver] at hlt
    omega
  | launched sync =>
    rw [Lifecycle.length_cycles_launch] at hlt
    have hp : p = l.cycles.length := by omega
    subst hp
    rw [cycle?_launch_new, Option.some.injEq] at hc
    exact ⟨_, l, rfl, rfl, hc.symm, rfl⟩
  | @relaunched exchange q d current cycle target =>
    rw [Lifecycle.length_cycles_launch, length_cycles_put] at hlt
    have hp : p = l.cycles.length := by omega
    subst hp
    have hnew := cycle?_launch_new (put l q (closed d)) exchange
    rw [length_cycles_put, hc, Option.some.injEq] at hnew
    exact ⟨_, _, rfl, rfl, hnew, rfl⟩
  | entered | called | expired => exact (grown hlt).elim
  | returned current cycle target =>
    simp only [length_cycles_put] at hlt
    omega

/-- Only a cycle that is there can be called, or run out of time. -/
theorem exists_of_touches {l l' : Lifecycle} {e : Event} {a : Answer} {ns : List Notice}
    (hch : Change l e a l' ns) {p : Nat} (h : Touches e a p) : ∃ c, l.cycle? p = some c := by
  rcases h with ⟨rfl, call, rfl⟩ | ⟨rfl, rfl⟩
  · cases hch with
    | called cycle hcalled => exact ⟨_, cycle⟩
  · cases hch with
    | expired cycle held started => exact ⟨_, cycle⟩

theorem listener_of_notice {l l' : Lifecycle} {e : Event} {a : Answer} {ns : List Notice}
    (hch : Change l e a l' ns) {n : Notice} (hn : n ∈ ns) :
    ∃ q d, l.cycle? q = some d ∧ n.registration ∈ d.listeners := by
  cases hch with
  | relaunched current cycle target =>
    obtain ⟨r, hr, rfl⟩ := List.mem_map.1 hn
    exact ⟨_, _, cycle, hr⟩
  | returned current cycle target =>
    obtain ⟨r, hr, rfl⟩ := List.mem_map.1 hn
    exact ⟨_, _, cycle, hr⟩
  | called cycle hcalled => exact ⟨_, _, cycle, hcalled.mem_listeners n hn⟩
  | expired cycle held started => exact ⟨_, _, cycle, mem_listeners_of_twice n hn⟩
  | _ => cases hn

/-- The handle that a start answers is that of a cycle with the exchange it was given. -/
theorem cycle_of_start {l l' : Lifecycle} {exchange : Exchange} {p : Nat} {ns : List Notice}
    (hch : Change l (.operation (.start exchange)) (.handle p) l' ns) :
    ∃ c, l'.cycle? p = some c ∧ c.exchange = exchange := by
  cases hch with
  | launched sync => exact ⟨_, cycle?_launch_new l exchange, rfl⟩
  | @relaunched _ q d current cycle target =>
    have hnew := cycle?_launch_new (put l q (closed d)) exchange
    rw [length_cycles_put] at hnew
    exact ⟨_, hnew, rfl⟩

end WebRequest.Suspension
