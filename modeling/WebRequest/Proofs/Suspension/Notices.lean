-- What listeners hear over a whole run. A listener hears nothing while its cycle takes
-- calls, hears of the ending once, and then nothing more. Within one ending the listeners
-- are told in the order in which they registered.
import Mathlib.Data.List.Nodup
import WebRequest.Proofs.Suspension.Evolution

namespace WebRequest.Suspension

open Async

/-! ## Registrations -/

/-- The label that an event registers on the cycle at a place. -/
def registered (e : Event) (a : Answer) (place : Nat) : Option (Option String) :=
  match e, a with
  | .operation (.call q (.addListener label)), .done => if q = place then some label else none
  | _, _ => none

def Moment.registers (m : Moment) (place : Nat) : Option (Option String) :=
  registered m.event m.answer place

/-- The registrations that were made on the cycle at a place, in order. -/
def registrations (moments : List Moment) (place : Nat) : List Registration :=
  (moments.filterMap (·.registers place)).mapIdx fun i label =>
    { cycle := place + 1, place := i, label }

theorem registrations_snoc (moments : List Moment) (m : Moment) (place : Nat) :
    registrations (moments ++ [m]) place = registrations moments place ++
      (m.registers place).toList.map fun label =>
        { cycle := place + 1, place := (registrations moments place).length, label } := by
  unfold registrations
  rw [List.filterMap_append]
  cases h : m.registers place with
  | none => simp [h]
  | some label => simp [h]

theorem registrations_nodup (moments : List Moment) (place : Nat) :
    (registrations moments place).Nodup := by
  unfold registrations
  rw [List.nodup_iff_injective_getElem]
  intro i j h
  simp only [List.getElem_mapIdx, Registration.mk.injEq] at h
  exact Fin.ext h.2.1

theorem cycle_of_mem_registrations {moments : List Moment} {place : Nat} {reg : Registration}
    (h : reg ∈ registrations moments place) : reg.cycle = place + 1 := by
  unfold registrations at h
  obtain ⟨i, hi, rfl⟩ := List.mem_mapIdx.1 h
  rfl

/-! ## Endings -/

/-- At this moment the cycle at a place ends: it took calls before, and takes none after. -/
def Moment.Ends (m : Moment) (place : Nat) : Prop :=
  ∃ c c', m.before.lifecycle.cycle? place = some c ∧ c.isLive = true ∧
    m.next.lifecycle.cycle? place = some c' ∧ c'.isLive = false

/-- How the cycle at a place ends, and what each of its listeners is told then: by itself with
its own exchange, by a start with the exchange of the new cycle. -/
inductive Ending (m : Moment) (place : Nat) (own : Exchange) : List (Occasion × Exchange) → Prop
  | completed (event : m.event = .operation (.call place .complete)) :
      Ending m place own [(.completion, own)]
  | returned (event : m.event = .operation .exitDispatch) :
      Ending m place own [(.completion, own)]
  | expired (event : m.event = .expiry place) :
      Ending m place own [(.timeout, own), (.completion, own)]
  | superseded {exchange : Exchange} {new : Nat} {c : Cycle}
      (event : m.event = .operation (.start exchange)) (answer : m.answer = .handle new)
      (cycle : m.next.lifecycle.cycle? new = some c) :
      Ending m place own [(.start, c.exchange)]

/-- All listeners are told of the first occasion, then all of the next one. -/
def told (listeners : List Registration) (occasions : List (Occasion × Exchange)) : List Notice :=
  occasions.flatMap fun (occasion, exchange) => listeners.map fun r => ⟨r, occasion, exchange⟩

/-- What a listener hears in some notices. -/
def heard (reg : Registration) (ns : List Notice) : List (Occasion × Exchange) :=
  ns.filterMap fun n => if n.registration = reg then some (n.occasion, n.exchange) else none

@[simp] theorem heard_append (reg : Registration) (a b : List Notice) :
    heard reg (a ++ b) = heard reg a ++ heard reg b := List.filterMap_append

/-- What a listener hears in all moments of a history. -/
def heardIn (reg : Registration) (moments : List Moment) : List (Occasion × Exchange) :=
  heard reg (moments.flatMap (·.notices))

theorem heardIn_snoc (reg : Registration) (moments : List Moment) (m : Moment) :
    heardIn reg (moments ++ [m]) = heardIn reg moments ++ heard reg m.notices := by
  simp [heardIn]

theorem heard_eq_nil {reg : Registration} {ns : List Notice}
    (h : ∀ n ∈ ns, n.registration ≠ reg) : heard reg ns = [] := by
  rw [heard, List.filterMap_eq_nil_iff]
  intro n hn
  simp [h n hn]

/-- A listener among those told hears each occasion once. -/
theorem heard_told {reg : Registration} {listeners : List Registration} (nodup : listeners.Nodup)
    (h : reg ∈ listeners) (occasions : List (Occasion × Exchange)) :
    heard reg (told listeners occasions) = occasions := by
  have once : ∀ o x, heard reg (listeners.map fun r => ⟨r, o, x⟩) = [(o, x)] := by
    intro o x
    obtain ⟨a, b, rfl⟩ := List.append_of_mem h
    have hreg := List.nodup_middle.1 nodup
    simp only [List.nodup_cons, List.mem_append, not_or] at hreg
    have ha : heard reg (a.map fun r => ⟨r, o, x⟩) = [] := by
      refine heard_eq_nil fun n hn => ?_
      obtain ⟨r, hr, rfl⟩ := List.mem_map.1 hn
      exact fun he => hreg.1.1 (he ▸ hr)
    have hb : heard reg (b.map fun r => ⟨r, o, x⟩) = [] := by
      refine heard_eq_nil fun n hn => ?_
      obtain ⟨r, hr, rfl⟩ := List.mem_map.1 hn
      exact fun he => hreg.1.2 (he ▸ hr)
    rw [List.map_append, List.map_cons, heard_append, ha, List.nil_append]
    show heard reg ([⟨reg, o, x⟩] ++ b.map fun r => ⟨r, o, x⟩) = _
    rw [heard_append, hb]
    simp [heard]
  induction occasions with
  | nil => rfl
  | cons p ps ih =>
    obtain ⟨o, x⟩ := p
    simp only [told, List.flatMap_cons, heard_append, once] at ih ⊢
    rw [ih]
    rfl

/-! ## One event -/

@[simp] theorem isLive_deafened (c : Cycle) : (deafened c).isLive = c.isLive := rfl

@[simp] theorem isLive_closed (c : Cycle) : (closed c).isLive = false := by
  rw [← Bool.not_eq_true, isLive_iff]
  simp [closed]

@[simp] theorem isLive_timedOut (c : Cycle) : (timedOut c).isLive = false := by
  rw [← Bool.not_eq_true, isLive_iff]
  simp [timedOut]

theorem isLive_of_inTarget {c : Cycle} (h : c.inTarget = true) : c.isLive = true := by
  obtain ⟨held, dispatched, -⟩ := inTarget_iff.1 h
  rw [isLive_iff]
  exact ⟨held, by simp [dispatched]⟩

theorem registered_of_untouched {e : Event} {a : Answer} {p : Nat} (h : ¬ Touches e a p) :
    registered e a p = none := by
  unfold registered
  split
  · rename_i q label
    split
    · rename_i hq
      subst hq
      exact absurd (.inl ⟨rfl, _, rfl⟩) h
    · rfl
  · rfl

/-- A cycle goes on and tells nobody; it may get one listener more. -/
def GoesOn (e : Event) (a : Answer) (p : Nat) (c c' : Cycle) (own : List Notice) : Prop :=
  c'.isLive = c.isLive ∧ own = [] ∧ (c.isLive = false → registered e a p = none) ∧
    c'.listeners = c.listeners ++ (registered e a p).toList.map (nextRegistration c)

/-- A cycle ends, and all its listeners are told. -/
def ComesToEnd (m : Moment) (p : Nat) (c c' : Cycle) (own : List Notice) : Prop :=
  c.isLive = true ∧ c'.isLive = false ∧ m.registers p = none ∧
    ∃ occasions, Ending m p c.exchange occasions ∧ own = told c.listeners occasions

theorem goesOn_same {e : Event} {a : Answer} {p : Nat} {c c' : Cycle}
    (live : c'.isLive = c.isLive) (listeners : c'.listeners = c.listeners)
    (none : registered e a p = none) : GoesOn e a p c c' [] :=
  ⟨live, rfl, fun _ => none, by simp [listeners, none]⟩

theorem goesOn_or_comesToEnd_of_called {r : Request} {p : Nat} {call : Call} {c c' : Cycle}
    {ns : List Notice} (h : Called c call c' ns) :
    GoesOn (.operation (.call p call)) .done p c c' ns ∨
      ComesToEnd ⟨r, .operation (.call p call)⟩ p c c' ns := by
  cases h with
  | dispatched resolved held started =>
    refine .inl (goesOn_same ?_ rfl ?_)
    · have live : c.isLive = true := isLive_iff.2 ⟨held, by simp [started]⟩
      rw [live, isLive_iff]
      exact ⟨held, by simp [signalled]⟩
    · cases call <;> simp [registered, Call.target?] at resolved ⊢
  | completed held open_ notPending =>
    refine .inr ⟨isLive_iff.2 ⟨held, open_⟩, ?_, ?_, _, .completed rfl, ?_⟩
    · rw [← Bool.not_eq_true, isLive_iff]
      simp [signalled]
    · simp [Moment.registers, registered]
    · simp [told]
  | timeoutSet live => exact .inl (goesOn_same rfl rfl (by simp [registered]))
  | listenerAdded live =>
    exact .inl ⟨rfl, rfl, by simp [live], by simp [registered]⟩

/-- Either a cycle goes on, or it comes to its end. -/
theorem goesOn_or_comesToEnd {r : Request} {e : Event} {p : Nat} {c c' : Cycle}
    {own : List Notice}
    (h : Evolves r.lifecycle p e (perform r e).answer c c' own) :
    GoesOn e (perform r e).answer p c c' own ∨ ComesToEnd ⟨r, e⟩ p c c' own := by
  have hch := changedBy_perform r e
  have answered : (⟨r, e⟩ : Moment).answer = (perform r e).answer := rfl
  unfold ChangedBy at hch
  generalize (perform r e).answer = a at h hch answered ⊢
  cases h with
  | kept _ untouched => exact .inl (goesOn_same rfl rfl (registered_of_untouched untouched))
  | deafened _ untouched _ =>
    exact .inl (goesOn_same rfl rfl (registered_of_untouched untouched))
  | superseded target result =>
    obtain ⟨d, hd, rfl⟩ := cycle_of_start hch
    refine .inr ⟨isLive_of_inTarget target, ?_, ?_, _, .superseded rfl answered hd, by simp [told]⟩
    · rcases result with rfl | ⟨rfl, -⟩ <;> simp
    · simp [Moment.registers, registered]
  | entered current held pending =>
    refine .inl (goesOn_same rfl rfl (by simp [registered]))
  | returned target =>
    refine .inr ⟨isLive_of_inTarget target, isLive_closed c, ?_, _, .returned rfl, by simp [told]⟩
    simp [Moment.registers, registered]
  | called hcalled => exact goesOn_or_comesToEnd_of_called hcalled
  | expired held started =>
    refine .inr ⟨isLive_iff.2 ⟨held, by simp [started]⟩, isLive_timedOut c, ?_, _, .expired rfl,
      by simp [told]⟩
    simp [Moment.registers, registered]

theorem Evolves.exchange_eq {l : Lifecycle} {e : Event} {a : Answer} {p : Nat} {c c' : Cycle}
    {own : List Notice} (h : Evolves l p e a c c' own) : c'.exchange = c.exchange := by
  cases h with
  | superseded target result => rcases result with rfl | ⟨rfl, -⟩ <;> rfl
  | called hcalled => exact hcalled.same.2.2.1
  | _ => rfl

/-- When anybody is told anything, a cycle comes to its end. -/
theorem ends_of_change {l l' : Lifecycle} {e : Event} {a : Answer} {ns : List Notice}
    (hch : Change l e a l' ns) (hne : ns ≠ []) :
    ∃ p c c', l.cycle? p = some c ∧ c.isLive = true ∧ l'.cycle? p = some c' ∧
      c'.isLive = false := by
  cases hch with
  | @relaunched exchange p c current cycle target =>
    obtain ⟨c', hc', hcase⟩ := cycle?_launch_kept exchange (cycle?_put_self cycle (closed c))
    refine ⟨p, c, c', cycle, isLive_of_inTarget target, hc', ?_⟩
    rcases hcase with rfl | ⟨rfl, -⟩ <;> simp
  | @returned p c current cycle target =>
    exact ⟨p, c, closed c, cycle, isLive_of_inTarget target, cycle?_put_self cycle (closed c),
      isLive_closed c⟩
  | called cycle hcalled =>
    cases hcalled with
    | completed held open_ notPending =>
      refine ⟨_, _, _, cycle, isLive_iff.2 ⟨held, open_⟩, cycle?_put_self cycle _, ?_⟩
      rw [← Bool.not_eq_true, isLive_iff]
      simp [signalled]
    | _ => exact absurd rfl hne
  | expired cycle held started =>
    exact ⟨_, _, _, cycle, isLive_iff.2 ⟨held, by simp [started]⟩, cycle?_put_self cycle _,
      isLive_timedOut _⟩
  | _ => exact absurd rfl hne

theorem notices_of_failed {l l' : Lifecycle} {e : Event} {f : RequestFault} {ns : List Notice}
    (hch : Change l e (.failed f) l' ns) : ns = [] := by
  cases hch <;> rfl

/-! ## Runs -/

/-- The listener heard of the end of its cycle, and of nothing else. -/
def HeardOfEnd (moments : List Moment) (p : Nat) (own : Exchange) (reg : Registration) : Prop :=
  ∃ before m later occasions, moments = before ++ m :: later ∧ m.Ends p ∧
    Ending m p own occasions ∧ heard reg m.notices = occasions ∧ heardIn reg moments = occasions

/-- What the listeners of all cycles have heard in a history. The listeners that a cycle still
has are those that registered on it, and they have heard nothing. -/
structure WellTold (moments : List Moment) (l : Lifecycle) : Prop where
  listening : ∀ p c, l.cycle? p = some c → c.isLive = true →
    c.listeners = registrations moments p
  unborn : ∀ p, l.cycle? p = none → registrations moments p = []
  waiting : ∀ p, (∀ c, l.cycle? p = some c → c.isLive = true) → ∀ reg, reg.cycle = p + 1 →
    heardIn reg moments = []
  ended : ∀ p c, l.cycle? p = some c → c.isLive = false → ∀ reg ∈ registrations moments p,
    HeardOfEnd moments p c.exchange reg

/-- Whoever is told anything is registered on the cycle of its number. -/
theorem WellTold.cycle_of_listener {moments : List Moment} {l : Lifecycle} (hs : Sound l)
    (h : WellTold moments l) {q : Nat} {d : Cycle} (hd : l.cycle? q = some d) {reg : Registration}
    (hreg : reg ∈ d.listeners) : reg.cycle = q + 1 := by
  have live : d.isLive = true := by
    by_contra hlive
    rw [(hs.fits q d hd).good.silent (by simpa using hlive)] at hreg
    cases hreg
  rw [h.listening q d hd live] at hreg
  exact cycle_of_mem_registrations hreg

/-- The notices for another cycle are not heard by the listeners of this one. -/
theorem WellTold.heard_of_apart {moments : List Moment} {l : Lifecycle} (hs : Sound l)
    (h : WellTold moments l) {p : Nat} {c c' : Cycle} {own all : List Notice}
    (apart : Apart l p c c' own all) {reg : Registration} (hreg : reg.cycle = p + 1) :
    heard reg all = heard reg own := by
  rcases apart with rfl | ⟨-, rfl, q, d, hq, hd, hall⟩
  · rfl
  · refine heard_eq_nil fun n hn he => ?_
    have := h.cycle_of_listener hs hd (hall n hn)
    rw [he, hreg] at this
    omega

/-- What an event does to a cycle, and what the listeners of this cycle hear of it. -/
theorem WellTold.one_event {moments : List Moment} {r : Request} (hs : Sound r.lifecycle)
    (h : WellTold moments r.lifecycle) (e : Event) {p : Nat} {c : Cycle}
    (hc : r.lifecycle.cycle? p = some c) :
    ∃ c' own, (perform r e).state.lifecycle.cycle? p = some c' ∧ c'.exchange = c.exchange ∧
      (GoesOn e (perform r e).answer p c c' own ∨ ComesToEnd ⟨r, e⟩ p c c' own) ∧
      ∀ reg : Registration, reg.cycle = p + 1 →
        heard reg (Moment.notices ⟨r, e⟩) = heard reg own := by
  obtain ⟨c', own, hc', hev, apart⟩ := evolves_of_change (changedBy_perform r e) hc
  exact ⟨c', own, hc', hev.exchange_eq, goesOn_or_comesToEnd hev,
    fun reg hreg => h.heard_of_apart hs apart hreg⟩

/-- No listener of a cycle that is not there hears anything. -/
theorem WellTold.heard_of_unborn {moments : List Moment} {r : Request} (hs : Sound r.lifecycle)
    (h : WellTold moments r.lifecycle) (e : Event) {p : Nat} (hc : r.lifecycle.cycle? p = none)
    {reg : Registration} (hreg : reg.cycle = p + 1) :
    heard reg (Moment.notices ⟨r, e⟩) = [] := by
  refine heard_eq_nil fun n hn he => ?_
  obtain ⟨q, d, hd, hmem⟩ := listener_of_notice (changedBy_perform r e) hn
  have := h.cycle_of_listener hs hd hmem
  rw [he, hreg, Nat.add_right_cancel_iff] at this
  subst this
  rw [hc] at hd
  cases hd

theorem registers_of_unborn {r : Request} (e : Event) {p : Nat}
    (hc : r.lifecycle.cycle? p = none) : Moment.registers ⟨r, e⟩ p = none := by
  refine registered_of_untouched fun ht => ?_
  obtain ⟨c, hc'⟩ := exists_of_touches (changedBy_perform r e) ht
  rw [hc] at hc'
  cases hc'

theorem registrations_snoc_none {moments : List Moment} {m : Moment} {p : Nat}
    (h : m.registers p = none) : registrations (moments ++ [m]) p = registrations moments p := by
  simp [registrations_snoc, h]

theorem HeardOfEnd.snoc {moments : List Moment} {p : Nat} {own : Exchange} {reg : Registration}
    (h : HeardOfEnd moments p own reg) {m : Moment} (hm : heard reg m.notices = []) :
    HeardOfEnd (moments ++ [m]) p own reg := by
  obtain ⟨before, n, later, occasions, rfl, ends, ending, heard_n, heard_all⟩ := h
  refine ⟨before, n, later ++ [m], occasions, by simp, ends, ending, heard_n, ?_⟩
  rw [heardIn_snoc, heard_all, hm, List.append_nil]

section

variable {moments : List Moment} {r : Request} {p : Nat} {c' : Cycle}

/-- The listeners of a cycle that takes calls are those that have registered on it. -/
theorem WellTold.listening_snoc (hs : Sound r.lifecycle) (h : WellTold moments r.lifecycle)
    (e : Event) (hc' : (perform r e).state.lifecycle.cycle? p = some c') (live : c'.isLive = true) :
    c'.listeners = registrations (moments ++ [⟨r, e⟩]) p := by
  cases hc : r.lifecycle.cycle? p with
  | none =>
    obtain ⟨exchange, l₀, -, -, rfl, -⟩ := born_of_change (changedBy_perform r e) hc hc'
    rw [registrations_snoc_none (registers_of_unborn e hc), h.unborn p hc]
    rfl
  | some c =>
    obtain ⟨c₁, own, hc₁, -, hcase, -⟩ := h.one_event hs e hc
    rw [hc', Option.some.injEq] at hc₁
    subst hc₁
    rcases hcase with ⟨same, -, -, hlisteners⟩ | hend
    · have hl := h.listening p c hc (same ▸ live)
      rw [hlisteners, registrations_snoc, ← hl]
      simp [Moment.registers, Runs.Moment.answer, Runs.Moment.outcome, nextRegistration,
        (hs.fits p c hc).numbered]
    · exact absurd live (by simp [hend.2.1])

/-- Nobody hears anything of a cycle that takes calls. -/
theorem WellTold.waiting_snoc (hs : Sound r.lifecycle) (h : WellTold moments r.lifecycle)
    (e : Event)
    (live : ∀ c, (perform r e).state.lifecycle.cycle? p = some c → c.isLive = true)
    {reg : Registration} (hreg : reg.cycle = p + 1) :
    heardIn reg (moments ++ [⟨r, e⟩]) = [] := by
  rw [heardIn_snoc]
  cases hc : r.lifecycle.cycle? p with
  | none =>
    rw [h.waiting p (by simp [hc]) reg hreg, h.heard_of_unborn hs e hc hreg, List.append_nil]
  | some c =>
    obtain ⟨c₁, own, hc₁, -, hcase, hheard⟩ := h.one_event hs e hc
    have live₁ := live c₁ hc₁
    rcases hcase with ⟨same, rfl, -⟩ | hend
    · have before : heardIn reg moments = [] :=
        h.waiting p (by rw [hc]; rintro _ ⟨⟩; exact same ▸ live₁) reg hreg
      rw [before, hheard reg hreg]
      rfl
    · exact absurd live₁ (by simp [hend.2.1])

/-- Whoever is registered on a cycle that has ended has heard of its end. -/
theorem WellTold.ended_snoc (hs : Sound r.lifecycle) (h : WellTold moments r.lifecycle)
    (e : Event) (hc' : (perform r e).state.lifecycle.cycle? p = some c')
    (ended : c'.isLive = false) {reg : Registration}
    (hmem : reg ∈ registrations (moments ++ [⟨r, e⟩]) p) :
    HeardOfEnd (moments ++ [⟨r, e⟩]) p c'.exchange reg := by
  cases hc : r.lifecycle.cycle? p with
  | none =>
    obtain ⟨exchange, l₀, -, -, rfl, -⟩ := born_of_change (changedBy_perform r e) hc hc'
    exact absurd ended (by simp [isLive_iff, freshCycle])
  | some c =>
    obtain ⟨c₁, own, hc₁, hex, hcase, hheard⟩ := h.one_event hs e hc
    rw [hc', Option.some.injEq] at hc₁
    subst hc₁
    have hreg := cycle_of_mem_registrations hmem
    rw [hex]
    rcases hcase with ⟨same, rfl, hnone, -⟩ | ⟨live, -, hnone, occasions, ending, rfl⟩
    · have dead : c.isLive = false := same ▸ ended
      rw [registrations_snoc_none (m := ⟨r, e⟩) (hnone dead)] at hmem
      exact (h.ended p c hc dead reg hmem).snoc (hheard reg hreg)
    · rw [registrations_snoc_none hnone] at hmem
      have before : heardIn reg moments = [] :=
        h.waiting p (by rw [hc]; rintro _ ⟨⟩; exact live) reg hreg
      have now : heard reg (Moment.notices ⟨r, e⟩) = occasions := by
        rw [hheard reg hreg, h.listening p c hc live]
        exact heard_told (registrations_nodup moments p) hmem occasions
      refine ⟨moments, ⟨r, e⟩, [], occasions, rfl, ⟨c, c', hc, live, hc', ended⟩, ending, now, ?_⟩
      rw [heardIn_snoc, before, now]
      rfl

theorem wellTold_snoc (hs : Sound r.lifecycle) (h : WellTold moments r.lifecycle) (e : Event) :
    WellTold (moments ++ [⟨r, e⟩]) (perform r e).state.lifecycle := by
  refine ⟨fun p c' hc' live => h.listening_snoc hs e hc' live, fun p hp => ?_,
    fun p live reg hreg => h.waiting_snoc hs e live hreg,
    fun p c' hc' ended reg hmem => h.ended_snoc hs e hc' ended hmem⟩
  cases hc : r.lifecycle.cycle? p with
  | none => rw [registrations_snoc_none (registers_of_unborn e hc), h.unborn p hc]
  | some c =>
    obtain ⟨c₁, own, hc₁, -⟩ := h.one_event hs e hc
    rw [hp] at hc₁
    cases hc₁

end

theorem wellTold_history {r : Request} (h : r.lifecycle.cycles = []) (hs : Sound r.lifecycle)
    (events : List Event) : WellTold (history r events) (after r events).lifecycle := by
  induction events using List.reverseRecOn with
  | nil =>
    have none_there : ∀ p, r.lifecycle.cycle? p = none := by simp [Lifecycle.cycle?, h]
    refine ⟨fun p c hc => ?_, fun p _ => rfl, fun p _ reg _ => rfl, fun p c hc => ?_⟩
    · simp [none_there] at hc
    · simp [none_there] at hc
  | append_singleton es e ih =>
    rw [history, Runs.history_snoc, after, Runs.after_snoc]
    exact wellTold_snoc (sound_after hs es) ih e

/-- When a cycle ends, nobody but its listeners is told, each of them of the ending. -/
theorem WellTold.notices_of_ends {moments : List Moment} {r : Request}
    (h : WellTold moments r.lifecycle) {e : Event} {p : Nat} {c : Cycle}
    (hc : r.lifecycle.cycle? p = some c) (hends : Moment.Ends ⟨r, e⟩ p) :
    ∃ occasions, Ending ⟨r, e⟩ p c.exchange occasions ∧
      Moment.notices ⟨r, e⟩ = told (registrations moments p) occasions := by
  obtain ⟨c₀, c', hc₀, live, hc', ended⟩ := hends
  change r.lifecycle.cycle? p = some c₀ at hc₀
  rw [hc, Option.some.injEq] at hc₀
  subst hc₀
  obtain ⟨c₁, own, hc₁, hev, apart⟩ := evolves_of_change (changedBy_perform r e) hc
  change (perform r e).state.lifecycle.cycle? p = some c' at hc'
  rw [hc', Option.some.injEq] at hc₁
  subst hc₁
  rcases goesOn_or_comesToEnd hev with ⟨same, -⟩ | ⟨-, -, -, occasions, ending, rfl⟩
  · rw [live, ended] at same
    cases same
  · refine ⟨occasions, ending, ?_⟩
    rw [← h.listening p c hc live]
    rcases apart with hall | ⟨rfl | rfl, -⟩
    · exact hall.symm
    · rw [live] at ended
      cases ended
    · rw [isLive_deafened, live] at ended
      cases ended

/-! ## The law -/

/-- Whatever happens to a request, and in whatever order. A listener hears nothing while its
cycle takes calls; once the cycle has ended it has heard what its ending says, all at the moment
of the ending, and it never hears anything else. At each ending the listeners are told in the
order in which they registered, of one occasion after the other. At all other moments nobody is
told anything, and an operation that fails tells nobody. -/
theorem every_listener_hears_of_one_ending (a : Request.Arrival) (s : Settings) (id : Nat)
    (events : List Event) :
    let r := Request.receive a s id
    let moments := history r events
    let now := after r events
    (∀ p c, now.lifecycle.cycle? p = some c → ∀ reg ∈ registrations moments p,
      (c.isLive = true → heardIn reg moments = []) ∧
        (c.isLive = false → HeardOfEnd moments p c.exchange reg)) ∧
    (∀ before m later, moments = before ++ m :: later →
      (∀ p c, m.before.lifecycle.cycle? p = some c → m.Ends p →
        ∃ occasions, Ending m p c.exchange occasions ∧
          m.notices = told (registrations before p) occasions) ∧
      ((∀ p, ¬ m.Ends p) → m.notices = []) ∧
      ∀ fault, m.answer = .failed fault → m.notices = []) := by
  intro r moments now
  have hs : Sound r.lifecycle := sound_receive a s id
  have h : WellTold moments now.lifecycle := wellTold_history rfl hs events
  refine ⟨fun p c hc reg hreg => ⟨fun live => ?_, fun ended => h.ended p c hc ended reg hreg⟩, ?_⟩
  · refine h.waiting p ?_ reg (cycle_of_mem_registrations hreg)
    rw [hc]
    rintro _ ⟨⟩
    exact live
  · intro before m later hm
    obtain ⟨es, fs, -, rfl, met, -⟩ := Runs.exists_of_history_eq hm
    obtain ⟨_, e⟩ := m
    obtain rfl : _ = after r es := met
    refine ⟨fun p c hc hends => ?_, fun hnone => ?_, fun fault hf => ?_⟩
    · exact (wellTold_history rfl hs es).notices_of_ends hc hends
    · by_contra hne
      obtain ⟨p, c, c', hc, live, hc', ended⟩ := ends_of_change (changedBy_perform _ e) hne
      exact hnone p ⟨c, c', hc, live, hc', ended⟩
    · have hch := changedBy_perform (after r es) e
      unfold ChangedBy at hch
      change Change _ _ (⟨after r es, e⟩ : Moment).answer _ _ at hch
      rw [hf] at hch
      exact notices_of_failed hch

end WebRequest.Suspension
