-- Reading a body to its end. What comes of it depends only on the data that arrive before the
-- first failure, and on that failure, but not on how the data are cut into frames, and not on
-- empty frames, trailers and waits between them.
import WebRequest.Body.Cursor

namespace WebRequest.Body

/-! ## What a transport delivers in all -/

/-- The first failure among frames. -/
def failure? : List Frame → Option TransportFault
  | [] => none
  | .failure fault :: _ => some fault
  | _ :: rest => failure? rest

/-- More bytes than a limit allows. -/
def exceeds (limit : Option Nat) (size : Nat) : Bool := limit.any (· < size)

/-- What reading all frames comes to under a limit: too many data are refused before a failure
that comes after them is met. -/
def wholeOf (limit : Option Nat) (frames : List Frame) : Except RequestFault Bytes :=
  if exceeds limit (dataOf frames).length then
    .error (.invalidParameters (.bodyTooLarge (limit.getD 0)))
  else
    match failure? frames with
    | some fault => .error (.ofTransport fault)
    | none => .ok (dataOf frames)

theorem exceeds_iff {limit : Option Nat} {size : Nat} :
    exceeds limit size = true ↔ ∃ l, limit = some l ∧ l < size := by
  cases limit <;> simp [exceeds]

/-- What exceeds a limit, exceeds it all the more with further data. -/
theorem exceeds_mono {limit : Option Nat} {m n : Nat} (hle : m ≤ n)
    (h : exceeds limit m = true) : exceeds limit n = true := by
  cases limit with
  | none => cases h
  | some l =>
    simp only [exceeds, Option.any_some, decide_eq_true_eq] at h ⊢
    omega

/-- What a consumer keeps with every chunk, it keeps over all frames. -/
theorem feed_keeps {σ : Type} {P : σ → Prop} {take : σ → Bytes → σ × Bool}
    (step : ∀ s chunk, P s → P (take s chunk).1) (p : Patience) (read : Nat) {s : σ} (h : P s)
    (frames : List Frame) : P (feed take p read s frames).state := by
  induction frames generalizing p read s with
  | nil => exact h
  | cons f frames ih =>
    cases f with
    | failure fault => exact h
    | trailers => exact ih p read h
    | waiting =>
      simp only [feed]
      split
      · exact ih _ read h
      · exact h
    | data chunk =>
      simp only [feed]
      split
      · exact ih p read h
      · split
        · exact step s chunk h
        · exact ih p _ (step s chunk h)

theorem feed_silent {σ : Type} (take : σ → Bytes → σ × Bool) (p : Patience) (read : Nat) (s : σ)
    {frames : List Frame} (data : dataOf frames = []) (arrives : failure? frames = none) :
    (feed take p read s frames).state = s ∧
      ((feed take p read s frames).ending = .finished ∨
        (feed take p read s frames).ending = .abandoned ∧
          dataOf (feed take p read s frames).rest = [] ∧
          failure? (feed take p read s frames).rest = none) := by
  induction frames generalizing p with
  | nil => exact ⟨rfl, .inl rfl⟩
  | cons f frames ih =>
    cases f with
    | failure fault => cases arrives
    | trailers => exact ih p data arrives
    | waiting =>
      simp only [feed]
      split
      · exact ih _ data arrives
      · exact ⟨rfl, .inr ⟨rfl, data, arrives⟩⟩
    | data chunk =>
      obtain ⟨empty, rest⟩ := List.append_eq_nil_iff.1 data
      subst empty
      exact ih p rest arrives

/-! ## Frames in part -/

/-- Whoever does not give up gets what one gets who waits without end. -/
theorem feed_of_patient {σ : Type} (take : σ → Bytes → σ × Bool) (p : Patience) (read : Nat) (s : σ)
    (frames : List Frame) :
    (feed take p read s frames).ending = .abandoned ∨
      feed take p read s frames = feed take none read s frames := by
  induction frames generalizing p read s with
  | nil => exact .inr rfl
  | cons frame frames ih =>
    cases frame with
    | failure fault => exact .inr rfl
    | trailers => exact ih p read s
    | waiting =>
      simp only [feed, Patience.afterWait_none]
      split
      · exact ih _ read s
      · exact .inl rfl
    | data chunk =>
      simp only [feed]
      split
      · exact ih p read s
      · split
        · exact .inr rfl
        · exact ih p _ _

/-- Whoever stops before the end does not look at what follows. -/
theorem feed_append_of_stopped {σ : Type} {take : σ → Bytes → σ × Bool} {p : Patience}
    {read : Nat} {s : σ} {front : List Frame}
    (stopped : (feed take p read s front).ending ≠ .finished) (rest : List Frame) :
    feed take p read s (front ++ rest) =
      { feed take p read s front with rest := (feed take p read s front).rest ++ rest } := by
  induction front generalizing p read s with
  | nil => exact absurd rfl stopped
  | cons frame front ih =>
    cases frame with
    | failure fault => rfl
    | trailers => exact ih stopped
    | waiting =>
      simp only [feed, List.cons_append] at stopped ⊢
      split
      · rename_i more
        rw [more] at stopped
        exact ih stopped
      · rfl
    | data chunk =>
      simp only [feed, List.cons_append] at stopped ⊢
      by_cases empty : chunk.isEmpty = true
      · rw [if_pos empty] at stopped
        rw [if_pos empty, if_pos empty]
        exact ih stopped
      · rw [if_neg empty] at stopped
        rw [if_neg empty, if_neg empty]
        by_cases enough : (take s chunk).2 = true
        · rw [if_pos enough, if_pos enough]
        · rw [if_neg enough] at stopped
          rw [if_neg enough, if_neg enough]
          exact ih stopped

/-! ## Collecting -/

namespace Cursor

/-- The size that is kept is that of the bytes. -/
def Collected.Sized (s : Collected) : Prop := s.size = s.bytes.length

theorem Collected.add_of_exceeds {limit : Option Nat} {s : Collected} {chunk : Bytes}
    (h : exceeds limit (s.size + chunk.length) = true) :
    s.add limit chunk = ({ s with exceeded := true }, true) := by
  unfold Collected.add
  exact if_pos h

theorem Collected.add_of_fits {limit : Option Nat} {s : Collected} {chunk : Bytes}
    (h : ¬ exceeds limit (s.size + chunk.length) = true) :
    s.add limit chunk =
      ({ s with chunks := chunk :: s.chunks, size := s.size + chunk.length }, false) := by
  unfold Collected.add
  exact if_neg h

@[simp] theorem Collected.bytes_cons (s : Collected) (chunk : Bytes) (size : Nat) :
    ({ s with chunks := chunk :: s.chunks, size } : Collected).bytes = s.bytes ++ chunk := by
  simp [Collected.bytes]

/-- How the collecting of frames ends, and what has been collected unless there was too much. -/
theorem feed_collected (limit : Option Nat) (frames : List Frame) (read : Nat) (s : Collected)
    (sized : s.Sized) (within : ¬ exceeds limit s.size = true) :
    let fed := Body.feed (Collected.add limit) none read s frames
    (exceeds limit (s.size + (dataOf frames).length) = true → fed.ending = .enough) ∧
      (¬ exceeds limit (s.size + (dataOf frames).length) = true →
        fed.ending = (match failure? frames with
          | some fault => .failed fault
          | none => .finished) ∧
        fed.state.bytes = s.bytes ++ dataOf frames) := by
  induction frames generalizing read s with
  | nil =>
    refine ⟨fun h => absurd h within, fun _ => ⟨rfl, ?_⟩⟩
    simp [Body.feed, dataOf]
  | cons f frames ih =>
    cases f with
    | failure fault =>
      refine ⟨fun h => absurd h within, fun _ => ⟨rfl, ?_⟩⟩
      simp [Body.feed, dataOf]
    | trailers => exact ih read s sized within
    | waiting => exact ih read s sized within
    | data chunk =>
      simp only [Body.feed, dataOf, failure?, List.length_append]
      by_cases empty : chunk.isEmpty = true
      · have hnil : chunk = [] := List.isEmpty_iff.1 empty
        subst hnil
        simpa using ih read s sized within
      · rw [if_neg empty]
        by_cases beyond : exceeds limit (s.size + chunk.length) = true
        · -- the chunk is refused, and so is whatever contains it
          rw [Collected.add_of_exceeds beyond]
          refine ⟨fun _ => rfl, fun h => absurd (exceeds_mono ?_ beyond) h⟩
          omega
        · rw [Collected.add_of_fits beyond]
          have sized' : Collected.Sized
              { s with chunks := chunk :: s.chunks, size := s.size + chunk.length } := by
            unfold Collected.Sized at sized ⊢
            rw [Collected.bytes_cons, List.length_append, ← sized]
          have rest := ih (read + chunk.length) _ sized' beyond
          rw [Collected.bytes_cons] at rest
          simpa [Nat.add_assoc] using rest

/-! ## The whole body -/

/-- A body that is read to its end comes to what its frames come to. -/
theorem readToEnd_of_transport (limit : Option Nat) {c : Cursor} {t : Transport}
    (h : c.transport = some t) :
    (readToEnd limit none c).answer = .ready (wholeOf limit t.frames) := by
  have nothing : ¬ exceeds limit 0 = true := by
    cases limit <;> simp [exceeds]
  have fed := feed_collected limit t.frames c.read {} rfl nothing
  simp only [Nat.zero_add] at fed
  unfold wholeOf
  by_cases beyond : exceeds limit (dataOf t.frames).length = true
  · have ending := fed.1 beyond
    rw [if_pos beyond]
    simp [readToEnd, feed, h, ending]
  · obtain ⟨ending, bytes⟩ := fed.2 beyond
    rw [if_neg beyond]
    cases hf : failure? t.frames with
    | some fault =>
      rw [hf] at ending
      simp [readToEnd, feed, h, ending]
    | none =>
      rw [hf] at ending
      have collected : ({} : Collected).bytes = [] := rfl
      rw [collected, List.nil_append] at bytes
      simp [readToEnd, feed, h, ending, bytes]

theorem readToEnd_start (limit : Option Nat) (t : Transport) :
    (readToEnd limit none (start t)).answer = .ready (wholeOf limit t.frames) :=
  readToEnd_of_transport limit rfl

/-- Unless it is given up, it makes no difference how long one would have waited. -/
theorem readToEnd_of_patient (limit : Option Nat) (p : Patience) (c : Cursor) :
    (readToEnd limit p c).answer = .abandoned ∨ readToEnd limit p c = readToEnd limit none c := by
  rcases ht : c.transport with _ | t
  · exact .inr (by simp [readToEnd, feed, ht])
  · rcases feed_of_patient (Collected.add limit) p c.read {} t.frames with given | same
    · exact .inl (by simp [readToEnd, feed, ht, given])
    · exact .inr (by simp [readToEnd, feed, ht, same])

/-- Once too much has been read, it makes no difference what follows, for it is never looked at. -/
theorem readToEnd_of_too_much {l : Nat} {front : List Frame} (beyond : l < (dataOf front).length)
    (p : Patience) (t : Transport) (rest : List Frame) :
    let early := readToEnd (some l) p (start { t with frames := front })
    let late := readToEnd (some l) p (start { t with frames := front ++ rest })
    late.answer = early.answer ∧ (early.answer ≠ .abandoned → late = early) := by
  have patient : (Body.feed (Collected.add (some l)) none 0 {} front).ending = .enough := by
    refine (feed_collected (some l) front 0 {} rfl (by simp [exceeds])).1 ?_
    rw [Nat.zero_add]
    exact exceeds_iff.2 ⟨l, rfl, beyond⟩
  rcases feed_of_patient (Collected.add (some l)) p 0 {} front with given | same
  · have stopped : (Body.feed (Collected.add (some l)) p 0 {} front).ending ≠ .finished := by
      rw [given]
      nofun
    have late := feed_append_of_stopped stopped rest
    simp [readToEnd, feed, start, late, given]
  · have enough := (congrArg Fed.ending same).trans patient
    have stopped : (Body.feed (Collected.add (some l)) p 0 {} front).ending ≠ .finished := by
      rw [enough]
      nofun
    have late := feed_append_of_stopped stopped rest
    simp [readToEnd, feed, start, late, enough]

theorem keeps_feed {σ : Type} {P : σ → Prop} {take : σ → Bytes → σ × Bool}
    (step : ∀ s chunk, P s → P (take s chunk).1) (p : Patience) {s : σ} (h : P s) (c : Cursor) :
    P (c.feed take p s).state := by
  unfold feed
  rcases c.transport with _ | t
  · exact h
  · have kept := Body.feed_keeps step p c.read h t.frames
    simp only
    split <;> exact kept

/-! ## A body that is over -/

/-- Whoever reads to the end, or fails, lets go of the transport. -/
theorem transport_readToEnd {limit : Option Nat} {p : Patience} {c : Cursor}
    (ran : (readToEnd limit p c).answer ≠ .abandoned) :
    (readToEnd limit p c).state.transport = none := by
  revert ran
  unfold readToEnd feed
  rcases ht : c.transport with _ | t
  · intro _
    exact ht
  · simp only
    rcases (Body.feed (Collected.add limit) p c.read {} t.frames).ending with _ | _ | fault | _
    · intro _
      rfl
    · intro _
      rfl
    · intro _
      rfl
    · intro ran
      exact absurd rfl ran

/-- Nothing is left of the body but trailers and waits. -/
def Exhausted (c : Cursor) : Prop :=
  ∀ t, c.transport = some t → dataOf t.frames = [] ∧ failure? t.frames = none

theorem exhausted_of_none {c : Cursor} (h : c.transport = none) : c.Exhausted := by
  intro t ht
  rw [h] at ht
  cases ht

theorem feed_of_exhausted {σ : Type} {c : Cursor} (h : c.Exhausted) (take : σ → Bytes → σ × Bool)
    (p : Patience) (s : σ) :
    (c.feed take p s).state = s ∧ (c.feed take p s).cursor.Exhausted ∧
      ((c.feed take p s).ending = .finished ∨ (c.feed take p s).ending = .abandoned) := by
  unfold feed
  rcases ht : c.transport with _ | t
  · exact ⟨rfl, exhausted_of_none ht, .inl rfl⟩
  · obtain ⟨data, arrives⟩ := h t ht
    obtain ⟨state, ending⟩ := feed_silent take p c.read s data arrives
    rcases ending with ending | ⟨ending, data', arrives'⟩
    · simp only [ending]
      exact ⟨state, exhausted_of_none rfl, .inl trivial⟩
    · simp only [ending]
      refine ⟨state, ?_, .inr trivial⟩
      intro t' ht'
      cases ht'
      exact ⟨data', arrives'⟩

theorem nextChunk_of_exhausted {c : Cursor} (h : c.Exhausted) (p : Patience) :
    (nextChunk p c).state.Exhausted ∧
      ((nextChunk p c).answer = .ready (.ok none) ∨ (nextChunk p c).answer = .abandoned) := by
  obtain ⟨state, exhausted, ending⟩ :=
    feed_of_exhausted h (fun _ chunk => (some chunk, true)) p (none : Option Bytes)
  refine ⟨exhausted, ?_⟩
  simp only [nextChunk]
  rcases ending with ending | ending
  · rw [ending, state]
    exact .inl rfl
  · rw [ending]
    exact .inr rfl

theorem readToEnd_of_exhausted {c : Cursor} (h : c.Exhausted) (limit : Option Nat) (p : Patience) :
    (readToEnd limit p c).state.Exhausted ∧
      ((readToEnd limit p c).answer = .ready (.ok []) ∨
        (readToEnd limit p c).answer = .abandoned) := by
  obtain ⟨state, exhausted, ending⟩ := feed_of_exhausted h (Collected.add limit) p {}
  simp only [readToEnd]
  rcases ending with ending | ending
  · rw [ending, state]
    exact ⟨exhausted, .inl rfl⟩
  · rw [ending]
    exact ⟨exhausted, .inr rfl⟩

end Cursor

end WebRequest.Body
