-- Reads of a body that are given up and made again. Whoever gives up leaves the frames that have not
-- been taken. A chunk that was waited for is still among them, but what has been collected of the
-- rest is not.
import WebRequest.Proofs.Body.Streaming

namespace WebRequest.Body

/-- Frames without data and without failures are passed over by whoever waits without end. -/
theorem feed_append_of_silent {σ : Type} (take : σ → Bytes → σ × Bool) (read : Nat) (s : σ)
    {front : List Frame} (data : dataOf front = []) (arrives : failure? front = none)
    (rest : List Frame) : feed take none read s (front ++ rest) = feed take none read s rest := by
  induction front with
  | nil => rfl
  | cons f front ih =>
    cases f with
    | failure fault => cases arrives
    | trailers => exact ih data arrives
    | waiting => exact ih data arrives
    | data chunk =>
      obtain ⟨empty, silent⟩ := List.append_eq_nil_iff.1 data
      subst empty
      exact ih silent arrives

/-- Reading all frames behind others comes to what reading them alone does, with the data of the
others in front. -/
theorem wholeOf_append {front : List Frame} (arrives : failure? front = none)
    (rest : List Frame) :
    wholeOf none (front ++ rest) = (wholeOf none rest).map (dataOf front ++ ·) := by
  have free (size : Nat) : ¬ exceeds none size = true := by
    simp [exceeds]
  unfold wholeOf
  rw [if_neg (free _), if_neg (free _), failure?_append arrives, dataOf_append arrives]
  cases failure? rest <;> rfl

namespace Cursor

/-- What somebody leaves of a body who gives up: some frames have been taken, and their bytes are
counted. -/
inductive LeftAfter (c : Cursor) (lost : Bytes) : Cursor → Prop
  | giving {t : Transport} {taken rest : List Frame} (transport : c.transport = some t)
      (split : t.frames = taken ++ rest) (arrives : failure? taken = none)
      (data : dataOf taken = lost) :
      LeftAfter c lost
        { transport := some { t with frames := rest }, read := c.read + lost.length }

theorem LeftAfter.count {c c' : Cursor} {lost : Bytes} (h : LeftAfter c lost c') :
    c'.read = c.read + lost.length := by
  cases h
  rfl

theorem LeftAfter.data {c c' : Cursor} {lost : Bytes} (h : LeftAfter c lost c') :
    lost ++ dataOf c'.left = dataOf c.left := by
  cases h with
  | giving transport split arrives data =>
    rw [left, left, transport, ← data]
    simp only [Option.map_some, Option.getD_some]
    rw [split, dataOf_append arrives]

/-- Whoever gives up waiting for a chunk has taken no data. -/
theorem leftAfter_nextChunk {p : Patience} {c : Cursor}
    (h : (nextChunk p c).answer = .abandoned) : LeftAfter c [] (nextChunk p c).state := by
  cases ht : c.transport with
  | none => simp [nextChunk, feed, ht] at h
  | some t =>
    have takes := takesChunk ht p
    generalize nextChunk p c = o at takes h ⊢
    cases takes with
    | abandoned split arrives nothing => exact .giving ht split arrives nothing
    | _ => cases h

/-- After a wait that was given up, the chunk can be waited for again. -/
theorem LeftAfter.nextChunk_eq {c c' : Cursor} (h : LeftAfter c [] c') :
    nextChunk none c' = nextChunk none c := by
  cases h with
  | giving transport split arrives data =>
    simp only [nextChunk, feed, transport, split, List.length_nil, Nat.add_zero,
      feed_append_of_silent _ _ _ data arrives]

/-- Unless it is given up, it makes no difference how long one would have waited for a chunk. -/
theorem nextChunk_of_patient (p : Patience) (c : Cursor) :
    (nextChunk p c).answer = .abandoned ∨ nextChunk p c = nextChunk none c := by
  rcases ht : c.transport with _ | t
  · exact .inr (by simp [nextChunk, feed, ht])
  · rcases feed_of_patient (fun _ chunk => (some chunk, true)) p c.read (none : Option Bytes)
      t.frames with given | same
    · exact .inl (by simp [nextChunk, feed, ht, given])
    · exact .inr (by simp [nextChunk, feed, ht, same])

theorem leftAfter_readToEnd {p : Patience} {c : Cursor}
    (h : (readToEnd none p c).answer = .abandoned) :
    ∃ lost, LeftAfter c lost (readToEnd none p c).state := by
  cases ht : c.transport with
  | none => simp [readToEnd, feed, ht] at h
  | some t =>
    obtain ⟨-, ending, cursor⟩ := feed_of_transport ht (Collected.add none) p {}
    obtain ⟨taken, took⟩ : ∃ taken, Took Consumer.all {} c.read t.frames
        (Body.feed (Collected.add none) p c.read {} t.frames) taken :=
      exists_took Consumer.all p c.read trivial t.frames
    unfold readToEnd at h ⊢
    simp only [ending, cursor] at h ⊢
    generalize Body.feed (Collected.add none) p c.read {} t.frames = fed at took h ⊢
    obtain ⟨s, rest, read, e⟩ := fed
    obtain ⟨split, rfl, -, failure, -, -, -⟩ := took
    cases e with
    | abandoned => exact ⟨_, .giving ht split failure rfl⟩
    | _ => cases h

/-- Whoever reads to the end without giving up leaves nothing, and has everything counted. -/
theorem state_readToEnd {c : Cursor} {t : Transport} (h : c.transport = some t) :
    (readToEnd none none c).state =
      { transport := none, read := c.read + (dataOf t.frames).length } := by
  have answer := readToEnd_of_transport none h
  have takes := takesRest h none
  generalize readToEnd none none c = o at takes answer ⊢
  cases takes with
  | abandoned => cases answer
  | ended => rfl
  | failed => rfl

/-- The rest that is read lacks what has been taken before, unless the body fails before its
end. -/
theorem LeftAfter.readToEnd_eq {c c' : Cursor} {lost : Bytes} (h : LeftAfter c lost c') :
    (readToEnd none none c').state = (readToEnd none none c).state ∧
      (readToEnd none none c).answer =
        (readToEnd none none c').answer.map (Except.map (lost ++ ·)) := by
  cases h with
  | giving transport split arrives data =>
    rw [state_readToEnd transport, state_readToEnd rfl, readToEnd_of_transport none transport,
      readToEnd_of_transport none rfl, split, wholeOf_append arrives, dataOf_append arrives, data,
      List.length_append, Nat.add_assoc]
    exact ⟨rfl, rfl⟩

end Cursor

end WebRequest.Body
