-- What is taken from a body as bytes. Whoever takes chunks, and however long, the frames part into
-- those that have been taken and those that are left, and what was handed out is the data of the
-- first part.
import WebRequest.Proofs.Body.Drain

namespace WebRequest.Body

theorem dataOf_append {a : List Frame} (arrives : failure? a = none) (b : List Frame) :
    dataOf (a ++ b) = dataOf a ++ dataOf b := by
  induction a with
  | nil => rfl
  | cons f a ih =>
    cases f with
    | failure fault => cases arrives
    | data bytes =>
      rw [List.cons_append, dataOf, dataOf, ih arrives, List.append_assoc]
    | trailers => exact ih arrives
    | waiting => exact ih arrives

theorem failure?_append {a : List Frame} (arrives : failure? a = none) (b : List Frame) :
    failure? (a ++ b) = failure? b := by
  induction a with
  | nil => rfl
  | cons f a ih =>
    cases f with
    | failure fault => cases arrives
    | _ => exact ih arrives

theorem append_of_failure {a : List Frame} {fault : TransportFault}
    (failure : failure? a = some fault) (b : List Frame) :
    dataOf (a ++ b) = dataOf a ∧ failure? (a ++ b) = some fault := by
  induction a with
  | nil => cases failure
  | cons f a ih =>
    cases f with
    | failure fault' => exact ⟨rfl, failure⟩
    | data bytes =>
      obtain ⟨data, failure'⟩ := ih failure
      exact ⟨congrArg (bytes ++ ·) data, failure'⟩
    | trailers => exact ih failure
    | waiting => exact ih failure

/-! ## Consumers of bytes -/

/-- A consumer whose state tells the bytes that it has been given. -/
structure Consumer (σ : Type) where
  take : σ → Bytes → σ × Bool
  bytes : σ → Bytes
  /-- The consumer is ready for a chunk. -/
  Ready : σ → Prop
  given : ∀ {s} (chunk : Bytes), Ready s → bytes (take s chunk).1 = bytes s ++ chunk
  stays : ∀ {s} (chunk : Bytes), Ready s → (take s chunk).2 = false → Ready (take s chunk).1

def Consumer.single : Consumer (Option Bytes) where
  take _ chunk := (some chunk, true)
  bytes s := s.getD []
  Ready s := s = none
  given chunk ready := by
    subst ready
    rfl
  stays chunk _ more := by cases more

def Consumer.all : Consumer Cursor.Collected where
  take := Cursor.Collected.add none
  bytes := Cursor.Collected.bytes
  Ready _ := True
  given {s} chunk _ := s.bytes_cons chunk (s.size + chunk.length)
  stays _ _ _ := trivial

/-- The failure that a consumer was stopped by. -/
def Ending.failure? : Ending → Option TransportFault
  | .failed fault => some fault
  | _ => none

variable {σ : Type}

/-- What a consumer has taken of some frames: their data up to the first failure, and no more than
the frames before those that are left. -/
structure Took (k : Consumer σ) (s : σ) (read : Nat) (frames : List Frame) (fed : Fed σ)
    (taken : List Frame) : Prop where
  split : frames = taken ++ fed.rest
  read : fed.read = read + (dataOf taken).length
  bytes : k.bytes fed.state = k.bytes s ++ dataOf taken
  failure : Body.failure? taken = fed.ending.failure?
  finished : fed.ending = .finished → fed.rest = []
  ready : fed.ending ≠ .enough → k.Ready fed.state
  enough : fed.ending = .enough → ∃ s chunk, chunk ≠ [] ∧ k.take s chunk = (fed.state, true)

namespace Took

variable {k : Consumer σ} {s s' : σ} {read : Nat} {frames taken : List Frame} {fed : Fed σ}

/-- A frame in front that brings a chunk, perhaps an empty one. -/
theorem cons {f : Frame} {chunk : Bytes} (h : Took k s' (read + chunk.length) frames fed taken)
    (given : k.bytes s' = k.bytes s ++ chunk) (data : dataOf (f :: taken) = chunk ++ dataOf taken)
    (arrives : failure? (f :: taken) = failure? taken) :
    Took k s read (f :: frames) fed (f :: taken) := by
  refine ⟨congrArg (f :: ·) h.split, ?_, ?_, arrives.trans h.failure, h.finished, h.ready,
    h.enough⟩
  · rw [h.read, data, List.length_append, Nat.add_assoc]
  · rw [h.bytes, given, data, List.append_assoc]

/-- A frame in front that brings nothing. -/
theorem pass {f : Frame} (h : Took k s read frames fed taken)
    (data : dataOf (f :: taken) = dataOf taken)
    (arrives : failure? (f :: taken) = failure? taken) :
    Took k s read (f :: frames) fed (f :: taken) := by
  have given : k.bytes s = k.bytes s ++ [] := (List.append_nil _).symm
  exact h.cons given data arrives

end Took

theorem exists_took (k : Consumer σ) (p : Patience) (read : Nat) {s : σ} (ready : k.Ready s)
    (frames : List Frame) : ∃ taken, Took k s read frames (feed k.take p read s frames) taken := by
  induction frames generalizing p read s with
  | nil =>
    refine ⟨[], rfl, rfl, (List.append_nil _).symm, rfl, fun _ => rfl, fun _ => ready, ?_⟩
    rintro ⟨⟩
  | cons f frames ih =>
    cases f with
    | failure fault =>
      refine ⟨[.failure fault], rfl, rfl, (List.append_nil _).symm, rfl, ?_, fun _ => ready, ?_⟩
      · rintro ⟨⟩
      · rintro ⟨⟩
    | trailers =>
      obtain ⟨taken, took⟩ := ih p read ready
      exact ⟨.trailers :: taken, took.pass rfl rfl⟩
    | waiting =>
      simp only [feed]
      cases p.afterWait with
      | none =>
        refine ⟨[.waiting], rfl, rfl, (List.append_nil _).symm, rfl, ?_, fun _ => ready, ?_⟩
        · rintro ⟨⟩
        · rintro ⟨⟩
      | some p' =>
        obtain ⟨taken, took⟩ := ih p' read ready
        exact ⟨.waiting :: taken, took.pass rfl rfl⟩
    | data chunk =>
      simp only [feed]
      by_cases empty : chunk.isEmpty = true
      · obtain ⟨taken, took⟩ := ih p read ready
        rw [if_pos empty, List.isEmpty_iff.1 empty]
        exact ⟨.data [] :: taken, took.pass rfl rfl⟩
      · rw [if_neg empty]
        by_cases full : (k.take s chunk).2 = true
        · rw [if_pos full]
          have data : dataOf [.data chunk] = chunk := List.append_nil chunk
          refine ⟨[.data chunk], rfl, ?_, ?_, rfl, ?_, fun more => absurd rfl more,
            fun _ => ⟨s, chunk, mt List.isEmpty_iff.2 empty, ?_⟩⟩
          · rw [data]
          · rw [data]
            exact k.given chunk ready
          · rintro ⟨⟩
          · rw [← full]
        · rw [if_neg full]
          obtain ⟨taken, took⟩ :=
            ih p (read + chunk.length) (k.stays chunk ready (eq_false_of_ne_true full))
          exact ⟨.data chunk :: taken, took.cons (k.given chunk ready) rfl rfl⟩

/-! ## Cursors -/

/-- The consumer stopped because the body is over. -/
def Ending.isOver : Ending → Bool
  | .finished | .failed _ => true
  | _ => false

namespace Cursor

/-- The frames that are left behind a cursor. -/
def left (c : Cursor) : List Frame := (c.transport.map (·.frames)).getD []

/-- What a consumer comes to that takes frames through a cursor. -/
theorem feed_of_transport {c : Cursor} {t : Transport} (h : c.transport = some t)
    (take : σ → Bytes → σ × Bool) (p : Patience) (s : σ) :
    let fed := Body.feed take p c.read s t.frames
    (c.feed take p s).state = fed.state ∧ (c.feed take p s).ending = fed.ending ∧
      (c.feed take p s).cursor =
        { transport := if fed.ending.isOver then none else some { t with frames := fed.rest },
          read := fed.read } := by
  intro fed
  unfold feed
  rw [h]
  simp only
  rcases he : fed.ending with _ | _ | fault | _ <;> exact ⟨rfl, rfl, rfl⟩

/-- How a read of a chunk goes on from a transport. -/
inductive TakesChunk (t : Transport) (read : Nat) : Waiting Cursor (Option Bytes) → Prop
  | chunk {taken rest : List Frame} {effects : List Effect} (split : t.frames = taken ++ rest)
      (arrives : failure? taken = none) (nonempty : dataOf taken ≠ []) :
      TakesChunk t read
        { answer := .ready (.ok (some (dataOf taken))),
          state := { transport := some { t with frames := rest },
                     read := read + (dataOf taken).length },
          effects }
  | abandoned {taken rest : List Frame} {effects : List Effect} (split : t.frames = taken ++ rest)
      (arrives : failure? taken = none) (nothing : dataOf taken = []) :
      TakesChunk t read
        { answer := .abandoned, state := { transport := some { t with frames := rest }, read },
          effects }
  | ended {effects : List Effect} (arrives : failure? t.frames = none)
      (nothing : dataOf t.frames = []) :
      TakesChunk t read
        { answer := .ready (.ok none), state := { transport := none, read }, effects }
  | failed {fault : TransportFault} {effects : List Effect}
      (failure : failure? t.frames = some fault) (nothing : dataOf t.frames = []) :
      TakesChunk t read
        { answer := .ready (.error (.ofTransport fault)), state := { transport := none, read },
          effects }

theorem takesChunk {c : Cursor} {t : Transport} (h : c.transport = some t) (p : Patience) :
    TakesChunk t c.read (nextChunk p c) := by
  obtain ⟨state, ending, cursor⟩ :=
    feed_of_transport h (fun _ chunk => (some chunk, true)) p (none : Option Bytes)
  obtain ⟨taken, took⟩ : ∃ taken, Took Consumer.single none c.read t.frames
      (Body.feed (fun _ chunk => (some chunk, true)) p c.read none t.frames) taken :=
    exists_took Consumer.single p c.read rfl t.frames
  unfold nextChunk
  simp only [ending, state, cursor]
  generalize Body.feed (fun _ chunk => (some chunk, true)) p c.read none t.frames = fed at took ⊢
  obtain ⟨s, rest, read, e⟩ := fed
  obtain ⟨split, rfl, bytes, failure, finished, ready, enough⟩ := took
  have nothing (more : e ≠ .enough) : s = none ∧ dataOf taken = [] := by
    have empty : s = none := ready more
    subst empty
    exact ⟨rfl, bytes.symm⟩
  cases e with
  | enough =>
    obtain ⟨_, chunk, nonempty, given⟩ := enough rfl
    obtain ⟨rfl, -⟩ := Prod.mk.inj given
    have data : chunk = dataOf taken := bytes
    subst data
    exact .chunk split failure nonempty
  | finished =>
    obtain ⟨rfl, empty⟩ := nothing (by rintro ⟨⟩)
    rw [finished rfl, List.append_nil] at split
    rw [← split] at failure empty
    rw [← split, empty]
    exact .ended failure empty
  | failed fault =>
    obtain ⟨rfl, empty⟩ := nothing (by rintro ⟨⟩)
    obtain ⟨data, failure'⟩ := append_of_failure failure rest
    rw [← split] at data failure'
    rw [empty]
    exact .failed failure' (data.trans empty)
  | abandoned =>
    obtain ⟨rfl, empty⟩ := nothing (by rintro ⟨⟩)
    rw [empty]
    exact .abandoned split failure empty

theorem nextChunk_ne_nil (p : Patience) (c : Cursor) :
    (nextChunk p c).answer ≠ .ready (.ok (some [])) := by
  cases ht : c.transport with
  | none => simp [nextChunk, feed, ht]
  | some t =>
    have takes := takesChunk ht p
    generalize nextChunk p c = o at takes
    cases takes with
    | chunk _ _ nonempty => simpa using nonempty
    | abandoned => rintro ⟨⟩
    | ended => rintro ⟨⟩
    | failed => rintro ⟨⟩

/-- How a read of the rest goes on from a transport, unless it is given up. -/
inductive TakesRest (t : Transport) (read : Nat) : Waiting Cursor Bytes → Prop
  | abandoned {c : Cursor} {effects : List Effect} :
      TakesRest t read { answer := .abandoned, state := c, effects }
  | ended {effects : List Effect} (arrives : failure? t.frames = none) :
      TakesRest t read
        { answer := .ready (.ok (dataOf t.frames)),
          state := { transport := none, read := read + (dataOf t.frames).length }, effects }
  | failed {fault : TransportFault} {effects : List Effect}
      (failure : failure? t.frames = some fault) :
      TakesRest t read
        { answer := .ready (.error (.ofTransport fault)),
          state := { transport := none, read := read + (dataOf t.frames).length }, effects }

theorem takesRest {c : Cursor} {t : Transport} (h : c.transport = some t) (p : Patience) :
    TakesRest t c.read (readToEnd none p c) := by
  obtain ⟨state, ending, cursor⟩ := feed_of_transport h (Collected.add none) p {}
  obtain ⟨taken, took⟩ : ∃ taken, Took Consumer.all {} c.read t.frames
      (Body.feed (Collected.add none) p c.read {} t.frames) taken :=
    exists_took Consumer.all p c.read trivial t.frames
  unfold readToEnd
  simp only [ending, state, cursor]
  generalize Body.feed (Collected.add none) p c.read {} t.frames = fed at took ⊢
  obtain ⟨s, rest, read, e⟩ := fed
  obtain ⟨split, rfl, bytes, failure, finished, -, enough⟩ := took
  cases e with
  | enough =>
    -- without a limit the collecting never stops by itself
    obtain ⟨s', chunk, -, given⟩ := enough rfl
    cases (Prod.mk.inj given).2
  | finished =>
    rw [finished rfl, List.append_nil] at split
    subst split
    have all : s.bytes = dataOf t.frames := bytes
    simp only [Ending.isOver, if_true, all]
    exact .ended failure
  | failed fault =>
    obtain ⟨data, failure'⟩ := append_of_failure failure rest
    rw [← split] at data failure'
    simp only [Ending.isOver, if_true, ← data]
    exact .failed failure'
  | abandoned => exact .abandoned

end Cursor

end WebRequest.Body
