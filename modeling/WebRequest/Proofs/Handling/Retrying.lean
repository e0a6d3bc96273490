-- Reads through a stream that are given up and made again, by whoever has a handle. Nothing is lost
-- of a chunk that somebody waited for in vain. Whoever gives up reading the rest loses what has
-- been read of it until then: it is counted, and no read will hand it out.
import Mathlib.Data.List.Forall2
import WebRequest.Proofs.Body.Retrying
import WebRequest.Proofs.Handling.Streaming

namespace WebRequest.Handling

open Body Parameters

/-! ## One read made again -/

/-- An answer with bytes in front of those that it hands out. -/
def behind (lost : Bytes) :
    Awaited (Except RequestFault (Option Bytes)) → Awaited (Except RequestFault (Option Bytes)) :=
  reword (Option.map (lost ++ ·))

theorem behind_nil (answer : Awaited (Except RequestFault (Option Bytes))) :
    behind [] answer = answer := by
  rcases answer with (f | _ | bytes) | _ <;> rfl

theorem behind_behind (a b : Bytes) (answer : Awaited (Except RequestFault (Option Bytes))) :
    behind a (behind b answer) = behind (a ++ b) answer := by
  rcases answer with (f | _ | bytes) | _
  · rfl
  · rfl
  · simp [behind, reword, Awaited.map, Except.map]
  · rfl

/-- Bytes in front of an answer show, unless it hands out none. -/
theorem behind_eq_self_iff {lost : Bytes} {answer : Awaited (Except RequestFault (Option Bytes))} :
    behind lost answer = answer ↔ lost = [] ∨ ∀ bytes, answer ≠ .ready (.ok (some bytes)) := by
  rcases answer with (f | _ | bytes) | _ <;>
    simp [behind, reword, Awaited.map, Except.map]

/-- A read that was given up at a cursor can be made again at another one. What it lost is counted,
and missing in the answer. -/
structure Resumes (call : StreamCall) (c c' : Cursor) (lost : Bytes) : Prop where
  state : (call.read none c').state = (call.read none c).state
  answer : (call.read none c).answer = behind lost (call.read none c').answer
  count : c'.read = c.read + lost.length
  chunk : call = .chunk → lost = []

namespace Resumes

variable {call : StreamCall} {c c' c'' : Cursor} {lost lost' : Bytes}

theorem refl (call : StreamCall) (c : Cursor) : Resumes call c c [] :=
  ⟨rfl, (behind_nil _).symm, rfl, fun _ => rfl⟩

theorem trans (h : Resumes call c c' lost) (h' : Resumes call c' c'' lost') :
    Resumes call c c'' (lost ++ lost') := by
  refine ⟨h'.state.trans h.state, ?_, ?_, fun chunk => ?_⟩
  · rw [h.answer, h'.answer, behind_behind]
  · rw [h'.count, h.count, List.length_append, Nat.add_assoc]
  · rw [h.chunk chunk, h'.chunk chunk]
    rfl

end Resumes

theorem resumes_of_abandoned {call : StreamCall} {p : Patience} {c : Cursor}
    (given : (call.read p c).answer = .abandoned) :
    ∃ lost, Resumes call c (call.read p c).state lost := by
  cases call with
  | chunk =>
    have left := Cursor.leftAfter_nextChunk given
    have same : StreamCall.chunk.read none (StreamCall.chunk.read p c).state =
        StreamCall.chunk.read none c := left.nextChunk_eq
    refine ⟨[], congrArg _ same, ?_, left.count, fun _ => rfl⟩
    rw [same, behind_nil]
  | rest =>
    have given' : (c.readToEnd none p).answer = .abandoned := by
      rcases ha : (c.readToEnd none p).answer with answer | _
      · simp only [StreamCall.read, Outcome.map, ha] at given
        cases given
      · rfl
    obtain ⟨lost, left⟩ := Cursor.leftAfter_readToEnd given'
    obtain ⟨state, answer⟩ := left.readToEnd_eq
    refine ⟨lost, state, ?_, ?_, by rintro ⟨⟩⟩
    · simp only [StreamCall.read, Outcome.map, answer]
      rcases ((c.readToEnd none p).state.readToEnd none none).answer with (f | bytes) | _ <;> rfl
    · exact left.count

/-- Unless it is given up, it makes no difference how long one would have waited for a read. -/
theorem read_of_patient (call : StreamCall) (p : Patience) (c : Cursor) :
    (call.read p c).answer = .abandoned ∨ call.read p c = call.read none c := by
  cases call with
  | chunk => exact Cursor.nextChunk_of_patient p c
  | rest =>
    rcases Cursor.readToEnd_of_patient none p c with given | same
    · exact .inl (by simp only [StreamCall.read, Outcome.map, given]; rfl)
    · exact .inr (by simp only [StreamCall.read, same])

theorem state_of_readStream {u : InUse} {handle : Nat} (given : handle < u.streams)
    (call : StreamCall) (p : Patience) :
    (perform u (.readStream handle call p)).state =
      u.withBody { u.body with cursor := (call.read p u.body.cursor).state } := by
  simp only [perform, through, if_pos given, Outcome.within, Outcome.map]
  cases call <;> rfl

/-- The same read, made again and again, each time with so much patience. -/
def attempts (handle : Nat) (call : StreamCall) (patiences : List Nat) : List Operation :=
  patiences.map fun n => .readStream handle call (some n)

/-- Reads that were given up one after the other move the cursor, and nothing else. -/
theorem resumes_attempts {u : InUse} {handle : Nat} (given : handle < u.streams)
    (call : StreamCall) {patiences : List Nat}
    (givenUp : ∀ m ∈ history u (attempts handle call patiences), m.answer = .bytes .abandoned) :
    ∃ c lost, Resumes call u.body.cursor c lost ∧
      after u (attempts handle call patiences) = u.withBody { u.body with cursor := c } := by
  induction patiences generalizing u with
  | nil => exact ⟨u.body.cursor, [], .refl call _, rfl⟩
  | cons n patiences ih =>
    have first : (perform u (.readStream handle call (some n))).answer = .bytes .abandoned :=
      givenUp ⟨u, .readStream handle call (some n)⟩ List.mem_cons_self
    rw [answer_of_readStream given] at first
    obtain ⟨lost, resumes⟩ := resumes_of_abandoned (Answer.bytes.inj first)
    have next := state_of_readStream given call (some n)
    have later : ∀ m ∈ history (perform u (.readStream handle call (some n))).state
        (attempts handle call patiences), m.answer = .bytes .abandoned :=
      fun m hm => givenUp m (List.mem_cons_of_mem _ hm)
    rw [next] at later
    obtain ⟨c, lost', resumes', same⟩ :=
      ih (u := u.withBody { u.body with cursor := (call.read (some n) u.body.cursor).state })
        given later
    refine ⟨c, lost ++ lost', resumes.trans resumes', ?_⟩
    rw [attempts, List.map_cons, after, Runs.after_cons, next]
    exact same

/-! ## What is counted -/

namespace StreamReading

/-- The read of a rest that hands out nothing: it was given up, or it failed. -/
def dropsRest (r : StreamReading) : Bool :=
  match r.call, r.answer with
  | .rest, .abandoned => true
  | .rest, .ready (.error _) => true
  | _, _ => false

/-- A read has taken some bytes: they are what it hands out, unless it drops them. -/
def Takes (r : StreamReading) (piece : Bytes) : Prop := r.gained = piece ∨ r.dropsRest = true

end StreamReading

/-- Every read takes a piece of what is left, and has it counted. -/
theorem takes_read (call : StreamCall) (p : Patience) (c : Cursor) :
    ∃ piece, StreamReading.Takes ⟨call, (call.read p c).answer⟩ piece ∧
      piece ++ dataOf (call.read p c).state.left = dataOf c.left ∧
      (call.read p c).state.read = c.read + piece.length := by
  cases ht : c.transport with
  | none =>
    have finished : c.isFinished = true := by
      rw [Cursor.isFinished, ht]
      rfl
    obtain ⟨answer, state⟩ := read_of_finished finished call p
    rw [answer, state]
    refine ⟨[], .inl ?_, ?_, rfl⟩
    · cases call <;> rfl
    · rw [Cursor.left, Cursor.left, ht]
      rfl
  | some t =>
    have left : c.left = t.frames := by
      rw [Cursor.left, ht]
      rfl
    rw [left]
    cases call with
    | chunk =>
      have takes := Cursor.takesChunk ht p
      simp only [StreamCall.read]
      generalize c.nextChunk p = o at takes
      cases takes with
      | chunk split arrives nonempty =>
        exact ⟨_, .inl rfl, by rw [split, dataOf_append arrives]; rfl, rfl⟩
      | abandoned split arrives nothing =>
        exact ⟨[], .inl rfl, by rw [split, dataOf_append arrives, nothing]; rfl, rfl⟩
      | ended _ nothing => exact ⟨[], .inl rfl, nothing.symm, rfl⟩
      | failed _ nothing => exact ⟨[], .inl rfl, nothing.symm, rfl⟩
    | rest =>
      by_cases given : (c.readToEnd none p).answer = .abandoned
      · obtain ⟨lost, behind⟩ := Cursor.leftAfter_readToEnd given
        refine ⟨lost, .inr ?_, ?_, behind.count⟩
        · simp only [StreamCall.read, Outcome.map, given]
          rfl
        · rw [← left]
          exact behind.data
      · have takes := Cursor.takesRest ht p
        simp only [StreamCall.read, Outcome.map]
        generalize c.readToEnd none p = o at takes given
        cases takes with
        | abandoned => exact absurd rfl given
        | ended arrives => exact ⟨_, .inl rfl, List.append_nil _, rfl⟩
        | failed failure => exact ⟨_, .inr rfl, List.append_nil _, rfl⟩

/-- What the reads of a run have taken: a piece by each of them, in their order, and together with
what is left the pieces are the data that were left at the start. -/
structure Counted (c : Cursor) (reads : List StreamReading) (c' : Cursor) (pieces : List Bytes) :
    Prop where
  each : List.Forall₂ StreamReading.Takes reads pieces
  data : pieces.flatten ++ dataOf c'.left = dataOf c.left
  count : c'.read = c.read + pieces.flatten.length

theorem Counted.snoc {c c' c'' : Cursor} {reads : List StreamReading} {pieces : List Bytes}
    (h : Counted c reads c' pieces) {r : StreamReading} {piece : Bytes} (takes : r.Takes piece)
    (data : piece ++ dataOf c''.left = dataOf c'.left) (count : c''.read = c'.read + piece.length) :
    Counted c (reads ++ [r]) c'' (pieces ++ [piece]) := by
  refine ⟨List.rel_append h.each (.cons takes .nil), ?_, ?_⟩
  · rw [List.flatten_append, List.flatten_singleton, List.append_assoc, data, h.data]
  · rw [count, h.count, List.flatten_append, List.flatten_singleton, List.length_append,
      Nat.add_assoc]

/-- An operation on an open stream is a read with its answer, or it reads nothing and leaves the body
alone. -/
theorem streamReading_or_other {u : InUse} (mode : u.body.mode = .asStream) (op : Operation) :
    (∃ call p, streamReading? ⟨u, op⟩ = some ⟨call, (call.read p u.body.cursor).answer⟩ ∧
      (perform u op).state.body = { u.body with cursor := (call.read p u.body.cursor).state }) ∨
    streamReading? ⟨u, op⟩ = none ∧ (perform u op).state.body = u.body := by
  rcases (changed_perform u op).stream_or_other mode with
    ⟨handle, call, p, rfl, answer, body⟩ | ⟨body, other⟩
  · refine .inl ⟨call, p, ?_, body⟩
    simp only [streamReading?, Runs.Moment.answer, Runs.Moment.outcome, answer]
  · refine .inr ⟨?_, body⟩
    unfold streamReading?
    split
    · rename_i handle call p answer hop hanswer
      exact absurd hanswer (other handle call p answer hop)
    · rfl

/-- Of a body that is open as a stream, nothing goes missing without being counted. -/
theorem counted_history {u : InUse} (mode : u.body.mode = .asStream) (ops : List Operation) :
    (after u ops).body.mode = .asStream ∧
      ∃ pieces, Counted u.body.cursor (streamReadings (history u ops)) (after u ops).body.cursor
        pieces := by
  induction ops using List.reverseRecOn with
  | nil => exact ⟨mode, [], .nil, rfl, rfl⟩
  | append_singleton ops op ih =>
    obtain ⟨mode', pieces, counted⟩ := ih
    rw [after, history, Runs.after_snoc, Runs.history_snoc, streamReadings_snoc]
    rcases streamReading_or_other mode' op with ⟨call, p, reading, body⟩ | ⟨reading, body⟩
    · obtain ⟨piece, takes, data, count⟩ := takes_read call p (after u ops).body.cursor
      rw [body, reading]
      exact ⟨mode', pieces ++ [piece], counted.snoc takes data count⟩
    · rw [body, reading, Option.toList_none, List.append_nil]
      exact ⟨mode', pieces, counted⟩

/-- Where no read drops a rest, the pieces are what the reads hand out. -/
theorem Counted.flatten_eq {c c' : Cursor} {reads : List StreamReading} {pieces : List Bytes}
    (h : Counted c reads c' pieces) (kept : ∀ r ∈ reads, r.dropsRest = false) :
    pieces.flatten = delivered reads := by
  have each := h.each
  clear h
  induction each with
  | nil => rfl
  | @cons r piece reads pieces takes _ ih =>
    have gained : r.gained = piece := by
      rcases takes with gained | drops
      · exact gained
      · rw [kept r List.mem_cons_self] at drops
        cases drops
    rw [List.flatten_cons, ih fun r hr => kept r (List.mem_cons_of_mem _ hr), ← gained]
    rfl

/-! ## Whole runs -/

/-- A read through a stream that was given up, however often, can be made again, and leaves the
stream as if it had never been given up. Its answer is that of the read that was not given up, but
for the bytes that have been counted meanwhile; for a chunk there are none, and for the rest they
are missing in front, which shows unless there are none or the body fails. So the bytes that are
counted fall into pieces, one for each read, and a read hands out its piece or is the read of a
rest that was given up or failed. -/
theorem a_read_is_made_again_but_for_the_rest (u : InUse) (mode : u.body.mode = .asStream) :
    (∀ handle < u.streams, ∀ (call : StreamCall) (patiences : List Nat) (p : Patience),
      let tried := after u (attempts handle call patiences)
      let again := perform tried (.readStream handle call p)
      let whole := perform u (.readStream handle call none)
      (∀ m ∈ history u (attempts handle call patiences), m.answer = .bytes .abandoned) →
      again.answer ≠ .bytes .abandoned →
        again.state = whole.state ∧
        ∃ lost answer, again.answer = .bytes answer ∧ whole.answer = .bytes (behind lost answer) ∧
          tried.body.cursor.read = u.body.cursor.read + lost.length ∧
          (call = .chunk → lost = []) ∧
          (again.answer = whole.answer ↔
            lost = [] ∨ ∀ bytes, answer ≠ .ready (.ok (some bytes)))) ∧
    ∀ ops, let reads := streamReadings (history u ops)
      (∃ pieces, Counted u.body.cursor reads (after u ops).body.cursor pieces) ∧
      ((∀ r ∈ reads, r.dropsRest = false) →
        (after u ops).body.cursor.read = u.body.cursor.read + (delivered reads).length) := by
  constructor
  · intro handle given call patiences p tried again whole givenUp ready
    obtain ⟨c, lost, resumes, same⟩ := resumes_attempts given call givenUp
    have given' : handle < tried.streams := by
      rw [show tried = _ from same]
      exact given
    have cursor : tried.body.cursor = c := by
      rw [show tried = _ from same]
      rfl
    have patient : call.read p c = call.read none c := by
      refine (read_of_patient call p c).resolve_left fun abandoned => ready ?_
      rw [show again = _ from rfl, answer_of_readStream given', cursor, abandoned]
    have againAnswer : again.answer = .bytes (call.read none c).answer := by
      rw [show again = _ from rfl, answer_of_readStream given', cursor, patient]
    have wholeAnswer : whole.answer = .bytes (behind lost (call.read none c).answer) := by
      rw [show whole = _ from rfl, answer_of_readStream given, resumes.answer]
    refine ⟨?_, lost, _, againAnswer, wholeAnswer, ?_, resumes.chunk, ?_⟩
    · rw [show again = _ from rfl, show whole = _ from rfl, state_of_readStream given',
        state_of_readStream given, cursor, patient, resumes.state, show tried = _ from same]
      rfl
    · rw [cursor, resumes.count]
    · rw [againAnswer, wholeAnswer, eq_comm, Answer.bytes.injEq, behind_eq_self_iff]
  · intro ops reads
    obtain ⟨-, pieces, counted⟩ := counted_history mode ops
    refine ⟨⟨pieces, counted⟩, fun kept => ?_⟩
    rw [counted.count, counted.flatten_eq kept]

/-- A body whose frames have waits between them. -/
def slowBody : Request.Arrival :=
  { head := { method := "POST", uri := { path := "/" }, version := .v11, fields := ⟨[]⟩ },
    transport :=
      { frames := [.data [0x61, 0x62], .waiting, .trailers, .waiting, .data [0x63]] } }

theorem a_slow_body_is_read_again :
    let u := after (.received slowBody {} 1) [.openStream]
    let tried := after u (attempts 0 .rest [1, 1])
    let later := [.readStream 0 .chunk none, .readStream 0 .chunk (some 1),
      .readStream 0 .rest none]
    u.body.mode = .asStream ∧ 0 < u.streams ∧
      (∀ m ∈ history u (attempts 0 .rest [1, 1]), m.answer = .bytes .abandoned) ∧
      (perform tried (.readStream 0 .rest none)).answer = .bytes (.ready (.ok (some [0x63]))) ∧
      (perform tried (.readStream 0 .rest none)).state =
        (perform u (.readStream 0 .rest none)).state ∧
      (∀ r ∈ streamReadings (history u later), r.dropsRest = false) ∧
      (after u later).body.cursor.read = (delivered (streamReadings (history u later))).length ∧
      delivered (streamReadings (history u later)) = dataOf slowBody.transport.frames := by
  intro u tried later
  have answer : (perform tried (.readStream 0 .rest none)).answer =
      .bytes (.ready (.ok (some [0x63]))) := rfl
  have givenUp : ∀ m ∈ history u (attempts 0 .rest [1, 1]), m.answer = .bytes .abandoned := by
    intro m hm
    rcases List.mem_cons.1 hm with rfl | hm
    · rfl
    · obtain rfl := List.mem_singleton.1 hm
      rfl
  have reads : streamReadings (history u later) =
      [⟨.chunk, .ready (.ok (some [0x61, 0x62]))⟩, ⟨.chunk, .abandoned⟩,
        ⟨.rest, .ready (.ok (some [0x63]))⟩] := rfl
  have kept : ∀ r ∈ streamReadings (history u later), r.dropsRest = false := by
    rw [reads]
    simp [StreamReading.dropsRest]
  obtain ⟨resumed, counts⟩ := a_read_is_made_again_but_for_the_rest u rfl
  obtain ⟨state, -⟩ := resumed 0 (by decide) .rest [1, 1] none givenUp (by rw [answer]; simp)
  obtain ⟨-, counted⟩ := counts later
  refine ⟨rfl, by decide, givenUp, answer, state, kept, ?_, rfl⟩
  exact (counted kept).trans (Nat.zero_add _)

/-- Of a rest that was given up, the next read hands out only what comes behind. -/
theorem a_rest_that_is_given_up_is_lost :
    let u := after (.received slowBody {} 1) [.openStream]
    let tried := perform u (.readStream 0 .rest (some 1))
    tried.answer = .bytes .abandoned ∧ tried.state.body.cursor.read = 2 ∧
      (perform u (.readStream 0 .rest none)).answer =
        .bytes (.ready (.ok (some [0x61, 0x62, 0x63]))) ∧
      (perform tried.state (.readStream 0 .rest none)).answer =
        .bytes (.ready (.ok (some [0x63]))) :=
  ⟨rfl, rfl, rfl, rfl⟩

end WebRequest.Handling
