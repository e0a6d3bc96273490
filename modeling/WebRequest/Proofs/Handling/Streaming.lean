-- Reads through the handles of a stream, over whole runs. All handles read at one place, by chunks
-- or to the end; so their reads, taken together in their order, hand out the body from its start,
-- and nothing of it twice. Once one of them has met the end or a failure, there is nothing more.
import WebRequest.Proofs.Body.Streaming
import WebRequest.Proofs.Handling.Consumption

namespace WebRequest.Handling

open Body Parameters

/-! ## Reads -/

/-- A read through a stream and its answer. -/
structure StreamReading where
  call : StreamCall
  answer : Awaited (Except RequestFault (Option Bytes))

namespace StreamReading

/-- The bytes that a read hands out. -/
def gained (r : StreamReading) : Bytes :=
  match r.answer with
  | .ready (.ok (some bytes)) => bytes
  | _ => []

/-- The fault of a read that fails. -/
def fault? (r : StreamReading) : Option RequestFault :=
  match r.answer with
  | .ready (.error f) => some f
  | _ => none

/-- The read has met the end of the body, or failed. -/
def ends (r : StreamReading) : Bool :=
  match r.call, r.answer with
  | _, .ready (.error _) => true
  | .chunk, .ready (.ok none) => true
  | .rest, .ready (.ok _) => true
  | _, _ => false

/-- The read of a rest that is given up: what it has taken until then is lost. -/
def isLost (r : StreamReading) : Bool :=
  match r.call, r.answer with
  | .rest, .abandoned => true
  | _, _ => false

end StreamReading

/-- All bytes that some reads have handed out, in their order. -/
def delivered (reads : List StreamReading) : Bytes := reads.flatMap (·.gained)

def faults (reads : List StreamReading) : List RequestFault := reads.filterMap (·.fault?)

@[simp] theorem delivered_snoc (reads : List StreamReading) (r : StreamReading) :
    delivered (reads ++ [r]) = delivered reads ++ r.gained := by
  simp [delivered]

@[simp] theorem faults_snoc (reads : List StreamReading) (r : StreamReading) :
    faults (reads ++ [r]) = faults reads ++ r.fault?.toList := by
  simp only [faults, List.filterMap_append]
  cases h : r.fault? <;> simp [h]

/-! ## One read -/

/-- How a read goes on from a transport: it leaves a part of the frames, or it is the last. -/
inductive Pulls (t : Transport) (read : Nat) (r : StreamReading) : Cursor → Prop
  | onward {taken rest : List Frame} (split : t.frames = taken ++ rest)
      (arrives : failure? taken = none) (gained : r.gained = dataOf taken)
      (unfailed : r.fault? = none) (more : r.ends = false) :
      Pulls t read r
        { transport := some { t with frames := rest }, read := read + (dataOf taken).length }
  | ended (arrives : failure? t.frames = none) (gained : r.gained = dataOf t.frames)
      (unfailed : r.fault? = none) :
      Pulls t read r { transport := none, read := read + (dataOf t.frames).length }
  | failed {fault : TransportFault} (failure : failure? t.frames = some fault)
      (gained : r.gained = []) (failed : r.fault? = some (.ofTransport fault)) :
      Pulls t read r { transport := none, read := read + (dataOf t.frames).length }

theorem pulls_read {call : StreamCall} {p : Patience} {c : Cursor} {t : Transport}
    (h : c.transport = some t)
    (kept : StreamReading.isLost ⟨call, (call.read p c).answer⟩ = false) :
    Pulls t c.read ⟨call, (call.read p c).answer⟩ (call.read p c).state := by
  cases call with
  | chunk =>
    have takes := Cursor.takesChunk h p
    simp only [StreamCall.read]
    generalize c.nextChunk p = o at takes
    cases takes with
    | chunk split arrives nonempty => exact .onward split arrives rfl rfl rfl
    | @abandoned taken rest _ split arrives nothing =>
      have pulls : Pulls t c.read ⟨.chunk, .abandoned⟩
          { transport := some { t with frames := rest },
            read := c.read + (dataOf taken).length } :=
        .onward split arrives nothing.symm rfl rfl
      rw [nothing] at pulls
      exact pulls
    | ended arrives nothing =>
      have pulls : Pulls t c.read ⟨.chunk, .ready (.ok none)⟩
          { transport := none, read := c.read + (dataOf t.frames).length } :=
        .ended arrives nothing.symm rfl
      rw [nothing] at pulls
      exact pulls
    | @failed fault _ failure nothing =>
      have pulls : Pulls t c.read ⟨.chunk, .ready (.error (.ofTransport fault))⟩
          { transport := none, read := c.read + (dataOf t.frames).length } :=
        .failed failure rfl rfl
      rw [nothing] at pulls
      exact pulls
  | rest =>
    have takes := Cursor.takesRest h p
    simp only [StreamCall.read, Outcome.map] at kept ⊢
    generalize c.readToEnd none p = o at takes kept
    cases takes with
    | abandoned => cases kept
    | ended arrives => exact .ended arrives rfl rfl
    | failed failure => exact .failed failure rfl rfl

theorem read_of_finished {c : Cursor} (h : c.isFinished = true) (call : StreamCall)
    (p : Patience) :
    (call.read p c).answer = .ready (.ok call.nothing) ∧
      (call.read p c).state = { transport := none, read := c.read } := by
  obtain ⟨transport, read⟩ := c
  cases transport with
  | none => cases call <;> exact ⟨rfl, rfl⟩
  | some t =>
    obtain ⟨frames, endKnown⟩ := t
    simp only [Cursor.isFinished, Option.all_some, Transport.isAtEnd, Bool.and_eq_true,
      List.isEmpty_iff] at h
    obtain ⟨-, rfl⟩ := h
    cases call <;> exact ⟨rfl, rfl⟩

/-- A body is over after a read that meets its end, and stays so. -/
theorem isFinished_read {call : StreamCall} {p : Patience} {c : Cursor}
    (kept : StreamReading.isLost ⟨call, (call.read p c).answer⟩ = false)
    (h : c.isFinished = true ∨ StreamReading.ends ⟨call, (call.read p c).answer⟩ = true) :
    (call.read p c).state.isFinished = true := by
  by_cases finished : c.isFinished = true
  · rw [(read_of_finished finished call p).2]
    rfl
  · have ends := h.resolve_left finished
    cases ht : c.transport with
    | none =>
      refine absurd ?_ finished
      rw [Cursor.isFinished, ht]
      rfl
    | some t =>
      have pulls := pulls_read ht kept
      generalize (call.read p c).state = c' at pulls ⊢
      cases pulls with
      | onward _ _ _ _ more => cases more.symm.trans ends
      | ended => rfl
      | failed => rfl

/-! ## Reads that follow one another -/

/-- How far some reads have come in a body that they read from its start. -/
inductive Stage (t : Transport) (reads : List StreamReading) : Cursor → Prop
  | running {taken rest : List Frame} (split : t.frames = taken ++ rest)
      (arrives : failure? taken = none) (bytes : delivered reads = dataOf taken)
      (unfailed : faults reads = []) :
      Stage t reads
        { transport := some { t with frames := rest }, read := (dataOf taken).length }
  | ended (arrives : failure? t.frames = none) (bytes : delivered reads = dataOf t.frames)
      (unfailed : faults reads = []) :
      Stage t reads { transport := none, read := (dataOf t.frames).length }
  | failed {fault : TransportFault} (failure : failure? t.frames = some fault)
      (bytes : delivered reads <+: dataOf t.frames)
      (once : faults reads = [.ofTransport fault]) :
      Stage t reads { transport := none, read := (dataOf t.frames).length }

namespace Stage

variable {t : Transport} {reads : List StreamReading} {c : Cursor}

theorem start (t : Transport) : Stage t [] (.start t) :=
  @running t [] [] t.frames rfl rfl rfl rfl

/-- A read of what is left goes on from where the reads before it have come to. -/
theorem onward {taken rest : List Frame} (split : t.frames = taken ++ rest)
    (arrives : failure? taken = none) (bytes : delivered reads = dataOf taken)
    (unfailed : faults reads = []) {r : StreamReading}
    (pulls : Pulls { t with frames := rest } (dataOf taken).length r c) :
    Stage t (reads ++ [r]) c := by
  have data : dataOf t.frames = dataOf taken ++ dataOf rest := by
    rw [split, dataOf_append arrives]
  have failure : failure? t.frames = failure? rest := by
    rw [split, failure?_append arrives]
  cases pulls with
  | @onward taken' rest' split' arrives' gained unfailed' _ =>
    have bytes' : delivered (reads ++ [r]) = dataOf (taken ++ taken') := by
      rw [delivered_snoc, bytes, gained, dataOf_append arrives]
    rw [← List.length_append, ← dataOf_append arrives]
    refine .running ?_ ((failure?_append arrives taken').trans arrives') bytes' ?_
    · rw [split, List.append_assoc]
      exact congrArg (taken ++ ·) split'
    · simp [unfailed, unfailed']
  | ended arrives' gained unfailed' =>
    rw [← List.length_append, ← data]
    refine .ended (failure.trans arrives') ?_ ?_
    · rw [delivered_snoc, bytes, gained, data]
    · simp [unfailed, unfailed']
  | failed failure' gained failed =>
    rw [← List.length_append, ← data]
    refine .failed (failure.trans failure') ?_ ?_
    · rw [delivered_snoc, bytes, gained, List.append_nil, data]
      exact List.prefix_append _ _
    · simp [unfailed, failed]

/-- Behind the end of a body, a read changes nothing. -/
theorem idle (h : Stage t reads { transport := none, read := c.read })
    (finished : c.isFinished = true) (call : StreamCall) (p : Patience) :
    Stage t (reads ++ [⟨call, (call.read p c).answer⟩]) (call.read p c).state := by
  obtain ⟨answer, state⟩ := read_of_finished finished call p
  have gained : StreamReading.gained ⟨call, .ready (.ok call.nothing)⟩ = [] := by
    cases call <;> rfl
  rw [answer, state]
  generalize c.read = read at h ⊢
  cases h with
  | ended arrives bytes unfailed =>
    refine .ended arrives ?_ ?_
    · rw [delivered_snoc, bytes, gained, List.append_nil]
    · rw [faults_snoc, unfailed]
      rfl
  | failed failure bytes once =>
    refine .failed failure ?_ ?_
    · rw [delivered_snoc, gained, List.append_nil]
      exact bytes
    · rw [faults_snoc, once]
      rfl

/-- A read goes on from where the reads before it have come to. -/
theorem step (h : Stage t reads c) (call : StreamCall) (p : Patience)
    (kept : StreamReading.isLost ⟨call, (call.read p c).answer⟩ = false) :
    Stage t (reads ++ [⟨call, (call.read p c).answer⟩]) (call.read p c).state := by
  cases h with
  | running split arrives bytes unfailed =>
    exact onward split arrives bytes unfailed (pulls_read rfl kept)
  | ended arrives bytes unfailed => exact idle (.ended arrives bytes unfailed) rfl call p
  | failed failure bytes once => exact idle (.failed failure bytes once) rfl call p

end Stage

/-! ## Reads in a run -/

/-- The read that a moment is, if it is one. -/
def streamReading? (m : Moment) : Option StreamReading :=
  match m.event, m.answer with
  | .readStream _ call _, .bytes answer => some ⟨call, answer⟩
  | _, _ => none

/-- The reads of a run, in order, through whichever handles. -/
def streamReadings (moments : List Moment) : List StreamReading :=
  moments.filterMap streamReading?

theorem streamReadings_snoc (moments : List Moment) (m : Moment) :
    streamReadings (moments ++ [m]) = streamReadings moments ++ (streamReading? m).toList := by
  simp only [streamReadings, List.filterMap_append]
  cases h : streamReading? m <;> simp [h]

/-- The end of the body shows: a read has met it, or has failed, or a handle says so. -/
def ShowsEnd (m : Moment) : Prop :=
  (∃ r, streamReading? m = some r ∧ r.ends = true) ∨
    (∃ handle, m.event = .askStream handle .isFinished) ∧ m.answer = .flag true

/-- While a body is open as a stream, an operation reads the stream or leaves the body alone. -/
theorem Change.stream_or_other {u u' : InUse} {op : Operation} {a : Answer}
    (changed : Change u op a u') (mode : u.body.mode = .asStream) :
    (∃ handle call p, op = .readStream handle call p ∧
      a = .bytes (call.read p u.body.cursor).answer ∧
      u'.body = { u.body with cursor := (call.read p u.body.cursor).state }) ∨
    u'.body = u.body ∧
      ∀ handle call p answer, op = .readStream handle call p → a ≠ .bytes answer := by
  have open_ : ¬ Closed u.body.mode := fun closed => closed.ne_asStream mode
  cases changed with
  | streamOpened closed => exact absurd closed open_
  | readerOpened closed _ => exact absurd closed open_
  | @parsed q p fresh =>
    have begun : u.request.body.mode ≠ .unopened := fun unopened => open_ (.inl unopened)
    refine .inr ⟨body_ensureParsed fresh p begun, ?_⟩
    intro handle call p answer hop
    cases hop
  | @streamRead handle call p given => exact .inl ⟨handle, call, p, rfl, rfl, rfl⟩
  | textRead given mode' => cases mode.symm.trans mode'
  | noStreamToRead missing =>
    refine .inr ⟨rfl, ?_⟩
    intro handle call p answer _ ha
    cases ha
  | aside r apart elsewhere =>
    refine .inr ⟨apart.body, ?_⟩
    rintro handle call p answer rfl
    cases elsewhere
  | _ =>
    refine .inr ⟨rfl, ?_⟩
    intro handle call p answer hop
    cases hop

/-- Whoever has a handle on the stream gets an answer about the place where it stands. -/
theorem answer_of_askStream {u : InUse} {handle : Nat} (given : handle < u.streams)
    (fact : StreamFact) : (perform u (.askStream handle fact)).answer = fact.of u.body.cursor := by
  simp only [perform, through, if_pos given]
  rfl

theorem finished_of_flag {u : InUse} {handle : Nat}
    (h : (perform u (.askStream handle .isFinished)).answer = .flag true) :
    u.body.cursor.isFinished = true := by
  by_cases given : handle < u.streams
  · rw [answer_of_askStream given] at h
    exact Answer.flag.inj h
  · simp only [perform, through, if_neg given] at h
    cases h

/-- What the reads through a stream have come to, and whether the end has shown. -/
structure Streamed (t : Transport) (moments : List Moment) (u : InUse) : Prop where
  mode : u.body.mode = .asStream
  stage : Stage t (streamReadings moments) u.body.cursor
  finished : (∃ m ∈ moments, ShowsEnd m) → u.body.cursor.isFinished = true

namespace Streamed

variable {t : Transport} {moments : List Moment} {u : InUse}

/-- Whatever is done next goes on from there. -/
theorem step (h : Streamed t moments u) (op : Operation)
    (kept : ∀ r, streamReading? ⟨u, op⟩ = some r → r.isLost = false) :
    Streamed t (moments ++ [⟨u, op⟩]) (perform u op).state := by
  have shown : (∃ m ∈ moments ++ [⟨u, op⟩], ShowsEnd m) →
      u.body.cursor.isFinished = true ∨ ShowsEnd ⟨u, op⟩ := by
    rintro ⟨m, hm, ends⟩
    rcases List.mem_append.1 hm with old | new
    · exact .inl (h.finished ⟨m, old, ends⟩)
    · rw [List.mem_singleton.1 new] at ends
      exact .inr ends
  rcases (changed_perform u op).stream_or_other h.mode with
    ⟨handle, call, p, rfl, answer, body⟩ | ⟨body, other⟩
  · have reading : streamReading? ⟨u, .readStream handle call p⟩ =
        some ⟨call, (call.read p u.body.cursor).answer⟩ := by
      simp only [streamReading?, Runs.Moment.answer, Runs.Moment.outcome, answer]
    have kept' := kept _ reading
    refine ⟨?_, ?_, ?_⟩
    · rw [body]
      exact h.mode
    · rw [body, streamReadings_snoc, reading]
      exact h.stage.step call p kept'
    · intro some_
      rw [body]
      apply isFinished_read kept'
      refine (shown some_).imp_right ?_
      rintro (⟨r, same, ends⟩ | ⟨⟨_, other⟩, -⟩)
      · rw [reading, Option.some.injEq] at same
        exact same ▸ ends
      · cases other
  · have reading : streamReading? ⟨u, op⟩ = none := by
      unfold streamReading?
      split
      · rename_i handle call p answer hop hanswer
        exact absurd hanswer (other handle call p answer hop)
      · rfl
    refine ⟨?_, ?_, ?_⟩
    · rw [body]
      exact h.mode
    · rw [body, streamReadings_snoc, reading, Option.toList_none, List.append_nil]
      exact h.stage
    · intro some_
      rw [body]
      rcases shown some_ with finished | ⟨r, same, -⟩ | ⟨⟨handle, rfl⟩, flag⟩
      · exact finished
      · rw [reading] at same
        cases same
      · exact finished_of_flag flag

/-- Over a whole run in which no rest is lost. -/
theorem run (h : Streamed t [] u) (ops : List Operation)
    (kept : ∀ r ∈ streamReadings (history u ops), r.isLost = false) :
    Streamed t (history u ops) (after u ops) := by
  induction ops using List.reverseRecOn with
  | nil => exact h
  | append_singleton ops op ih =>
    rw [history, Runs.history_snoc] at kept ⊢
    rw [streamReadings_snoc] at kept
    rw [after, Runs.after_snoc]
    have before := ih fun r hr => kept r (List.mem_append_left _ hr)
    apply before.step op
    intro r hr
    apply kept
    rw [hr]
    exact List.mem_append_right _ List.mem_cons_self

end Streamed

/-! ## A body that is over -/

/-- The stream is over at the moment: a read through a handle finds nothing, and what a handle tells
is that the end has been met after so many bytes. -/
structure OverAt (read : Nat) (m : Moment) : Prop where
  nothing : ∀ handle call p, m.event = .readStream handle call p → handle < m.before.streams →
    m.answer = .bytes (.ready (.ok call.nothing))
  finished : ∀ handle, m.event = .askStream handle .isFinished → handle < m.before.streams →
    m.answer = .flag true
  count : ∀ handle, m.event = .askStream handle .bytesRead → handle < m.before.streams →
    m.answer = .count read

theorem overAt_of_finished {m : Moment} (finished : m.before.body.cursor.isFinished = true) :
    OverAt m.before.body.cursor.read m := by
  obtain ⟨u, op⟩ := m
  refine ⟨?_, ?_, ?_⟩
  · rintro handle call p rfl given
    exact (answer_of_readStream given call p).trans
      (congrArg Answer.bytes (read_of_finished finished call p).1)
  · rintro handle rfl given
    exact (answer_of_askStream given .isFinished).trans (congrArg Answer.flag finished)
  · rintro handle rfl given
    exact answer_of_askStream given .bytesRead

/-- A stream that is over after so many bytes. -/
structure Over (read : Nat) (u : InUse) : Prop where
  mode : u.body.mode = .asStream
  finished : u.body.cursor.isFinished = true
  count : u.body.cursor.read = read

theorem Over.step {read : Nat} {u : InUse} (h : Over read u) (op : Operation) :
    Over read (perform u op).state := by
  rcases (changed_perform u op).stream_or_other h.mode with
    ⟨handle, call, p, rfl, -, body⟩ | ⟨body, -⟩
  · have state := (read_of_finished h.finished call p).2
    refine ⟨?_, ?_, ?_⟩
    · rw [body]
      exact h.mode
    · rw [body, state]
      rfl
    · rw [body, state]
      exact h.count
  · refine ⟨?_, ?_, ?_⟩
    · rw [body]
      exact h.mode
    · rw [body]
      exact h.finished
    · rw [body]
      exact h.count

/-- What the reads of a whole body have come to. -/
theorem Stage.whole {t : Transport} {reads : List StreamReading} {c : Cursor}
    (h : Stage t reads c) (finished : c.isFinished = true) :
    faults reads = (failure? t.frames).toList.map .ofTransport ∧
      (failure? t.frames = none → delivered reads = dataOf t.frames) := by
  cases h with
  | @running taken rest split arrives bytes unfailed =>
    simp only [Cursor.isFinished, Option.all_some, Transport.isAtEnd, Bool.and_eq_true,
      List.isEmpty_iff] at finished
    rw [finished.2, List.append_nil] at split
    rw [split, arrives, unfailed]
    exact ⟨rfl, fun _ => bytes⟩
  | ended arrives bytes unfailed =>
    rw [arrives, unfailed]
    exact ⟨rfl, fun _ => bytes⟩
  | failed failure _ once =>
    rw [failure, once]
    refine ⟨rfl, ?_⟩
    rintro ⟨⟩

/-- As long as no read has failed, the bytes that have been handed out are the data of the frames
that have been taken. -/
theorem Stage.unfailed {t : Transport} {reads : List StreamReading} {c : Cursor}
    (h : Stage t reads c) (none_ : faults reads = []) :
    c.read = (delivered reads).length ∧ ∃ taken, t.frames = taken ++ c.left ∧
      failure? taken = none ∧ delivered reads = dataOf taken := by
  cases h with
  | running split arrives bytes _ =>
    rw [bytes]
    exact ⟨rfl, _, split, arrives, rfl⟩
  | ended arrives bytes _ =>
    rw [bytes]
    exact ⟨rfl, _, (List.append_nil _).symm, arrives, rfl⟩
  | failed _ _ once =>
    rw [none_] at once
    cases once

theorem Stage.delivered_isPrefix {t : Transport} {reads : List StreamReading} {c : Cursor}
    (h : Stage t reads c) : delivered reads <+: dataOf t.frames := by
  cases h with
  | running split arrives bytes _ =>
    rw [bytes, split, dataOf_append arrives]
    exact List.prefix_append _ _
  | ended _ bytes _ => exact bytes ▸ List.prefix_refl _
  | failed _ bytes _ => exact bytes

theorem Stage.failsOnce {t : Transport} {reads : List StreamReading} {c : Cursor}
    (h : Stage t reads c) :
    faults reads = [] ∨
      ∃ fault, failure? t.frames = some fault ∧ faults reads = [.ofTransport fault] := by
  cases h with
  | running _ _ _ unfailed => exact .inl unfailed
  | ended _ _ unfailed => exact .inl unfailed
  | failed failure _ once => exact .inr ⟨_, failure, once⟩

/-! ## Whole runs -/

/-- Every read that was made is one of the body, at the place where it stood. -/
theorem answer_of_reading {m : Moment} {r : StreamReading} (h : streamReading? m = some r) :
    ∃ p, r.answer = (r.call.read p m.before.body.cursor).answer := by
  obtain ⟨u, op⟩ := m
  unfold streamReading? at h
  split at h
  · rename_i handle call p answer hop hanswer
    cases h
    cases hop
    by_cases given : handle < u.streams
    · exact ⟨p, Answer.bytes.inj (hanswer.symm.trans (answer_of_readStream given call p))⟩
    · simp only [Runs.Moment.answer, Runs.Moment.outcome, perform, through, if_neg given]
        at hanswer
      cases hanswer
  · cases h

/-- The reads through all handles on a stream that was opened on an untouched body, whatever else
happens meanwhile, as long as no read of a rest is given up. They hand out a prefix of the body, in
its order; until one of them fails, these are the data of the frames that have been taken, and the
handles count them. No chunk is empty, and a failure of the transport fails one read. Once the end
of the body has shown, in whichever way, it has been handed out as a whole unless the transport
failed, and from then on there is nothing to read. -/
theorem stream_reads_hand_out_the_body_once (a : Request.Arrival) (s : Settings) (id : Nat)
    (earlier later : List Operation)
    (unopened : (after (.received a s id) earlier).body.mode = .unopened) :
    let opened := perform (after (.received a s id) earlier) .openStream
    let moments := history opened.state later
    let reads := streamReadings moments
    let u := after opened.state later
    let frames := a.transport.frames
    (∃ n, opened.answer = .handle n) ∧
    ((∀ r ∈ reads, r.isLost = false) →
      delivered reads <+: dataOf frames ∧
      (faults reads = [] →
        (∃ taken, frames = taken ++ u.body.cursor.left ∧ failure? taken = none ∧
          delivered reads = dataOf taken) ∧
        ∀ handle < u.streams,
          (perform u (.askStream handle .bytesRead)).answer = .count (delivered reads).length) ∧
      (∀ r ∈ reads, r.call = .chunk → r.answer ≠ .ready (.ok (some []))) ∧
      (faults reads = [] ∨
        ∃ fault, failure? frames = some fault ∧ faults reads = [.ofTransport fault]) ∧
      ((∃ m ∈ moments, ShowsEnd m) →
        faults reads = (failure? frames).toList.map .ofTransport ∧
        (failure? frames = none → delivered reads = dataOf frames) ∧
        ∀ more, ∀ m ∈ history u more, OverAt u.body.cursor.read m)) := by
  intro opened moments reads u frames
  have cursor := cursor_of_unopened a s id earlier unopened
  have begun : (∃ n, opened.answer = .handle n) ∧
      opened.state.body = { mode := .asStream, cursor := .start a.transport } := by
    rw [← cursor]
    have hm : (after (.received a s id) earlier).request.body.mode = .unopened := unopened
    simp only [opened, perform, giveOut, Request.openStream, Access.openAsStream, hm]
    exact ⟨⟨_, rfl⟩, rfl⟩
  refine ⟨begun.1, fun kept => ?_⟩
  have streamed : Streamed a.transport moments u := by
    refine Streamed.run ⟨?_, ?_, ?_⟩ later kept
    · rw [begun.2]
    · rw [begun.2]
      exact .start a.transport
    · rintro ⟨m, hm, -⟩
      cases hm
  have stage : Stage a.transport reads u.body.cursor := streamed.stage
  refine ⟨stage.delivered_isPrefix, fun none_ => ?_, ?_, stage.failsOnce, fun shown => ?_⟩
  · obtain ⟨count, taken⟩ := stage.unfailed none_
    refine ⟨taken, fun handle given => ?_⟩
    rw [answer_of_askStream given, StreamFact.of, count]
  · intro r hr chunk
    obtain ⟨m, -, reading⟩ := List.mem_filterMap.1 hr
    obtain ⟨p, answer⟩ := answer_of_reading reading
    rw [answer, chunk]
    exact Cursor.nextChunk_ne_nil p _
  · have finished := streamed.finished shown
    obtain ⟨failed, whole⟩ := stage.whole finished
    refine ⟨failed, whole, fun more m hm => ?_⟩
    obtain ⟨stays, -⟩ := Runs.moment_induction (P := Over u.body.cursor.read)
      ⟨streamed.mode, finished, rfl⟩ (fun v op h => h.step op) hm
    have overAt := overAt_of_finished stays.finished
    rw [stays.count] at overAt
    exact overAt

theorem a_cut_body_is_read_through_two_handles :
    let opened := perform (.received cutText {} 1) .openStream
    let later := [.openStream, .readStream 0 .chunk none, .readStream 1 .chunk (some 1),
      .readStream 1 .rest none]
    let u := after opened.state later
    streamReadings (history opened.state later) =
        [⟨.chunk, .ready (.ok (some [0xc3]))⟩, ⟨.chunk, .abandoned⟩,
          ⟨.rest, .ready (.ok (some [0xa9, 0x0d, 0x0a, 0x62]))⟩] ∧
      delivered (streamReadings (history opened.state later)) = dataOf cutText.transport.frames ∧
      ∀ more, ∀ m ∈ history u more, OverAt 5 m := by
  intro opened later u
  have reads : streamReadings (history opened.state later) =
      [⟨.chunk, .ready (.ok (some [0xc3]))⟩, ⟨.chunk, .abandoned⟩,
        ⟨.rest, .ready (.ok (some [0xa9, 0x0d, 0x0a, 0x62]))⟩] := rfl
  obtain ⟨-, law⟩ := stream_reads_hand_out_the_body_once cutText {} 1 [] later rfl
  have kept : ∀ r ∈ streamReadings (history opened.state later), r.isLost = false := by
    rw [reads]
    simp [StreamReading.isLost]
  obtain ⟨-, -, -, -, ended⟩ := law kept
  have shown : ∃ m ∈ history opened.state later, ShowsEnd m := by
    refine ⟨⟨after opened.state (later.take 3), .readStream 1 .rest none⟩, ?_, .inl ⟨_, rfl, rfl⟩⟩
    simp [later]
  obtain ⟨-, whole, nothing⟩ := ended shown
  exact ⟨reads, whole rfl, nothing⟩

end WebRequest.Handling
