-- A body that has been drained for the parameters can still be opened. Whoever opens it finds it at
-- its end if the drain came to an end itself. A drain that was given up leaves the frames that it
-- did not take, and these can be read.
import WebRequest.Proofs.Handling.Reading

namespace WebRequest.Handling

open Body Parameters

/-! ## What is left by a drain -/

/-- The parser has been started, and if it is done nothing is left of the body. -/
structure Drained (u : InUse) : Prop where
  started : u.parser.progress ≠ .notStarted
  exhausted : u.parser.progress = .done → u.body.cursor.transport = none

theorem drained_ensureParsed {r : Request} {p : Patience}
    (fresh : r.parser.progress = .notStarted) (unconsumed : r.body.mode ≠ .consumed)
    (consumed : (r.ensureParsed p).state.body.mode = .consumed) :
    (r.ensureParsed p).state.parser.progress ≠ .notStarted ∧
      ((r.ensureParsed p).state.parser.progress = .done →
        (r.ensureParsed p).state.body.cursor.transport = none) := by
  have access := firstAccess_ensureParsed fresh p
  rcases access.body with ⟨same, -⟩ | ⟨unopened, limit, drained, abandoned⟩
  · rw [same] at consumed
    exact absurd consumed unconsumed
  · have whole : r.body.consume limit p =
        (r.body.cursor.readToEnd limit p).within fun cursor => { mode := .consumed, cursor } := by
      simp only [Access.consume, unopened]
    by_cases given : (r.ensureParsed p).answer = .abandoned
    · have midway := access.abandoned given
      rw [midway]
      refine ⟨by simp, ?_⟩
      intro done
      cases done
    · have done := access.ran given
      rw [done, drained, whole]
      refine ⟨by decide, fun _ => ?_⟩
      apply Cursor.transport_readToEnd
      intro cut
      apply given
      rw [abandoned, whole]
      exact cut

theorem Drained.of_same {u u' : InUse} (h : Drained u) (parser : u'.parser = u.parser)
    (body : u'.body = u.body) : Drained u' := by
  refine ⟨?_, ?_⟩
  · rw [parser]
    exact h.started
  · rw [parser, body]
    exact h.exhausted

theorem Change.drained {u u' : InUse} {op : Operation} {a : Answer} (changed : Change u op a u')
    (exclusive : Exclusive u) (h : u.body.mode = .consumed → Drained u)
    (consumed : u'.body.mode = .consumed) : Drained u' := by
  cases changed with
  | streamOpened closed => cases consumed
  | readerOpened closed _ => cases consumed
  | @parsed q p fresh =>
    have unconsumed : u.request.body.mode ≠ .consumed := fun mode => (h mode).started fresh
    obtain ⟨started, exhausted⟩ := drained_ensureParsed (r := u.request) fresh unconsumed consumed
    exact ⟨started, exhausted⟩
  | streamRead given =>
    have mode : u.body.mode = .consumed := consumed
    cases mode.symm.trans (exclusive.asStream given)
  | textRead given mode => cases consumed
  | aside r apart _ =>
    have body : (u.withRequest r).body = u.body := apart.body
    rw [body] at consumed
    exact (h consumed).of_same apart.parser body
  | _ => exact (h consumed).of_same rfl rfl

theorem drained_of_consumed (a : Request.Arrival) (s : Settings) (id : Nat)
    (ops : List Operation) :
    (after (.received a s id) ops).body.mode = .consumed →
      Drained (after (.received a s id) ops) := by
  refine received_induction (P := fun u => u.body.mode = .consumed → Drained u) ?_ ?_ ops
  · intro consumed
    cases consumed
  · intro u op exclusive h consumed
    exact (changed_perform u op).drained exclusive h consumed

/-! ## Reading what is over -/

/-- What a read through a stream answers at the end. -/
def StreamCall.nothing : StreamCall → Option Bytes
  | .chunk => none
  | .rest => some []

/-- What a read through a reader answers at the end. -/
def TextCall.nothing : TextCall → Option String
  | .chunk => none
  | .line => none
  | .rest => some ""

/-- A read answers that there is nothing, or is given up by somebody who does not wait without
end. -/
def Finds {α : Type} (nothing : α) (p : Patience) (answer : Awaited (Except RequestFault α)) :
    Prop :=
  answer = .ready (.ok nothing) ∨ p ≠ none ∧ answer = .abandoned

/-- Nothing is read at the moment: a read through a handle finds the end of the body. -/
structure ReadsNothing (m : Moment) : Prop where
  bytes : ∀ handle call p answer, m.event = .readStream handle call p → m.answer = .bytes answer →
    Finds call.nothing p answer
  text : ∀ handle call p answer, m.event = .readText handle call p → m.answer = .text answer →
    Finds call.nothing p answer

/-- Who waits without end gets an answer. -/
theorem finds_of_patient {α : Type} {nothing : α} {p : Patience}
    {answer : Awaited (Except RequestFault α)} (patient : p = none → answer ≠ .abandoned)
    (h : answer = .ready (.ok nothing) ∨ answer = .abandoned) : Finds nothing p answer := by
  rcases h with h | h
  · exact .inl h
  · exact .inr ⟨fun forever => patient forever h, h⟩

theorem patient_stream (call : StreamCall) (c : Cursor) :
    (call.read none c).answer ≠ .abandoned := by
  cases call with
  | chunk =>
    have fed := patient_cursor (fun _ chunk => (some chunk, true)) (none : Option Bytes) c
    simp only [StreamCall.read, Cursor.nextChunk]
    split
    · simp
    · rename_i given
      exact absurd given fed
    · simp
  | rest =>
    have fed := patient_cursor (Cursor.Collected.add none) {} c
    simp only [StreamCall.read, Cursor.readToEnd, Outcome.map]
    split
    · simp [reword, Awaited.map]
    · rename_i given
      exact absurd given fed
    · simp [reword, Awaited.map]
    · simp [reword, Awaited.map]

theorem read_of_exhausted (call : StreamCall) (p : Patience) {c : Cursor} (h : c.Exhausted) :
    (call.read p c).state.Exhausted ∧ Finds call.nothing p (call.read p c).answer := by
  have patient : p = none → (call.read p c).answer ≠ .abandoned := by
    rintro rfl
    exact patient_stream call c
  cases call with
  | chunk =>
    obtain ⟨exhausted, answer⟩ := Cursor.nextChunk_of_exhausted h p
    exact ⟨exhausted, finds_of_patient patient answer⟩
  | rest =>
    obtain ⟨exhausted, answer⟩ := Cursor.readToEnd_of_exhausted h none p
    refine ⟨exhausted, finds_of_patient patient ?_⟩
    simp only [StreamCall.read, Outcome.map]
    rcases answer with answer | answer
    · rw [answer]
      exact .inl rfl
    · rw [answer]
      exact .inr rfl

theorem exhausted_fill (enough : List Char → Bool) (p : Patience) (r : TextReader) {c : Cursor}
    (h : c.Exhausted) : (TextReader.fill enough p r c).state.2.Exhausted := by
  obtain ⟨-, exhausted, -⟩ :=
    Cursor.feed_of_exhausted h (TextReader.Filling.add enough) p { reader := r }
  unfold TextReader.fill
  split
  · exact h
  · split
    · exact h
    · simp only
      split <;> exact exhausted

theorem exhausted_readWith {α : Type} (enough : List Char → Bool)
    (full last : TextReader → α × TextReader) (p : Patience) (r : TextReader) {c : Cursor}
    (h : c.Exhausted) : (TextReader.readWith enough full last p r c).state.2.Exhausted := by
  have filled := exhausted_fill enough p r h
  unfold TextReader.readWith
  simp only
  split <;> exact filled

theorem exhausted_read (call : TextCall) (p : Patience) (r : TextReader) {c : Cursor}
    (h : c.Exhausted) : (call.read p r c).state.2.Exhausted := by
  cases call with
  | chunk => exact exhausted_readWith _ _ _ p r h
  | line => exact exhausted_readWith _ _ _ p r h
  | rest => exact exhausted_readWith _ _ _ p r h

/-- A new reader on a body that is over has no text behind it. -/
theorem holds_of_exhausted {c : Cursor} (h : c.Exhausted) (charset : Charset) :
    Holds true (.start charset) c [] := by
  rcases ht : c.transport with _ | t
  · exact .exhausted ht ⟨rfl, rfl, rfl, rfl⟩
  · obtain ⟨data, arrives⟩ := h t ht
    refine .running ht arrives ?_
    rw [data]
    exact ⟨rfl, rfl, rfl, rfl⟩

/-- A read of no text finds nothing and leaves no text. -/
theorem nothing_of_takes {call : TextCall} {answer : Awaited (Except RequestFault (Option String))}
    {left : List Char} (h : Takes [] ⟨call, answer⟩ left) : left = [] ∧ answer = .abandoned := by
  generalize htext : ([] : List Char) = text at h
  generalize hreading : Reading.mk call answer = reading at h
  cases h with
  | givenUp text call =>
    cases hreading
    exact ⟨rfl, rfl⟩
  | chunk nonempty => exact absurd (List.append_eq_nil_iff.1 htext.symm).1 nonempty
  | line one bare => simp at htext
  | lineWithReturn one => simp at htext

theorem nothing_of_ends {call : TextCall} {answer : Awaited (Except RequestFault (Option String))}
    (h : Ends [] ⟨call, answer⟩) : answer = .ready (.ok call.nothing) := by
  generalize htext : ([] : List Char) = text at h
  generalize hreading : Reading.mk call answer = reading at h
  cases h with
  | rest text =>
    cases hreading
    rw [← htext]
    rfl
  | lastLine nonempty one => exact absurd htext.symm nonempty
  | noLine =>
    cases hreading
    rfl
  | noChunk =>
    cases hreading
    rfl

theorem read_of_holds_nil (call : TextCall) (p : Patience) {r : TextReader} {c : Cursor}
    (h : Holds true r c []) :
    Holds true (call.read p r c).state.1 (call.read p r c).state.2 [] ∧
      Finds call.nothing p (call.read p r c).answer := by
  have patient : p = none → (call.read p r c).answer ≠ .abandoned := by
    rintro rfl
    exact patient_read call r c
  rcases readsOrFails_read call p h with ⟨takes, holds⟩ | ⟨-, ends, holds⟩ | ⟨broken, -⟩
  · obtain ⟨rfl, answer⟩ := nothing_of_takes takes
    exact ⟨holds, finds_of_patient patient (.inr answer)⟩
  · exact ⟨holds, .inl (nothing_of_ends ends)⟩
  · cases broken

/-! ## A body at its end -/

/-- The body has been drained or opened, and nothing is left of it, as bytes or as text. -/
structure AtEnd (u : InUse) : Prop where
  exclusive : Exclusive u
  begun : u.body.mode ≠ .unopened
  exhausted : u.body.cursor.Exhausted
  text : ∀ reader, u.body.mode = .asReader reader → Holds true reader u.body.cursor []

theorem AtEnd.of_same {u u' : InUse} (h : AtEnd u) (exclusive : Exclusive u')
    (body : u'.body = u.body) : AtEnd u' := by
  refine ⟨exclusive, ?_, ?_, ?_⟩
  · rw [body]
    exact h.begun
  · rw [body]
    exact h.exhausted
  · rw [body]
    exact h.text

theorem Change.atEnd {u u' : InUse} {op : Operation} {a : Answer} (changed : Change u op a u')
    (h : AtEnd u) : AtEnd u' := by
  have exclusive := changed.exclusive h.exclusive
  cases changed with
  | streamOpened closed =>
    refine ⟨exclusive, ?_, h.exhausted, ?_⟩
    · intro mode
      cases mode
    · intro reader mode
      cases mode
  | @readerOpened charset closed _ =>
    refine ⟨exclusive, ?_, h.exhausted, ?_⟩
    · intro mode
      cases mode
    · intro reader mode
      cases mode
      exact holds_of_exhausted h.exhausted charset
  | parsed fresh => exact h.of_same exclusive (body_ensureParsed fresh _ h.begun)
  | @streamRead handle call p given =>
    refine ⟨exclusive, h.begun, (read_of_exhausted call p h.exhausted).1, ?_⟩
    intro reader mode
    cases (h.exclusive.asStream given).symm.trans mode
  | @textRead handle call p reader given mode =>
    refine ⟨exclusive, ?_, exhausted_read call p reader h.exhausted, ?_⟩
    · intro unopened
      cases unopened
    · intro reader' mode'
      cases mode'
      exact (read_of_holds_nil call p (h.text reader mode)).1
  | aside r apart _ => exact h.of_same exclusive apart.body
  | _ => exact h.of_same exclusive rfl

theorem readsNothing_of_atEnd {m : Moment} (h : AtEnd m.before) : ReadsNothing m := by
  have changed := changed_perform m.before m.event
  have hanswer : (perform m.before m.event).answer = m.answer := rfl
  rw [hanswer] at changed
  generalize (perform m.before m.event).state = u' at changed
  refine ⟨?_, ?_⟩
  · intro handle call p answer event given
    rw [event, given] at changed
    cases changed with
    | streamRead => exact (read_of_exhausted call p h.exhausted).2
    | aside r _ elsewhere => cases elsewhere
  · intro handle call p answer event given
    rw [event, given] at changed
    cases changed with
    | textRead given mode => exact (read_of_holds_nil call p (h.text _ mode)).2
    | nothingToRead given none_ =>
      obtain ⟨reader, mode⟩ := h.exclusive.asReader given
      simp only [Access.reader?, mode] at none_
      cases none_
    | aside r _ elsewhere => cases elsewhere

theorem atEnd_of_exhausted {u : InUse} (exclusive : Exclusive u)
    (consumed : u.body.mode = .consumed) (exhausted : u.body.cursor.Exhausted) : AtEnd u := by
  refine ⟨exclusive, ?_, exhausted, ?_⟩
  · rw [consumed]
    intro other
    cases other
  · intro reader mode
    rw [consumed] at mode
    cases mode

/-- Whoever has a handle on the stream reads at the place where it stands. -/
theorem answer_of_readStream {u : InUse} {handle : Nat} (given : handle < u.streams)
    (call : StreamCall) (p : Patience) :
    (perform u (.readStream handle call p)).answer = .bytes (call.read p u.body.cursor).answer := by
  simp only [perform, through, if_pos given, Outcome.within, Outcome.map]
  cases call <;> rfl

/-- Whoever opens a body as a stream, and is the first to open it, reads on from where it stands. -/
theorem read_of_closed {u : InUse} (closed : Closed u.body.mode) (call : StreamCall)
    (p : Patience) :
    (perform (perform u .openStream).state (.readStream u.streams call p)).answer =
      .bytes (call.read p u.body.cursor).answer := by
  have opened : (perform u .openStream).state.body.cursor = u.body.cursor ∧
      u.streams < (perform u .openStream).state.streams := by
    rcases closed with hm | hm
    all_goals
      have hm' : u.request.body.mode = _ := hm
      simp only [perform, giveOut, Request.openStream, Access.openAsStream, hm']
      exact ⟨rfl, Nat.lt_succ_self _⟩
  rw [answer_of_readStream opened.2, opened.1]

theorem rest_of_closed {u : InUse} {t : Transport} (closed : Closed u.body.mode)
    (left : u.body.cursor.transport = some t) :
    (perform (perform u .openStream).state (.readStream u.streams .rest none)).answer =
      .bytes (.ready ((wholeOf none t.frames).map some)) := by
  rw [read_of_closed closed]
  simp only [StreamCall.read, Outcome.map, Cursor.readToEnd_of_transport none left]
  rfl

/-- Whoever opens a drained body as a stream gets what the drain has left of it. -/
theorem rest_of_consumed {u : InUse} {t : Transport} (consumed : u.body.mode = .consumed)
    (left : u.body.cursor.transport = some t) :
    (perform (perform u .openStream).state (.readStream u.streams .rest none)).answer =
      .bytes (.ready ((wholeOf none t.frames).map some)) := rest_of_closed (.inr consumed) left

/-! ## Whole runs -/

/-- Handles that are opened on a drained body read nothing, whatever happens, if and only if no data
and no failure is left of the body. A drain that came to an end itself leaves nothing. -/
theorem a_drained_body_reads_nothing_iff_it_is_over (a : Request.Arrival) (s : Settings) (id : Nat)
    (ops : List Operation) (consumed : (after (.received a s id) ops).body.mode = .consumed) :
    let u := after (.received a s id) ops
    ((∀ later, ∀ m ∈ history u later, ReadsNothing m) ↔ u.body.cursor.Exhausted) ∧
    (u.parser.progress = .done → u.body.cursor.Exhausted) := by
  intro u
  have exclusive : Exclusive u := exclusive_after (exclusive_received a s id) ops
  have drained : Drained u := drained_of_consumed a s id ops consumed
  refine ⟨⟨?_, ?_⟩, fun done => Cursor.exhausted_of_none (drained.exhausted done)⟩
  · intro nothing t left
    have read := rest_of_consumed consumed left
    have last := nothing [.openStream, .readStream u.streams .rest none]
      ⟨(perform u .openStream).state, .readStream u.streams .rest none⟩ (by simp)
    rcases last.bytes _ _ _ _ rfl read with answer | ⟨-, abandoned⟩
    · unfold wholeOf exceeds at answer
      rcases hf : failure? t.frames with _ | fault
      · rw [hf] at answer
        simp only [Option.any_none, Bool.false_eq_true, if_false, Except.map, StreamCall.nothing,
          Awaited.ready.injEq, Except.ok.injEq, Option.some.injEq] at answer
        exact ⟨answer, rfl⟩
      · rw [hf] at answer
        simp [Except.map] at answer
    · cases abandoned
  · intro exhausted later m hm
    apply readsNothing_of_atEnd
    exact (Runs.moment_induction (atEnd_of_exhausted exclusive consumed exhausted)
      (fun v op h => (changed_perform v op).atEnd h) hm).1

/-- A form whose frames have a wait between them. -/
def slowForm : Request.Arrival :=
  { head :=
      { method := "POST", uri := { path := "/" }, version := .v11,
        fields := ⟨[("content-type", Bytes.ofText "application/x-www-form-urlencoded")]⟩ },
    transport := { frames := [.data (Bytes.ofText "a=1&"), .waiting, .data (Bytes.ofText "b=2")] } }

theorem a_slow_form_that_is_drained_is_over :
    let u := after (.received slowForm {} 1) [.access .nothing none]
    u.body.mode = .consumed ∧ ∀ later, ∀ m ∈ history u later, ReadsNothing m := by
  have consumed : (after (.received slowForm {} 1) [.access .nothing none]).body.mode =
      .consumed := by decide +kernel
  obtain ⟨nothing, exhausted⟩ := a_drained_body_reads_nothing_iff_it_is_over slowForm {} 1
    [.access .nothing none] consumed
  exact ⟨consumed, nothing.2 (exhausted (by decide +kernel))⟩

/-- A drain that is given up at the first wait leaves the second frame to whoever opens the
body. -/
theorem a_slow_form_that_is_given_up_leaves_a_rest :
    let u := after (.received slowForm {} 1) [.access .nothing (some 1)]
    u.body.mode = .consumed ∧
      (perform (perform u .openStream).state (.readStream 0 .rest none)).answer =
        .bytes (.ready (.ok (some (Bytes.ofText "b=2")))) := by
  intro u
  have consumed : u.body.mode = .consumed := by decide +kernel
  have left : u.body.cursor.transport = some { frames := [.data (Bytes.ofText "b=2")] } := by
    decide +kernel
  exact ⟨consumed, rest_of_consumed consumed left⟩

end WebRequest.Handling
