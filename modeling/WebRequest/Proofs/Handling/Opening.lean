-- A body is opened as a stream or as text, and never as both. Handles are given out for the way
-- it was opened first, all of them on the same cursor; the other way is refused from then on, and
-- what is refused changes nothing.
import WebRequest.Proofs.Handling.Parsing

namespace WebRequest.Handling

open Body Parameters

/-! ## The charset of a reader -/

theorem charset_fill (enough : List Char → Bool) (p : Patience) (r : TextReader) (c : Cursor) :
    (TextReader.fill enough p r c).state.1.charset = r.charset := by
  have fed : (c.feed (TextReader.Filling.add enough) p { reader := r }).state.reader.charset =
      r.charset := by
    refine Cursor.keeps_feed (P := fun f : TextReader.Filling => f.reader.charset = r.charset)
      ?_ p rfl c
    intro f chunk same
    exact same
  unfold TextReader.fill
  split
  · rfl
  · split
    · rfl
    · simp only
      split <;> exact fed

theorem charset_readWith {α : Type} {enough : List Char → Bool}
    {full last : TextReader → α × TextReader} (hfull : ∀ r, (full r).2.charset = r.charset)
    (hlast : ∀ r, (last r).2.charset = r.charset) (p : Patience) (r : TextReader) (c : Cursor) :
    (TextReader.readWith enough full last p r c).state.1.charset = r.charset := by
  have filled := charset_fill enough p r c
  unfold TextReader.readWith
  simp only
  split
  · exact filled
  · exact filled
  · rename_i isEnough _
    cases isEnough
    · exact (hlast _).trans filled
    · exact (hfull _).trans filled

theorem charset_handOut (r : TextReader) : r.handOut.2.charset = r.charset := by
  unfold TextReader.handOut
  split <;> rfl

theorem charset_handOutLine (r : TextReader) : r.handOutLine.2.charset = r.charset := by
  unfold TextReader.handOutLine
  split
  · rfl
  · exact charset_handOut r

theorem charset_read (call : TextCall) (p : Patience) (r : TextReader) (c : Cursor) :
    (call.read p r c).state.1.charset = r.charset := by
  cases call with
  | chunk => exact charset_readWith charset_handOut charset_handOut p r c
  | line => exact charset_readWith charset_handOutLine charset_handOut p r c
  | rest => exact charset_readWith (fun _ => rfl) (fun _ => rfl) p r c

/-! ## Moves of the mode -/

/-- How an operation can move the mode of a body. -/
inductive Moves : Operation → Mode → Mode → Prop
  | stays (op : Operation) (mode : Mode) : Moves op mode mode
  | consumed (q : Question) (p : Patience) : Moves (.access q p) .unopened .consumed
  | opensStream {mode : Mode} (closed : Closed mode) : Moves .openStream mode .asStream
  | opensReader {mode : Mode} (closed : Closed mode) (charset : Charset) :
      Moves .openReader mode (.asReader (.start charset))
  | reads {handle : Nat} {call : TextCall} {p : Patience} {reader reader' : TextReader}
      (charset : reader'.charset = reader.charset) :
      Moves (.readText handle call p) (.asReader reader) (.asReader reader')

theorem Change.moves {u u' : InUse} {op : Operation} {a : Answer} (changed : Change u op a u') :
    Moves op u.body.mode u'.body.mode := by
  cases changed with
  | @parsed q p fresh =>
    have access := firstAccess_ensureParsed (r := u.request) fresh p
    show Moves _ u.request.body.mode (u.request.ensureParsed p).state.body.mode
    rcases access.body with ⟨same, -⟩ | ⟨unopened, limit, drained, -⟩
    · rw [same]
      exact .stays _ _
    · rw [drained, mode_consume unopened, unopened]
      exact .consumed q p
  | streamOpened closed => exact .opensStream closed
  | readerOpened closed => exact .opensReader closed _
  | textRead given mode =>
    rw [mode]
    exact .reads (charset_read _ _ _ _)
  | aside r apart _ =>
    show Moves _ u.request.body.mode r.body.mode
    rw [apart.body]
    exact .stays _ _
  | _ => exact .stays _ _

/-! ## Handles -/

def GivesStream (m : Moment) : Prop := m.event = .openStream ∧ ∃ n, m.answer = .handle n

def GivesReader (m : Moment) : Prop := m.event = .openReader ∧ ∃ n, m.answer = .handle n

/-- The handles that have been given out are those of the mode. -/
structure Exclusive (u : InUse) : Prop where
  streams : 0 < u.streams ↔ u.body.mode = .asStream
  readers : 0 < u.readers ↔ ∃ reader, u.body.mode = .asReader reader

theorem Closed.ne_asStream {mode : Mode} (h : Closed mode) : mode ≠ .asStream := by
  rcases h with rfl | rfl <;> decide

theorem Closed.ne_asReader {mode : Mode} (h : Closed mode) (reader : TextReader) :
    mode ≠ .asReader reader := by
  rcases h with rfl | rfl <;> (intro hm; cases hm)

theorem Change.streams {u u' : InUse} {op : Operation} {a : Answer} (changed : Change u op a u') :
    u'.streams = u.streams + 1 ∧ op = .openStream ∧ a = .handle u.streams ∨
      u'.streams = u.streams ∧ ¬ (op = .openStream ∧ ∃ n, a = .handle n) := by
  cases changed with
  | streamOpened _ => exact .inl ⟨rfl, rfl, rfl⟩
  | streamAgain _ => exact .inl ⟨rfl, rfl, rfl⟩
  | aside r _ elsewhere =>
    refine .inr ⟨rfl, ?_⟩
    rintro ⟨rfl, -⟩
    cases elsewhere
  | _ => exact .inr ⟨rfl, by simp⟩

theorem Change.readers {u u' : InUse} {op : Operation} {a : Answer} (changed : Change u op a u') :
    u'.readers = u.readers + 1 ∧ op = .openReader ∧ a = .handle u.readers ∨
      u'.readers = u.readers ∧ ¬ (op = .openReader ∧ ∃ n, a = .handle n) := by
  cases changed with
  | readerOpened _ _ => exact .inl ⟨rfl, rfl, rfl⟩
  | readerAgain _ => exact .inl ⟨rfl, rfl, rfl⟩
  | aside r _ elsewhere =>
    refine .inr ⟨rfl, ?_⟩
    rintro ⟨rfl, -⟩
    cases elsewhere
  | _ => exact .inr ⟨rfl, by simp⟩

theorem exclusive_of_closed {u : InUse} (closed : Closed u.body.mode) (streams : u.streams = 0)
    (readers : u.readers = 0) : Exclusive u := by
  refine ⟨iff_of_false (by omega) closed.ne_asStream, iff_of_false (by omega) ?_⟩
  rintro ⟨reader, mode⟩
  exact closed.ne_asReader reader mode

namespace Exclusive

variable {u u' : InUse}

theorem streams_eq_zero (h : Exclusive u) (mode : u.body.mode ≠ .asStream) : u.streams = 0 :=
  Nat.eq_zero_of_not_pos (mt h.streams.1 mode)

theorem readers_eq_zero (h : Exclusive u) (mode : ∀ reader, u.body.mode ≠ .asReader reader) :
    u.readers = 0 := by
  refine Nat.eq_zero_of_not_pos (mt h.readers.1 ?_)
  rintro ⟨reader, hm⟩
  exact mode reader hm

/-- Whoever has a handle on the stream finds the body open as a stream. -/
theorem asStream (h : Exclusive u) {handle : Nat} (given : handle < u.streams) :
    u.body.mode = .asStream := h.streams.1 (Nat.zero_lt_of_lt given)

/-- Whoever has a handle on the reader finds the body open as text. -/
theorem asReader (h : Exclusive u) {handle : Nat} (given : handle < u.readers) :
    ∃ reader, u.body.mode = .asReader reader := h.readers.1 (Nat.zero_lt_of_lt given)

theorem of_same (h : Exclusive u) (mode : u'.body.mode = u.body.mode)
    (streams : u'.streams = u.streams) (readers : u'.readers = u.readers) : Exclusive u' := by
  refine ⟨?_, ?_⟩
  · rw [streams, mode]
    exact h.streams
  · rw [readers, mode]
    exact h.readers

end Exclusive

/-- Opening is the only way into a mode that has handles. -/
theorem Change.exclusive {u u' : InUse} {op : Operation} {a : Answer} (changed : Change u op a u')
    (h : Exclusive u) : Exclusive u' := by
  have moves := changed.moves
  cases changed with
  | streamOpened closed =>
    have none_ := h.readers_eq_zero closed.ne_asReader
    refine ⟨iff_of_true (Nat.succ_pos _) rfl, iff_of_false (Nat.not_lt.2 (Nat.le_of_eq none_)) ?_⟩
    rintro ⟨reader, mode⟩
    cases mode
  | streamAgain mode => exact ⟨iff_of_true (Nat.succ_pos _) mode, h.readers⟩
  | readerOpened closed _ =>
    have none_ := h.streams_eq_zero closed.ne_asStream
    refine ⟨iff_of_false (Nat.not_lt.2 (Nat.le_of_eq none_)) ?_,
      iff_of_true (Nat.succ_pos _) ⟨_, rfl⟩⟩
    intro mode
    cases mode
  | readerAgain mode => exact ⟨h.streams, iff_of_true (Nat.succ_pos _) ⟨_, mode⟩⟩
  | textRead given mode =>
    have none_ : u.streams = 0 := by
      apply h.streams_eq_zero
      rw [mode]
      intro other
      cases other
    refine ⟨iff_of_false (Nat.not_lt.2 (Nat.le_of_eq none_)) ?_,
      iff_of_true (Nat.zero_lt_of_lt given) ⟨_, rfl⟩⟩
    intro other
    cases other
  | @parsed q p fresh =>
    generalize hu : u.withRequest (u.request.ensureParsed p).state = u' at moves ⊢
    have streams : u'.streams = u.streams := by rw [← hu]; rfl
    have readers : u'.readers = u.readers := by rw [← hu]; rfl
    generalize hm : u.body.mode = before at moves
    generalize hm' : u'.body.mode = next at moves
    cases moves with
    | stays =>
      exact h.of_same (hm'.trans hm.symm) streams readers
    | consumed =>
      have unopened : Closed u.body.mode := .inl hm
      apply exclusive_of_closed (.inr hm')
      · rw [streams]
        exact h.streams_eq_zero unopened.ne_asStream
      · rw [readers]
        exact h.readers_eq_zero unopened.ne_asReader
  | aside r apart _ => exact h.of_same (congrArg Access.mode apart.body) rfl rfl
  | _ => exact h.of_same rfl rfl rfl

theorem exclusive_received (a : Request.Arrival) (s : Settings) (id : Nat) :
    Exclusive (.received a s id) := exclusive_of_closed (.inl rfl) rfl rfl

/-- In every run, the handles that have been given out are those of the mode. -/
theorem exclusive_after {u : InUse} (h : Exclusive u) (ops : List Operation) :
    Exclusive (after u ops) :=
  Runs.after_induction h (fun v op hv => (changed_perform v op).exclusive hv) ops

/-- What holds of a request as it is received, and is kept by every operation while the handles are
those of the mode, holds after every run. -/
theorem received_induction {P : InUse → Prop} {a : Request.Arrival} {s : Settings} {id : Nat}
    (start : P (.received a s id))
    (step : ∀ u op, Exclusive u → P u → P (perform u op).state) (ops : List Operation) :
    P (after (.received a s id) ops) := by
  have both : Exclusive (after (.received a s id) ops) ∧ P (after (.received a s id) ops) := by
    refine Runs.after_induction (P := fun u : InUse => Exclusive u ∧ P u)
      ⟨exclusive_received a s id, start⟩ ?_ ops
    rintro u op ⟨exclusive, h⟩
    exact ⟨(changed_perform u op).exclusive exclusive, step u op exclusive h⟩
  exact both.2

/-- The handles on the stream are those that were given out. -/
theorem streams_after (u : InUse) (ops : List Operation) :
    0 < (after u ops).streams ↔ 0 < u.streams ∨ ∃ m ∈ history u ops, GivesStream m := by
  refine Runs.pos_after_iff (fun m => ?_) u ops
  rcases (changed_perform m.before m.event).streams with ⟨more, opens, answer⟩ | ⟨same, none_⟩
  · exact .inl ⟨more, opens, _, answer⟩
  · exact .inr ⟨same, none_⟩

theorem readers_after (u : InUse) (ops : List Operation) :
    0 < (after u ops).readers ↔ 0 < u.readers ∨ ∃ m ∈ history u ops, GivesReader m := by
  refine Runs.pos_after_iff (fun m => ?_) u ops
  rcases (changed_perform m.before m.event).readers with ⟨more, opens, answer⟩ | ⟨same, none_⟩
  · exact .inl ⟨more, opens, _, answer⟩
  · exact .inr ⟨same, none_⟩

/-! ## An open body -/

/-- A body that is open as a stream: it is opened again as it is, and never as text. All handles
read the same. -/
structure Streaming (u : InUse) : Prop where
  mode : u.body.mode = .asStream
  again : perform u .openStream =
    { answer := .handle u.streams, state := { u with streams := u.streams + 1 } }
  refused : perform u .openReader =
    { answer := .failed (.illegalState .openedAsStream), state := u }
  shared : ∀ m n call p, m < u.streams → n < u.streams →
    perform u (.readStream m call p) = perform u (.readStream n call p)

/-- A body that is open as text in a charset: it is opened again as it is, and never as a stream.
All handles read the same. -/
structure Texting (charset : Charset) (u : InUse) : Prop where
  mode : ∃ reader, u.body.mode = .asReader reader ∧ reader.charset = charset
  again : perform u .openReader =
    { answer := .handle u.readers, state := { u with readers := u.readers + 1 } }
  refused : perform u .openStream =
    { answer := .failed (.illegalState .openedAsReader), state := u }
  shared : ∀ m n call p, m < u.readers → n < u.readers →
    perform u (.readText m call p) = perform u (.readText n call p)

theorem streaming_of_mode {u : InUse} (mode : u.body.mode = .asStream) : Streaming u := by
  have hm : u.request.body.mode = .asStream := mode
  refine ⟨mode, ?_, ?_, ?_⟩
  · simp only [perform, giveOut, Request.openStream, Access.openAsStream, hm]
    rfl
  · simp only [perform, giveOut, Request.openReader, Access.openAsReader, hm]
    rfl
  · intro m n call p hm hn
    simp only [perform, through, if_pos hm, if_pos hn]

theorem texting_of_mode {u : InUse} {reader : TextReader} (mode : u.body.mode = .asReader reader) :
    Texting reader.charset u := by
  have hm : u.request.body.mode = .asReader reader := mode
  refine ⟨⟨reader, mode, rfl⟩, ?_, ?_, ?_⟩
  · simp only [perform, giveOut, Request.openReader, Access.openAsReader, hm]
    rfl
  · simp only [perform, giveOut, Request.openStream, Access.openAsStream, hm]
    rfl
  · intro m n call p hm hn
    simp only [perform, through, if_pos hm, if_pos hn]

theorem streaming_after {u : InUse} (h : Streaming u) (ops : List Operation) :
    Streaming (after u ops) := by
  refine Runs.after_induction h (fun v op hv => streaming_of_mode ?_) ops
  have moves := (changed_perform v op).moves
  rw [hv.mode] at moves
  generalize (perform v op).state.body.mode = next at moves
  cases moves with
  | stays => rfl
  | opensStream => rfl
  | opensReader closed => exact absurd rfl closed.ne_asStream

theorem texting_after {charset : Charset} {u : InUse} (h : Texting charset u)
    (ops : List Operation) : Texting charset (after u ops) := by
  refine Runs.after_induction h (fun v op hv => ?_) ops
  obtain ⟨reader, mode, same⟩ := hv.mode
  have moves := (changed_perform v op).moves
  rw [mode] at moves
  generalize hnext : (perform v op).state.body.mode = next at moves
  subst same
  cases moves with
  | stays => exact texting_of_mode hnext
  | opensStream closed => exact absurd rfl (closed.ne_asReader reader)
  | opensReader closed => exact absurd rfl (closed.ne_asReader reader)
  | reads charset =>
    rw [← charset]
    exact texting_of_mode hnext

/-- Why a body is not opened. -/
inductive Refusal (u : InUse) : Operation → RequestFault → Prop
  | openedAsReader {reader : TextReader} (mode : u.body.mode = .asReader reader) :
      Refusal u .openStream (.illegalState .openedAsReader)
  | openedAsStream (mode : u.body.mode = .asStream) :
      Refusal u .openReader (.illegalState .openedAsStream)
  | unresolved {f : RequestFault} (closed : Closed u.body.mode)
      (unresolved : u.encoding.resolve = .error f) : Refusal u .openReader f

theorem refusal_of_failed {u u' : InUse} {op : Operation} {f : RequestFault}
    (changed : Change u op (.failed f) u') (opens : op = .openStream ∨ op = .openReader) :
    Refusal u op f ∧ u' = u := by
  rcases opens with rfl | rfl
  · cases changed with
    | streamRefused mode => exact ⟨.openedAsReader mode, rfl⟩
    | aside r _ elsewhere => cases elsewhere
  · cases changed with
    | readerRefused mode => exact ⟨.openedAsStream mode, rfl⟩
    | readerUnresolved closed unresolved => exact ⟨.unresolved closed unresolved, rfl⟩
    | aside r _ elsewhere => cases elsewhere

/-- No access finds the body opened when it drains it. -/
theorem not_alreadyOpened {m : Moment} (asks : Asks m) :
    ¬ FailsWith m (.illegalState .alreadyOpened) := by
  intro fails
  by_cases fresh : m.before.parser.progress = .notStarted
  · rcases (builds_of_fresh asks fresh).fault asks fails with (⟨g, hg⟩ | ⟨label, hl⟩) | ⟨reason, hr⟩
    · cases hg
    · cases hl
    · cases hr
  · rcases fault_of_started asks fresh fails with h | ⟨reason, h⟩ <;> cases h

/-! ## Whole runs -/

/-- In every run the body is open as a stream if a handle on the stream has been given out, as text
if a handle on the reader has been given out, and never both. Once open, it stays as it is, is
opened again on the same cursor and never in the other way. -/
theorem stream_and_reader_exclude_each_other (a : Request.Arrival) (s : Settings) (id : Nat)
    (ops : List Operation) :
    let u := after (.received a s id) ops
    let moments := history (.received a s id) ops
    (u.body.mode = .asStream ↔ ∃ m ∈ moments, GivesStream m) ∧
    ((∃ reader, u.body.mode = .asReader reader) ↔ ∃ m ∈ moments, GivesReader m) ∧
    ¬ ((∃ m ∈ moments, GivesStream m) ∧ ∃ m ∈ moments, GivesReader m) ∧
    (∀ m ∈ moments, Moves m.event m.before.body.mode m.next.body.mode) ∧
    (u.body.mode = .asStream → ∀ later, Streaming (after u later)) ∧
    (∀ reader, u.body.mode = .asReader reader →
      ∀ later, Texting reader.charset (after u later)) ∧
    (∀ m ∈ moments, ∀ f, m.event = .openStream ∨ m.event = .openReader → m.answer = .failed f →
      Refusal m.before m.event f ∧ m.next = m.before) ∧
    ∀ m ∈ moments, Asks m → ¬ FailsWith m (.illegalState .alreadyOpened) := by
  intro u moments
  have exclusive : Exclusive u := exclusive_after (exclusive_received a s id) ops
  have stream : u.body.mode = .asStream ↔ ∃ m ∈ moments, GivesStream m := by
    rw [← exclusive.streams]
    exact (streams_after _ ops).trans (or_iff_right (Nat.lt_irrefl 0))
  have reader : (∃ reader, u.body.mode = .asReader reader) ↔ ∃ m ∈ moments, GivesReader m := by
    rw [← exclusive.readers]
    exact (readers_after _ ops).trans (or_iff_right (Nat.lt_irrefl 0))
  refine ⟨stream, reader, ?_, ?_, ?_, ?_, ?_, ?_⟩
  · rintro ⟨streams, readers⟩
    obtain ⟨r, asReader⟩ := reader.2 readers
    have asStream := stream.2 streams
    rw [asReader] at asStream
    cases asStream
  · intro m _
    exact (changed_perform m.before m.event).moves
  · intro mode later
    exact streaming_after (streaming_of_mode mode) later
  · intro reader mode later
    exact texting_after (texting_of_mode mode) later
  · intro m _ f opens answer
    have changed := changed_perform m.before m.event
    have failed : (perform m.before m.event).answer = .failed f := answer
    rw [failed] at changed
    exact refusal_of_failed changed opens
  · intro m _ asks
    exact not_alreadyOpened asks

end WebRequest.Handling
