-- Which access takes the body, and what all others leave of it. An access that does not take the
-- body is not to be noticed by whoever opens and reads it, before or after: the run without any
-- access gives the same answers.
import WebRequest.Proofs.Handling.Consumption
import WebRequest.Proofs.Handling.Freezing

namespace WebRequest.Handling

open Body Parameters

/-- The operation opens the body as a stream, or reads the stream. -/
def Operation.isOfStream : Operation → Bool
  | .openStream | .readStream .. | .askStream .. => true
  | _ => false

/-- The operation opens the body as text, or reads the text. -/
def Operation.isOfText : Operation → Bool
  | .openReader | .readText .. => true
  | _ => false

/-- The operations that do not ask for the parameters. -/
def withoutAccesses (ops : List Operation) : List Operation := ops.filter fun op => !op.isAccess

theorem isAccess_of_mem_withoutAccesses {ops : List Operation} {op : Operation}
    (h : op ∈ withoutAccesses ops) : op.isAccess = false := by
  simpa using (List.mem_filter.1 h).2

theorem isOverride_of_mem_withoutOverrides {ops : List Operation} {op : Operation}
    (h : op ∈ withoutOverrides ops) : op.isOverride = false := by
  simpa using (List.mem_filter.1 h).2

/-! ## Two requests with the same body -/

/-- Two requests in use have the same body, and as many handles on it have been given out. -/
structure SameBody (u v : InUse) : Prop where
  body : v.body = u.body
  streams : v.streams = u.streams
  readers : v.readers = u.readers

theorem SameBody.trans {u v w : InUse} (h : SameBody u v) (h' : SameBody v w) : SameBody u w :=
  ⟨h'.body.trans h.body, h'.streams.trans h.streams, h'.readers.trans h.readers⟩

theorem SameBody.symm {u v : InUse} (h : SameBody u v) : SameBody v u :=
  ⟨h.body.symm, h.streams.symm, h.readers.symm⟩

/-- Who neither opens the body nor reads it nor asks for the parameters, leaves it alone. -/
theorem Change.bystander {u u' : InUse} {op : Operation} {a : Answer} (changed : Change u op a u')
    (stream : op.isOfStream = false) (text : op.isOfText = false)
    (access : op.isAccess = false) : SameBody u u' := by
  cases changed with
  | overridden _ _ _ => exact ⟨rfl, rfl, rfl⟩
  | aside r apart _ => exact ⟨apart.body, rfl, rfl⟩
  | parsed | answered | interrupted => cases access
  | readerOpened | readerAgain | readerRefused | readerUnresolved | textRead | nothingToRead
  | noReader => cases text
  | _ => cases stream

namespace SameBody

variable {u v : InUse} {op : Operation}

/-- What is done with the stream depends on the body alone. -/
theorem stream (h : SameBody u v) (ofStream : op.isOfStream = true) :
    (perform v op).answer = (perform u op).answer ∧
      SameBody (perform u op).state (perform v op).state := by
  have hb : v.request.body = u.request.body := h.body
  have hs := h.streams
  have hr := h.readers
  cases op with
  | openStream =>
    rcases hm : u.request.body.mode with _ | _ | _ | reader
    all_goals
      simp only [perform, giveOut, Request.openStream, Access.openAsStream, hb, hm, hs]
    case asReader => exact ⟨rfl, rfl, hs, hr⟩
    all_goals exact ⟨rfl, rfl, rfl, hr⟩
  | readStream handle call p =>
    simp only [perform, through, hs]
    split
    · cases call
      all_goals
        simp only [StreamCall.on, Request.readChunk, Request.readToEnd, Request.throughStream, hb]
        exact ⟨rfl, rfl, hs, hr⟩
    · exact ⟨rfl, h⟩
  | askStream handle fact =>
    simp only [perform, through, hs]
    split
    · exact ⟨by simp only [Outcome.within, h.body], h⟩
    · exact ⟨rfl, h⟩
  | _ => cases ofStream

/-- The body is opened as text depending on it and, if it is closed, on the charset. -/
theorem openReader (h : SameBody u v)
    (resolve : Closed u.body.mode → v.encoding.resolve = u.encoding.resolve) :
    (perform v .openReader).answer = (perform u .openReader).answer ∧
      SameBody (perform u .openReader).state (perform v .openReader).state := by
  have hb : v.request.body = u.request.body := h.body
  have hs := h.streams
  have hr := h.readers
  rcases hm : u.request.body.mode with _ | _ | _ | reader
  case unopened | consumed =>
    have closed : Closed u.body.mode := by
      show Closed u.request.body.mode
      simp [Closed, hm]
    have he : v.request.encoding.resolve = u.request.encoding.resolve := resolve closed
    rcases hc : u.request.encoding.resolve with fault | charset
    all_goals
      simp only [perform, giveOut, Request.openReader, Access.openAsReader, hb, hm, hr, he, hc]
    · exact ⟨rfl, rfl, hs, hr⟩
    · exact ⟨rfl, rfl, hs, rfl⟩
  case asStream =>
    simp only [perform, giveOut, Request.openReader, Access.openAsReader, hb, hm]
    exact ⟨rfl, rfl, hs, hr⟩
  case asReader =>
    simp only [perform, giveOut, Request.openReader, Access.openAsReader, hb, hm, hr]
    exact ⟨rfl, rfl, hs, rfl⟩

/-- What is read of the text depends on the body alone. -/
theorem readText (h : SameBody u v) (handle : Nat) (call : TextCall) (p : Patience) :
    (perform v (.readText handle call p)).answer = (perform u (.readText handle call p)).answer ∧
      SameBody (perform u (.readText handle call p)).state
        (perform v (.readText handle call p)).state := by
  have hb : v.request.body = u.request.body := h.body
  simp only [perform, through, h.readers]
  split
  · have read : (call.on p v.request).answer = (call.on p u.request).answer ∧
        (call.on p v.request).state.body = (call.on p u.request).state.body := by
      cases call
      all_goals
        simp only [TextCall.on, Request.readText, Request.readLine, Request.readRest,
          Request.throughReader, hb]
      all_goals
        rcases u.request.body.throughReader? _ with _ | o
        · exact ⟨rfl, hb⟩
        · exact ⟨rfl, rfl⟩
    exact ⟨congrArg Answer.text read.1, read.2, h.streams, h.readers⟩
  · exact ⟨rfl, h⟩

theorem text (h : SameBody u v) (ofText : op.isOfText = true)
    (resolve : op = .openReader → Closed u.body.mode → v.encoding.resolve = u.encoding.resolve) :
    (perform v op).answer = (perform u op).answer ∧
      SameBody (perform u op).state (perform v op).state := by
  cases op with
  | openReader => exact h.openReader (resolve rfl)
  | readText handle call p => exact h.readText handle call p
  | _ => cases ofText

/-- The same body stays the same under whatever does not ask for the parameters. -/
theorem step (h : SameBody u v) (access : op.isAccess = false)
    (resolve : op = .openReader → Closed u.body.mode → v.encoding.resolve = u.encoding.resolve) :
    SameBody (perform u op).state (perform v op).state := by
  by_cases ofStream : op.isOfStream = true
  · exact (h.stream ofStream).2
  by_cases ofText : op.isOfText = true
  · exact (h.text ofText resolve).2
  rw [Bool.not_eq_true] at ofStream ofText
  have kept := (changed_perform u op).bystander ofStream ofText access
  have kept' := (changed_perform v op).bystander ofStream ofText access
  exact (kept.symm.trans h).trans kept'

end SameBody

/-! ## Two requests with the same stream -/

/-- Two requests in use have the same body, or both are open as text and have no stream. As many
handles have been given out. -/
structure SameStream (u v : InUse) : Prop where
  streams : v.streams = u.streams
  readers : v.readers = u.readers
  body : v.body = u.body ∨
    (∃ reader, u.body.mode = .asReader reader) ∧ ∃ reader, v.body.mode = .asReader reader

theorem SameBody.sameStream {u v : InUse} (h : SameBody u v) : SameStream u v :=
  ⟨h.streams, h.readers, .inl h.body⟩

/-- The encoding has a charset. -/
def Resolves (e : BodyEncoding) : Prop := ∃ charset, e.resolve = .ok charset

theorem perform_asReader {u : InUse} (mode : ∃ reader, u.body.mode = .asReader reader)
    (op : Operation) :
    (∃ reader, (perform u op).state.body.mode = .asReader reader) ∧
      (perform u op).state.streams = u.streams ∧
      (op = .openReader → (perform u op).state.readers = u.readers + 1) ∧
      (op ≠ .openReader → (perform u op).state.readers = u.readers) := by
  obtain ⟨reader, mode⟩ := mode
  have texting := texting_of_mode mode
  obtain ⟨reader', mode', -⟩ := (texting_after texting [op]).mode
  refine ⟨⟨reader', mode'⟩, ?_, ?_, ?_⟩
  · rcases (changed_perform u op).streams with ⟨-, rfl, answer⟩ | ⟨same, -⟩
    · rw [texting.refused]
    · exact same
  · rintro rfl
    rw [texting.again]
  · intro other
    rcases (changed_perform u op).readers with ⟨-, opens, -⟩ | ⟨same, -⟩
    · exact absurd opens other
    · exact same

theorem openReader_of_resolves {u : InUse} (closed : Closed u.body.mode)
    (resolves : Resolves u.encoding) :
    (∃ reader, (perform u .openReader).state.body.mode = .asReader reader) ∧
      (perform u .openReader).state.streams = u.streams ∧
      (perform u .openReader).state.readers = u.readers + 1 := by
  obtain ⟨charset, resolved⟩ := resolves
  have hr : u.request.encoding.resolve = .ok charset := resolved
  rcases closed with mode | mode
  all_goals
    have hm : u.request.body.mode = _ := mode
    simp only [perform, giveOut, Request.openReader, Access.openAsReader, hm, hr]
    exact ⟨⟨_, rfl⟩, rfl, rfl⟩

theorem openReader_of_unresolved {u : InUse} (closed : Closed u.body.mode)
    (unresolved : ¬ Resolves u.encoding) : (perform u .openReader).state = u := by
  have refused : ∃ fault, u.encoding.resolve = .error fault := by
    rcases hr : u.encoding.resolve with fault | charset
    · exact ⟨fault, rfl⟩
    · exact absurd ⟨charset, hr⟩ unresolved
  obtain ⟨fault, resolved⟩ := refused
  have answer := opening_of_closed closed
  rw [resolved] at answer
  have changed := changed_perform u .openReader
  rw [answer] at changed
  exact (refusal_of_failed changed (.inr rfl)).2

namespace SameStream

variable {u v : InUse} {op : Operation}

/-- What is done with the stream is the same for both. -/
theorem answer (h : SameStream u v) (exclusive : Exclusive u) (ofStream : op.isOfStream = true) :
    (perform v op).answer = (perform u op).answer := by
  rcases h.body with same | ⟨⟨reader, mode⟩, reader', mode'⟩
  · exact (SameBody.stream ⟨same, h.streams, h.readers⟩ ofStream).1
  · have none_ : u.streams = 0 := exclusive.streams_eq_zero (by rw [mode]; intro other; cases other)
    have none_' : v.streams = 0 := h.streams.trans none_
    cases op with
    | openStream => rw [(texting_of_mode mode).refused, (texting_of_mode mode').refused]
    | readStream | askStream =>
      simp only [perform, through, none_, none_', Nat.not_lt_zero, if_false]
    | _ => cases ofStream

/-- The same stream stays the same under whatever does not ask for the parameters, provided that
both or none have a charset when the body is opened as text. -/
theorem step (h : SameStream u v) (access : op.isAccess = false)
    (resolves : op = .openReader → Closed u.body.mode →
      (Resolves u.encoding ↔ Resolves v.encoding)) :
    SameStream (perform u op).state (perform v op).state := by
  rcases h.body with same | ⟨mode, mode'⟩
  · have sameBody : SameBody u v := ⟨same, h.streams, h.readers⟩
    by_cases opens : op = .openReader ∧ Closed u.body.mode
    · obtain ⟨rfl, closed⟩ := opens
      have closed' : Closed v.body.mode := by rwa [same]
      by_cases resolved : Resolves u.encoding
      · have resolved' := (resolves rfl closed).1 resolved
        obtain ⟨mode, streams, readers⟩ := openReader_of_resolves closed resolved
        obtain ⟨mode', streams', readers'⟩ := openReader_of_resolves closed' resolved'
        refine ⟨?_, ?_, .inr ⟨mode, mode'⟩⟩
        · rw [streams, streams', h.streams]
        · rw [readers, readers', h.readers]
      · have unresolved' := mt (resolves rfl closed).2 resolved
        rw [openReader_of_unresolved closed resolved, openReader_of_unresolved closed' unresolved']
        exact h
    · exact (sameBody.step access fun isOpen closed => absurd ⟨isOpen, closed⟩ opens).sameStream
  · obtain ⟨next, streams, opened, unopened⟩ := perform_asReader mode op
    obtain ⟨next', streams', opened', unopened'⟩ := perform_asReader mode' op
    refine ⟨?_, ?_, .inr ⟨next, next'⟩⟩
    · rw [streams, streams', h.streams]
    · by_cases opens : op = .openReader
      · rw [opened opens, opened' opens, h.readers]
      · rw [unopened opens, unopened' opens, h.readers]

end SameStream

/-! ## Runs of both -/

theorem resolves_perform {u : InUse} (h : Resolves u.encoding) (op : Operation) :
    Resolves (perform u op).state.encoding := by
  have applied {e : BodyEncoding} (name : String) (charset : Charset) (he : Resolves e) :
      Resolves (e.apply name charset).state := by
    unfold BodyEncoding.apply
    simp only
    split
    · exact he
    · exact ⟨charset, rfl⟩
  cases op with
  | override choice =>
    cases choice with
    | chosen charset => exact applied _ _ h
    | named name =>
      simp only [perform, Override.on, Request.setCharacterEncoding, BodyEncoding.setName]
      rcases Charset.require name with fault | charset
      · exact h
      · exact applied _ _ h
  | _ =>
    unfold Resolves
    rw [((changed_perform u _).encoding rfl).2]
    exact h

theorem unresolved_perform {u : InUse} (frozen : u.encoding.frozen = true)
    (h : ¬ Resolves u.encoding) (op : Operation) : ¬ Resolves (perform u op).state.encoding := by
  rw [(changed_perform u op).encoding_of_frozen frozen]
  exact h

theorem readers_le_perform (u : InUse) (op : Operation) :
    u.readers ≤ (perform u op).state.readers := by
  rcases (changed_perform u op).readers with ⟨more, -⟩ | ⟨same, -⟩
  · omega
  · omega

/-- With the same charset, the same body stays the same while nobody asks for the parameters or
for another charset. -/
theorem sameBody_after {u v : InUse} (h : SameBody u v)
    (resolve : v.encoding.resolve = u.encoding.resolve) {ops : List Operation}
    (plain : ∀ op ∈ ops, op.isAccess = false ∧ op.isOverride = false) :
    SameBody (after u ops) (after v ops) ∧
      (after v ops).encoding.resolve = (after u ops).encoding.resolve := by
  refine Runs.after_induction₂ (R := fun u v : InUse =>
    SameBody u v ∧ v.encoding.resolve = u.encoding.resolve) ⟨h, resolve⟩ ?_
  rintro u v op hop ⟨same, resolve⟩
  obtain ⟨access, override⟩ := plain op hop
  refine ⟨same.step access fun _ _ => resolve, ?_⟩
  rw [((changed_perform u op).encoding override).2, ((changed_perform v op).encoding override).2]
  exact resolve

/-- The same body leaves the same stream while nobody asks for the parameters, if both have a
charset. -/
theorem sameStream_after_of_resolves {u v : InUse} (h : SameBody u v)
    (resolves : Resolves u.encoding) (resolves' : Resolves v.encoding) {ops : List Operation}
    (plain : ∀ op ∈ ops, op.isAccess = false) : SameStream (after u ops) (after v ops) := by
  have all : SameStream (after u ops) (after v ops) ∧ Resolves (after u ops).encoding ∧
      Resolves (after v ops).encoding := by
    refine Runs.after_induction₂ (R := fun u v : InUse =>
      SameStream u v ∧ Resolves u.encoding ∧ Resolves v.encoding)
      ⟨h.sameStream, resolves, resolves'⟩ ?_
    rintro u v op hop ⟨same, resolves, resolves'⟩
    exact ⟨same.step (plain op hop) fun _ _ => iff_of_true resolves resolves',
      resolves_perform resolves op, resolves_perform resolves' op⟩
  exact all.1

/-- The same body leaves the same stream while nobody asks for the parameters, if one of both can
have no charset and the other is not opened as text. -/
theorem sameStream_after_of_unresolved {u v : InUse} (h : SameBody u v)
    (frozen : v.encoding.frozen = true) (unresolved : ¬ Resolves v.encoding)
    {ops : List Operation} (plain : ∀ op ∈ ops, op.isAccess = false)
    (unread : (after u ops).readers = 0) : SameStream (after u ops) (after v ops) := by
  have all : ((after u ops).readers = 0 → SameStream (after u ops) (after v ops)) ∧
      (after v ops).encoding.frozen = true ∧ ¬ Resolves (after v ops).encoding := by
    refine Runs.after_induction₂ (R := fun u v : InUse =>
      (u.readers = 0 → SameStream u v) ∧ v.encoding.frozen = true ∧ ¬ Resolves v.encoding)
      ⟨fun _ => h.sameStream, frozen, unresolved⟩ ?_
    rintro u v op hop ⟨same, frozen, unresolved⟩
    refine ⟨?_, frozen_perform frozen op, unresolved_perform frozen unresolved op⟩
    intro none_
    have before : u.readers = 0 := Nat.le_zero.1 (none_ ▸ readers_le_perform u op)
    refine (same before).step (plain op hop) ?_
    rintro rfl closed
    refine iff_of_false ?_ unresolved
    intro resolves
    obtain ⟨-, -, readers⟩ := openReader_of_resolves closed resolves
    omega
  exact all.1 unread

/-- Accesses that come after the first change nothing. -/
theorem late_accesses {u : InUse} (started : u.parser.progress ≠ .notStarted)
    (ops : List Operation) : after u ops = after u (withoutAccesses ops) := by
  refine (Runs.after_filter (P := fun v : InUse => v.parser.progress ≠ .notStarted)
    ?_ ?_ started ops).1
  · intro v op h
    rw [(changed_perform v op).parser (.inr h)]
    exact h
  · intro v op h access
    have asks : Asks ⟨v, op⟩ := isAccess_iff.1 (by simpa using access)
    exact (quiet_of_started asks h).1

/-! ## The access -/

/-- Of an access between the two requests, nothing is to be noticed by whoever opens and reads the
body. -/
structure Spares (u next : InUse) : Prop where
  body : next.body = u.body
  /-- The stream is the same as without accesses. Where the access met no charset, a later override
  could still give one to the request without it, which is then opened as text and has no stream. -/
  streams : ∀ ops op, op.isOfStream = true →
    Resolves u.encoding ∨ (after u (withoutAccesses ops)).readers = 0 →
    (perform (after next ops) op).answer = (perform (after u (withoutAccesses ops)) op).answer
  /-- The stream and the text are the same as without accesses, and without the overrides, which
  come too late after an access. -/
  texts : ∀ ops op, op.isOfStream = true ∨ op.isOfText = true →
    (perform (after next ops) op).answer =
      (perform (after u (withoutAccesses (withoutOverrides ops))) op).answer

theorem spares_of_sameBody {u next : InUse} (same : SameBody u next)
    (resolve : next.encoding.resolve = u.encoding.resolve) (frozen : next.encoding.frozen = true)
    (started : next.parser.progress ≠ .notStarted) (exclusive : Exclusive u) :
    Spares u next := by
  refine ⟨same.body, ?_, ?_⟩
  · intro ops op stream known
    have plain : ∀ op ∈ withoutAccesses ops, op.isAccess = false :=
      fun op => isAccess_of_mem_withoutAccesses
    have sameStream :
        SameStream (after u (withoutAccesses ops)) (after next (withoutAccesses ops)) := by
      by_cases resolves : Resolves u.encoding
      · exact sameStream_after_of_resolves same resolves (by rwa [Resolves, resolve]) plain
      · have unread := known.resolve_left resolves
        exact sameStream_after_of_unresolved same frozen (by rwa [Resolves, resolve]) plain unread
    rw [late_accesses started]
    exact sameStream.answer (exclusive_after exclusive _) stream
  · intro ops op ofBody
    have plain : ∀ op ∈ withoutAccesses (withoutOverrides ops),
        op.isAccess = false ∧ op.isOverride = false := fun op hop =>
      ⟨isAccess_of_mem_withoutAccesses hop,
        isOverride_of_mem_withoutOverrides (List.mem_filter.1 hop).1⟩
    obtain ⟨sameBody, sameCharset⟩ := sameBody_after same resolve plain
    rw [(late_overrides frozen ops).1, late_accesses started]
    rcases ofBody with stream | text
    · exact (sameBody.stream stream).1
    · exact (sameBody.text text fun _ _ => sameCharset).1

/-- The first access takes the body exactly if nobody has opened it, the query is accepted, the body
has a charset, and it is a form, or it is a multipart body with a boundary and the endpoint supports
these. Otherwise it leaves the body as it is, and whoever opens and reads it, before or after, does
not notice the access, nor any other one that follows. -/
theorem an_access_takes_the_body_or_spares_it (a : Request.Arrival) (s : Settings) (id : Nat)
    (earlier : List Operation) (first : ∀ op ∈ earlier, op.isAccess = false) (q : Question)
    (p : Patience) :
    let u := after (.received a s id) earlier
    let next := (perform u (.access q p)).state
    let i := (Request.receive a s id).parserInput
    (next.body.mode = .consumed ↔
      u.body.mode = .unopened ∧ (process i.rules [] (queryResults i.query)).stop = none ∧
        (∃ charset, u.encoding.resolve = .ok charset) ∧
        (i.kind = .urlEncoded ∨ ∃ boundary support,
          i.kind = .multipart (some boundary) ∧ i.endpoint.multipart = some support)) ∧
    (next.body.mode ≠ .consumed → Spares u next) := by
  intro u next i
  have input : u.request.parserInput = i := input_after _ earlier
  have fresh : u.parser.progress = .notStarted := by
    rw [parser_after_of_no_access first]
    rfl
  have present : u.request.body.mode ≠ .consumed := fun consumed =>
    (drained_of_consumed a s id earlier consumed).started fresh
  have access := firstAccess_ensureParsed (r := u.request) fresh p
  have has := hasBuilt_ensureParsed (r := u.request) fresh p
  obtain ⟨consumes, left⟩ := (builtAs_built u.request p).consumes_iff present
  have state : next = u.withRequest (u.request.ensureParsed p).state :=
    (moment_of_access (m := ⟨u, .access q p⟩) rfl).2.1
  have body : next.body = (built u.request p).state.access := by
    rw [state]
    exact has.body
  have encoding : next.encoding = u.encoding.freeze := by
    rw [state]
    exact access.encoding
  refine ⟨?_, ?_⟩
  · rw [body, consumes, exists_takes_iff, input]
    rfl
  · intro kept
    rw [body] at kept
    refine spares_of_sameBody ⟨body.trans (left kept), ?_, ?_⟩ ?_ ?_ ?_
      (exclusive_after (exclusive_received a s id) earlier)
    · rw [state]
      rfl
    · rw [state]
      rfl
    · rw [encoding]
      rfl
    · rw [encoding]
      rfl
    · rw [state]
      exact access.started

/-- A body that is no form, though it looks like one. -/
def note : Request.Arrival :=
  { head :=
      { method := "POST", uri := { path := "/" }, version := .v11,
        fields := ⟨[("content-type", Bytes.ofText "text/plain")]⟩ },
    transport := { frames := [.data (Bytes.ofText "a=1")] } }

theorem a_form_is_taken_and_a_note_is_spared :
    (∃ charset, (after (.received slowForm {} 1) []).encoding.resolve = .ok charset) ∧
      let u := after (.received note {} 1) [.openStream]
      let next := (perform u (.access .names none)).state
      (perform next (.readStream 0 .rest none)).answer =
          .bytes (.ready (.ok (some (Bytes.ofText "a=1")))) ∧
        Spares u next := by
  obtain ⟨takes, -⟩ := an_access_takes_the_body_or_spares_it slowForm {} 1 []
    (fun op hop => absurd hop List.not_mem_nil) .nothing none
  obtain ⟨-, spares⟩ := an_access_takes_the_body_or_spares_it note {} 1 [.openStream]
    (by decide) .names none
  have spared := spares (by decide +kernel)
  refine ⟨(takes.1 (by decide +kernel)).2.2.1, ?_, spared⟩
  exact (spared.streams [] (.readStream 0 .rest none) rfl (.inr rfl)).trans rfl

end WebRequest.Handling
