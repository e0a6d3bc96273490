-- What one operation can change of a request in use. What a run keeps is proved by the case
-- distinction of `Change`, and no operation is opened again for it.
import WebRequest.Proofs.Handling.Run

namespace WebRequest.Handling

open Body Parameters

/-! ## Questions -/

/-- What the parser answers to a question once it is done. -/
def Question.answer (p : Parser) : Question → Except RequestFault Reply
  | .nothing => .ok .nothing
  | .first name => .ok (.first (p.table.get? name))
  | .all name => .ok (.all (p.table.getAll? name))
  | .names => .ok (.names p.table.names)
  | .table => .ok (.table p.table)
  | .record shape => ((p.table.readAs shape).mapError fun f => .deserialize f.message).map .record
  | .files => .ok (.files p.files)

/-- All questions go through one gate. -/
theorem put_eq (q : Question) (patience : Patience) (r : Request) :
    q.put patience r = r.askParser q.answer patience := by
  unfold Request.askParser
  cases q <;>
    simp only [Question.put, Request.parameter, Request.parameterValues, Request.parameterNames,
      Request.parameterTable, Request.parametersAs, Request.files, Request.askParser,
      Outcome.map, reword, Question.answer]
  all_goals
    rcases (r.ensureParsed patience).answer with (fault | _) | _ <;> rfl

theorem askParser_state (question : Parser → Except RequestFault Reply) (p : Patience)
    (r : Request) : (r.askParser question p).state = (r.ensureParsed p).state := by
  simp only [Request.askParser]
  rcases (r.ensureParsed p).answer with (fault | _) | _ <;> rfl

theorem askParser_of_ok {question : Parser → Except RequestFault Reply} {p : Patience}
    {r r' : Request} (h : r.ensureParsed p = { answer := .ready (.ok ()), state := r' }) :
    r.askParser question p = { answer := .ready (question r'.parser), state := r' } := by
  simp only [Request.askParser, h]

theorem askParser_of_error {question : Parser → Except RequestFault Reply} {p : Patience}
    {r r' : Request} {fault : RequestFault}
    (h : r.ensureParsed p = { answer := .ready (.error fault), state := r' }) :
    r.askParser question p = { answer := .ready (.error fault), state := r' } := by
  simp only [Request.askParser, h]

theorem ensureParsed_of_done {r : Request} (h : r.parser.progress = .done) (p : Patience) :
    r.ensureParsed p = { answer := .ready (.ok ()), state := r } := by
  simp only [Request.ensureParsed, Workplace.ensureParsed, h]
  rfl

theorem ensureParsed_of_inProgress {r : Request} (h : r.parser.progress = .inProgress)
    (p : Patience) :
    r.ensureParsed p =
      { answer := .ready (.error (.illegalState .parsingInterrupted)), state := r } := by
  simp only [Request.ensureParsed, Workplace.ensureParsed, h]
  rfl

/-! ## Changes -/

/-- Two requests with the same body and parameters. -/
structure Apart (r r' : Request) : Prop where
  body : r'.body = r.body
  encoding : r'.encoding = r.encoding
  parser : r'.parser = r.parser
  input : r'.parserInput = r.parserInput

/-- The body has not been opened. -/
def Closed (m : Mode) : Prop := m = .unopened ∨ m = .consumed

/-- The operation has nothing to do with the body and the parameters. -/
def Operation.isAside : Operation → Bool
  | .attributes _ => true
  | .suspension _ => true
  | _ => false

/-- What an operation can do to a request in use: its answer, and the request after it. -/
inductive Change (u : InUse) : Operation → Answer → InUse → Prop
  | overridden {choice : Override} {a : Answer} (e : BodyEncoding)
      (frozen : u.encoding.frozen = true → e = u.encoding)
      (kept : e.frozen = u.encoding.frozen) :
      Change u (.override choice) a (u.withRequest { u.request with encoding := e })
  | streamOpened (closed : Closed u.body.mode) :
      Change u .openStream (.handle u.streams)
        { (u.withRequest { u.request with
            body := { u.body with mode := .asStream }, encoding := u.encoding.freeze }) with
          streams := u.streams + 1 }
  | streamAgain (mode : u.body.mode = .asStream) :
      Change u .openStream (.handle u.streams) { u with streams := u.streams + 1 }
  | streamRefused {reader : TextReader} (mode : u.body.mode = .asReader reader) :
      Change u .openStream (.failed (.illegalState .openedAsReader)) u
  | readerOpened {charset : Charset} (closed : Closed u.body.mode)
      (resolved : u.encoding.resolve = .ok charset) :
      Change u .openReader (.handle u.readers)
        { (u.withRequest { u.request with
            body := { u.body with mode := .asReader (.start charset) },
            encoding := u.encoding.freeze }) with
          readers := u.readers + 1 }
  | readerAgain {reader : TextReader} (mode : u.body.mode = .asReader reader) :
      Change u .openReader (.handle u.readers) { u with readers := u.readers + 1 }
  | readerRefused (mode : u.body.mode = .asStream) :
      Change u .openReader (.failed (.illegalState .openedAsStream)) u
  | readerUnresolved {fault : RequestFault} (closed : Closed u.body.mode)
      (resolved : u.encoding.resolve = .error fault) :
      Change u .openReader (.failed fault) u
  | parsed {q : Question} {p : Patience} (fresh : u.parser.progress = .notStarted) :
      Change u (.access q p) (.parameters (u.request.askParser q.answer p).answer)
        (u.withRequest (u.request.ensureParsed p).state)
  | answered {q : Question} {p : Patience} (done : u.parser.progress = .done) :
      Change u (.access q p) (.parameters (.ready (q.answer u.parser))) u
  | interrupted {q : Question} {p : Patience} (midway : u.parser.progress = .inProgress) :
      Change u (.access q p)
        (.parameters (.ready (.error (.illegalState .parsingInterrupted)))) u
  | streamRead {handle : Nat} {call : StreamCall} {p : Patience} (given : handle < u.streams) :
      Change u (.readStream handle call p) (.bytes (call.read p u.body.cursor).answer)
        (u.withBody { u.body with cursor := (call.read p u.body.cursor).state })
  | streamAsked {handle : Nat} {fact : StreamFact} (given : handle < u.streams) :
      Change u (.askStream handle fact) (fact.of u.body.cursor) u
  | textRead {handle : Nat} {call : TextCall} {p : Patience} {reader : TextReader}
      (given : handle < u.readers) (mode : u.body.mode = .asReader reader) :
      Change u (.readText handle call p) (.text (call.read p reader u.body.cursor).answer)
        (u.withBody
          { mode := .asReader (call.read p reader u.body.cursor).state.1,
            cursor := (call.read p reader u.body.cursor).state.2 })
  | nothingToRead {handle : Nat} {call : TextCall} {p : Patience} {a : Answer}
      (given : handle < u.readers) (mode : u.body.reader? = none) :
      Change u (.readText handle call p) a u
  | noStreamToRead {handle : Nat} {call : StreamCall} {p : Patience}
      (missing : u.streams ≤ handle) : Change u (.readStream handle call p) .absent u
  | noStreamToAsk {handle : Nat} {fact : StreamFact} (missing : u.streams ≤ handle) :
      Change u (.askStream handle fact) .absent u
  | noReader {handle : Nat} {call : TextCall} {p : Patience} (missing : u.readers ≤ handle) :
      Change u (.readText handle call p) .absent u
  | aside {op : Operation} {a : Answer} (r : Request) (apart : Apart u.request r)
      (elsewhere : op.isAside = true) : Change u op a (u.withRequest r)

/-! ## The change of each operation -/

theorem apart_attributes (r : Request) (change : AttributeChange) :
    Apart r (change.on r).state := by
  cases change <;> exact ⟨rfl, rfl, rfl, rfl⟩

theorem apart_suspension (r : Request) (event : Suspension.Event) :
    Apart r (Suspension.perform r event).state := by
  have onHandle (place : Nat) (f : Async.Cycle → Outcome Async.Cycle Suspension.Answer) :
      Apart r (Suspension.onHandle r place f).state := by
    unfold Suspension.onHandle Request.callCycle
    rcases r.lifecycle.call place f with _ | o <;> exact ⟨rfl, rfl, rfl, rfl⟩
  cases event with
  | expiry place => exact onHandle place _
  | operation op =>
    cases op with
    | call place call => exact onHandle place _
    | _ => exact ⟨rfl, rfl, rfl, rfl⟩

theorem change_openStream (u : InUse) :
    Change u .openStream (perform u .openStream).answer (perform u .openStream).state := by
  unfold perform giveOut Request.openStream Access.openAsStream
  cases hm : u.request.body.mode with
  | unopened => exact .streamOpened (.inl hm)
  | consumed => exact .streamOpened (.inr hm)
  | asStream => exact .streamAgain hm
  | asReader reader => exact .streamRefused hm

theorem change_openReader (u : InUse) :
    Change u .openReader (perform u .openReader).answer (perform u .openReader).state := by
  unfold perform giveOut Request.openReader Access.openAsReader
  have hmode : u.body.mode = u.request.body.mode := rfl
  have hencoding : u.encoding.resolve = u.request.encoding.resolve := rfl
  rcases hm : u.request.body.mode with _ | _ | _ | reader
  · rcases hr : u.request.encoding.resolve with fault | charset
    · exact .readerUnresolved (.inl hm) hr
    · exact .readerOpened (.inl hm) hr
  · rcases hr : u.request.encoding.resolve with fault | charset
    · exact .readerUnresolved (.inr hm) hr
    · exact .readerOpened (.inr hm) hr
  · exact .readerRefused hm
  · exact .readerAgain hm

theorem apply_kept (e : BodyEncoding) (name : String) (charset : Charset) :
    (e.frozen = true → (e.apply name charset).state = e) ∧
      (e.apply name charset).state.frozen = e.frozen := by
  unfold BodyEncoding.apply
  cases hf : e.frozen <;> simp [hf]

theorem change_override (u : InUse) (choice : Override) :
    Change u (.override choice) (perform u (.override choice)).answer
      (perform u (.override choice)).state := by
  cases choice with
  | chosen charset =>
    obtain ⟨frozen, kept⟩ := apply_kept u.encoding charset.name charset
    exact .overridden _ frozen kept
  | named name =>
    dsimp only [perform, Override.on, Request.setCharacterEncoding, BodyEncoding.setName]
    rcases Charset.require name with fault | charset
    · exact .overridden u.encoding (fun _ => rfl) rfl
    · obtain ⟨frozen, kept⟩ := apply_kept u.encoding (Text.trim name) charset
      exact .overridden _ frozen kept

theorem change_access (u : InUse) (q : Question) (p : Patience) :
    Change u (.access q p) (perform u (.access q p)).answer (perform u (.access q p)).state := by
  simp only [perform, put_eq, Outcome.map, Outcome.within, askParser_state]
  rcases hp : u.parser.progress with _ | _ | _
  · exact .parsed hp
  · have ensured := ensureParsed_of_inProgress hp p
    rw [askParser_of_error ensured, ensured]
    exact .interrupted hp
  · have ensured := ensureParsed_of_done hp p
    rw [askParser_of_ok ensured, ensured]
    exact .answered hp

theorem change_readStream (u : InUse) (handle : Nat) (call : StreamCall) (p : Patience) :
    Change u (.readStream handle call p) (perform u (.readStream handle call p)).answer
      (perform u (.readStream handle call p)).state := by
  simp only [perform, through]
  by_cases given : handle < u.streams
  · rw [if_pos given]
    have changed : Change u (.readStream handle call p) (.bytes (call.read p u.body.cursor).answer)
        (u.withBody { u.body with cursor := (call.read p u.body.cursor).state }) :=
      .streamRead given
    cases call <;> exact changed
  · rw [if_neg given]
    exact .noStreamToRead (Nat.le_of_not_lt given)

theorem change_askStream (u : InUse) (handle : Nat) (fact : StreamFact) :
    Change u (.askStream handle fact) (perform u (.askStream handle fact)).answer
      (perform u (.askStream handle fact)).state := by
  simp only [perform, through]
  by_cases given : handle < u.streams
  · rw [if_pos given]
    exact .streamAsked given
  · rw [if_neg given]
    exact .noStreamToAsk (Nat.le_of_not_lt given)

/-- A read through a reader is a read of its text. -/
theorem on_of_reader {r : Request} {reader : TextReader} (h : r.body.mode = .asReader reader)
    (call : TextCall) (p : Patience) :
    call.on p r = (call.read p reader r.body.cursor).within fun s =>
      { r with body := { mode := .asReader s.1, cursor := s.2 } } := by
  cases call
  all_goals
    simp only [TextCall.on, TextCall.read, Request.readText, Request.readLine, Request.readRest,
      Request.throughReader, Access.throughReader?, h]
    rfl

theorem on_of_noReader {r : Request} (h : r.body.reader? = none) (call : TextCall)
    (p : Patience) : (call.on p r).state = r := by
  have nothing (α : Type) (read : TextReader → Cursor → Waiting (TextReader × Cursor) α) :
      r.body.throughReader? read = none := by
    unfold Access.reader? at h
    unfold Access.throughReader?
    split
    · rename_i hm
      rw [hm] at h
      cases h
    · rfl
  cases call <;>
    simp only [TextCall.on, Request.readText, Request.readLine, Request.readRest,
      Request.throughReader, nothing, Outcome.map]

theorem change_readText (u : InUse) (handle : Nat) (call : TextCall) (p : Patience) :
    Change u (.readText handle call p) (perform u (.readText handle call p)).answer
      (perform u (.readText handle call p)).state := by
  simp only [perform, through]
  by_cases given : handle < u.readers
  · rw [if_pos given]
    rcases hm : u.body.mode with _ | _ | _ | reader
    case asReader =>
      rw [on_of_reader hm]
      exact .textRead given hm
    all_goals
      have none_ : u.body.reader? = none := by simp only [Access.reader?, hm]
      simp only [Outcome.map, Outcome.within, on_of_noReader none_]
      exact .nothingToRead given none_
  · rw [if_neg given]
    exact .noReader (Nat.le_of_not_lt given)

/-- Whatever is done with a request, it changes as `Change` says. -/
theorem changed_perform (u : InUse) (op : Operation) :
    Change u op (perform u op).answer (perform u op).state := by
  cases op with
  | override choice => exact change_override u choice
  | openStream => exact change_openStream u
  | openReader => exact change_openReader u
  | access q p => exact change_access u q p
  | readStream handle call p => exact change_readStream u handle call p
  | askStream handle fact => exact change_askStream u handle fact
  | readText handle call p => exact change_readText u handle call p
  | attributes change => exact .aside _ (apart_attributes u.request change) rfl
  | suspension event => exact .aside _ (apart_suspension u.request event) rfl

theorem Change.input {u u' : InUse} {op : Operation} {a : Answer} (changed : Change u op a u') :
    u'.request.parserInput = u.request.parserInput := by
  cases changed with
  | aside r apart _ => exact apart.input
  | _ => rfl

theorem input_after (u : InUse) (ops : List Operation) :
    (after u ops).request.parserInput = u.request.parserInput := by
  refine Runs.after_induction (P := fun v : InUse => v.request.parserInput = u.request.parserInput)
    rfl ?_ ops
  intro v op same
  exact (changed_perform v op).input.trans same

end WebRequest.Handling
