-- The splitter of multipart bodies is called for the parameters and for nothing else: no other
-- operation has a call of it among its effects.
import WebRequest.Proofs.Handling.Access

namespace WebRequest.Handling

open Body Parameters

/-- The operation asks for the parameters. -/
def Operation.isAccess : Operation → Bool
  | .access .. => true
  | _ => false

theorem isAccess_iff {op : Operation} : op.isAccess = true ↔ ∃ q p, op = .access q p := by
  cases op <;> simp [Operation.isAccess]

theorem splits_notices (listeners : List Async.Registration) (occasion : Async.Occasion)
    (exchange : Async.Exchange) :
    splits (Async.Cycle.notices listeners occasion exchange) = [] := by
  induction listeners with
  | nil => rfl
  | cons r rest ih => exact ih

theorem splits_signal (c : Async.Cycle) (r : Async.Resumption) :
    splits (c.signal r).effects = [] := by
  unfold Async.Cycle.signal
  split
  · rfl
  · split <;> rfl

theorem splits_whenLive {α : Type} {c : Async.Cycle} {call : Attempt Async.Cycle α}
    (h : splits call.effects = []) : splits (c.whenLive call).effects = [] := by
  unfold Async.Cycle.whenLive
  split
  · rfl
  · exact h

theorem splits_call (c : Async.Cycle) (call : Suspension.Call) :
    splits (call.on c).effects = [] := by
  have dispatched (path : String) : splits (c.dispatchTo path).effects = [] := by
    unfold Async.Cycle.dispatchTo
    split
    · rfl
    · apply splits_whenLive
      split
      · rfl
      · simp [Outcome.after, Outcome.map, splits_signal]
  cases call with
  | dispatch => exact dispatched c.path
  | dispatchTo target => exact dispatched target
  | complete =>
    apply splits_whenLive
    split
    · rfl
    · simp [splits_signal, splits_notices]
  | setTimeout ms => exact splits_whenLive rfl
  | addListener label => exact splits_whenLive rfl

theorem splits_start (l : Async.Lifecycle) (exchange : Async.Exchange) :
    splits (l.start exchange).effects = [] := by
  have started (l : Async.Lifecycle) (listeners : List Async.Registration) :
      splits (l.startAfter exchange listeners).effects = [] := by
    simp [Async.Lifecycle.startAfter, splits_notices]
  unfold Async.Lifecycle.start
  split
  · rfl
  · split
    · rfl
    · rfl
    · split
      · rfl
      · exact started _ _
    · exact started _ _

theorem splits_onHandle (r : Request) (place : Nat)
    {f : Async.Cycle → Outcome Async.Cycle Suspension.Answer}
    (h : ∀ c, splits (f c).effects = []) :
    splits (Suspension.onHandle r place f).effects = [] := by
  unfold Suspension.onHandle Request.callCycle Async.Lifecycle.call
  rcases r.lifecycle.cycle? place with _ | c
  · rfl
  · exact h c

theorem splits_suspension (r : Request) (event : Suspension.Event) :
    splits (Suspension.perform r event).effects = [] := by
  cases event with
  | expiry place =>
    apply splits_onHandle
    intro c
    simp only [Outcome.map, Async.Cycle.expire]
    split
    · rfl
    · simp [splits_notices]
  | operation op =>
    cases op with
    | start exchange =>
      simp only [Suspension.perform, Request.startAsync, Outcome.map, Outcome.within,
        Attempt.bind, Outcome.andThen, Outcome.after, splits_append, splits_start]
      split <;> rfl
    | context => rfl
    | takeSpan =>
      simp only [Suspension.perform, Request.takeSpan, Outcome.map, Outcome.within,
        Async.Lifecycle.takeSpan]
      split <;> rfl
    | enterDispatch =>
      simp only [Suspension.perform, Request.enterDispatch, Outcome.map,
        Async.Lifecycle.enterDispatch]
      split
      · split <;> rfl
      · rfl
    | exitDispatch =>
      simp only [Suspension.perform, Request.exitDispatch, Outcome.map, Outcome.within,
        Async.Lifecycle.exitDispatch]
      split
      · split
        · simp [splits_notices]
        · rfl
      · rfl
    | call place call =>
      apply splits_onHandle
      intro c
      exact splits_call c call

theorem splits_nextChunk (p : Patience) (c : Cursor) : splits (c.nextChunk p).effects = [] :=
  splits_feed _ p none c

theorem splits_readWith {α : Type} (enough : List Char → Bool)
    (full last : TextReader → α × TextReader) (p : Patience) (r : TextReader) (c : Cursor) :
    splits (TextReader.readWith enough full last p r c).effects = [] := by
  have filled : splits (TextReader.fill enough p r c).effects = [] := by
    have fed := splits_feed (TextReader.Filling.add enough) p { reader := r } c
    unfold TextReader.fill
    split
    · rfl
    · split
      · rfl
      · simp only
        split <;> exact fed
  unfold TextReader.readWith
  simp only
  split <;> exact filled

theorem splits_readText (u : InUse) (handle : Nat) (call : TextCall) (p : Patience) :
    splits (perform u (.readText handle call p)).effects = [] := by
  have read : splits (call.on p u.request).effects = [] := by
    rcases hm : u.request.body.mode with _ | _ | _ | reader
    case asReader =>
      rw [on_of_reader hm]
      cases call with
      | chunk => exact splits_readWith _ _ _ p reader _
      | line => exact splits_readWith _ _ _ p reader _
      | rest =>
        show splits (TextReader.readRest p reader _).effects = []
        exact splits_readWith _ _ _ p reader _
    all_goals
      cases call <;>
        simp only [TextCall.on, Request.readText, Request.readLine, Request.readRest,
          Request.throughReader, Access.throughReader?, hm] <;> rfl
  simp only [perform, through]
  split
  · exact read
  · rfl

theorem splits_readStream (u : InUse) (handle : Nat) (call : StreamCall) (p : Patience) :
    splits (perform u (.readStream handle call p)).effects = [] := by
  simp only [perform, through]
  split
  · cases call with
    | chunk => exact splits_nextChunk p _
    | rest => exact splits_readToEnd none p _
  · rfl

theorem splits_perform {u : InUse} {op : Operation} (h : op.isAccess = false) :
    splits (perform u op).effects = [] := by
  cases op with
  | access q p => cases h
  | readStream handle call p => exact splits_readStream u handle call p
  | readText handle call p => exact splits_readText u handle call p
  | suspension event => exact splits_suspension u.request event
  | attributes change => cases change <;> rfl
  | askStream handle fact =>
    simp only [perform, through]
    split <;> rfl
  | openStream =>
    simp only [perform, giveOut, Request.openStream, Access.openAsStream]
    split <;> rfl
  | openReader =>
    simp only [perform, giveOut, Request.openReader, Access.openAsReader]
    split
    · rfl
    · rfl
    · split <;> rfl
  | override choice =>
    have applied (e : BodyEncoding) (name : String) (charset : Charset) :
        splits (e.apply name charset).effects = [] := by
      unfold BodyEncoding.apply
      simp only
      split <;> rfl
    cases choice with
    | chosen charset => exact applied _ _ _
    | named name =>
      simp only [perform, Override.on, Request.setCharacterEncoding, BodyEncoding.setName]
      split
      · exact applied _ _ _
      · rfl

end WebRequest.Handling
