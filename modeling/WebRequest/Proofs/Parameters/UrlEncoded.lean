-- The parameters of a request with a url-encoded body. Its query and then its body are
-- processed as one list of results, and the table holds what was stored of them.
import WebRequest.Proofs.Body.Drain
import WebRequest.Proofs.Parameters.Storing
import WebRequest.Request.Parameters

namespace WebRequest.Parameters

/-! ## What is processed -/

/-- The results of a query, which is in UTF-8 whatever the encoding of the request. -/
def queryResults : Option String → List Form.PairResult
  | none => []
  | some query => Form.pairs ⟨.utf8, .query⟩ (Bytes.ofText query)

theorem recoverable_queryResults (query : Option String) : Recoverable (queryResults query) := by
  cases query with
  | none =>
    intro fault h
    cases h
  | some query => exact recoverable_pairs _ _

/-- The results of a whole body in the charset in force. There are none if there is no such
charset, or if the body cannot be read to its end. -/
def bodyResults (encoding : BodyEncoding) (maxPostSize : Nat) (t : Body.Transport) :
    Except RequestFault (List Form.PairResult) :=
  match encoding.resolve with
  | .error fault => .error fault
  | .ok charset =>
    match Body.wholeOf (some maxPostSize) t.frames with
    | .error fault => .error fault.whileDraining
    | .ok bytes => .ok (Form.pairs ⟨charset, .body⟩ bytes)

/-- The pairs that are stored, and what asking for them answers. -/
structure Meaning where
  stored : List (String × String)
  answer : Except RequestFault Unit
  deriving DecidableEq

/-- The meaning of what has been processed. -/
def Processed.meaning (p : Processed) : Meaning :=
  { stored := p.stored, answer := p.result.mapError .invalidParameters }

theorem Processed.answer_of_stop {p : Processed} {fault : ParameterFault}
    (h : p.stop = some fault) : p.meaning.answer = .error (.invalidParameters fault) := by
  simp [Processed.meaning, Processed.result, h, Except.mapError]

theorem Processed.answer_of_accepted {p : Processed} (h : p.stop = none) :
    p.meaning.answer = .ok () := by
  simp [Processed.meaning, Processed.result, h, Except.mapError]

/-- The meaning of the results of a query and of a body. Without results of the body, those of
the query are processed alone, and the reason is the answer unless they are stopped before. -/
def meaningOf (rules : Rules) (query : List Form.PairResult)
    (body : Except RequestFault (List Form.PairResult)) : Meaning :=
  match body with
  | .ok results => (process rules [] (query ++ results)).meaning
  | .error fault =>
    let processed := process rules [] query
    if processed.stop.isSome then processed.meaning
    else { stored := processed.stored, answer := .error fault }

/-! ## Stages of the building -/

/-- A stage has come to a meaning. -/
structure Comes (o : Waiting Building Unit) (m : Meaning) : Prop where
  answer : o.answer = .ready m.answer
  table : o.state.table.Holds m.stored

theorem comes_storing (rules : Rules) {b : Building} {stored : List (String × String)}
    (h : b.table.Holds stored) {results : List Form.PairResult}
    (recoverable : Recoverable results) :
    Comes (storing rules results b) (process rules stored results).meaning := by
  obtain ⟨table, answer⟩ := storeFrom_holds rules [] results h recoverable
  refine ⟨?_, table⟩
  simp only [storing, storeAll, Outcome.map, Processed.meaning]
  rw [answer]

theorem storing_kept (rules : Rules) (results : List Form.PairResult) (b : Building) :
    (storing rules results b).state.access = b.access ∧
      (storing rules results b).state.encoding = b.encoding := ⟨rfl, rfl⟩

theorem fromQuery_eq (i : Input) : fromQuery i = storing i.rules (queryResults i.query) := by
  unfold fromQuery queryResults
  cases i.query <;> rfl

theorem comes_fromQuery (i : Input) {b : Building} (h : b.table.Holds []) :
    Comes (fromQuery i b) (process i.rules [] (queryResults i.query)).meaning ∧
      (fromQuery i b).state.access = b.access ∧ (fromQuery i b).state.encoding = b.encoding := by
  rw [fromQuery_eq]
  exact ⟨comes_storing i.rules h (recoverable_queryResults i.query), storing_kept i.rules _ b⟩

/-- The meaning of the results of a body, behind pairs that have been stored. -/
def meaningBehind (rules : Rules) (stored : List (String × String)) :
    Except RequestFault (List Form.PairResult) → Meaning
  | .ok results => (process rules stored results).meaning
  | .error fault => { stored, answer := .error fault }

theorem comes_fromForm (i : Input) {b : Building} {stored : List (String × String)}
    (h : b.table.Holds stored) {t : Body.Transport} (untouched : b.access = .untouched t) :
    Comes (fromForm i none b)
      (meaningBehind i.rules stored (bodyResults b.encoding i.settings.maxPostSize t)) := by
  unfold fromForm decoding bodyResults
  cases b.encoding.resolve with
  | error fault => exact ⟨rfl, h⟩
  | ok charset =>
    have drained := Body.Cursor.readToEnd_start (some i.settings.maxPostSize) t
    simp only [draining, untouched, Body.Access.consume, Body.Access.untouched, Outcome.within,
      drained]
    cases Body.wholeOf (some i.settings.maxPostSize) t.frames with
    | error fault => exact ⟨rfl, h⟩
    | ok bytes =>
      have stored' := comes_storing i.rules (b := { b with access := _ }) h
        (recoverable_pairs ⟨charset, .body⟩ bytes)
      exact ⟨stored'.answer, stored'.table⟩

/-- Processing the body behind the query is processing both together. -/
theorem meaningOf_eq (rules : Rules) (query : List Form.PairResult)
    (body : Except RequestFault (List Form.PairResult)) :
    meaningOf rules query body =
      if (process rules [] query).stop.isSome then (process rules [] query).meaning
      else meaningBehind rules (process rules [] query).stored body := by
  unfold meaningOf meaningBehind
  cases body with
  | error fault => rfl
  | ok results =>
    simp only
    rw [process_append]
    split <;> rfl

/-- The building of the parameters of a url-encoded request. -/
theorem comes_building (i : Input) {b : Building} (h : b.table.Holds [])
    (form : i.kind = .urlEncoded) {t : Body.Transport} (untouched : b.access = .untouched t) :
    Comes (building i none b) (meaningOf i.rules (queryResults i.query)
      (bodyResults b.encoding i.settings.maxPostSize t)) := by
  obtain ⟨query, access, encoding⟩ := comes_fromQuery i h
  rw [meaningOf_eq]
  unfold building Stage.andThen
  simp only [query.answer]
  cases hstop : (process i.rules [] (queryResults i.query)).stop with
  | some fault =>
    rw [Processed.answer_of_stop hstop, Option.isSome_some, if_pos rfl]
    exact query
  | none =>
    have unopened : (fromQuery i b).state.access = .untouched t := access.trans untouched
    have body := comes_fromForm i query.table unopened
    rw [encoding] at body
    rw [Processed.answer_of_accepted hstop, Option.isSome_none]
    simp only [fromBody, form, unopened, Body.Access.untouched]
    exact ⟨body.answer, body.table⟩

/-! ## The request -/

theorem length_meaningOf_le (rules : Rules) (query : List Form.PairResult)
    (body : Except RequestFault (List Form.PairResult)) :
    (meaningOf rules query body).stored.length ≤ rules.maxCount := by
  unfold meaningOf
  cases body with
  | ok results => exact length_process_le rules [] _ (Nat.zero_le _)
  | error fault =>
    have bounded := length_process_le rules [] query (Nat.zero_le _)
    simp only
    split <;> exact bounded

/-- How a request stores its parameters. -/
def rulesOf (r : Request) : Rules :=
  { maxCount := r.settings.maxParameterCount, policy := r.settings.failurePolicy }

/-- What the parameters of a request with a url-encoded body mean. -/
def formMeaning (r : Request) (t : Body.Transport) : Meaning :=
  meaningOf (rulesOf r) (queryResults r.head.uri.query)
    (bodyResults r.encoding r.settings.maxPostSize t)

/-- When the parameters of a request with an untouched url-encoded body are first asked for, the
table holds exactly what has been stored up to the stop, and the answer is what stopped it. -/
theorem the_table_holds_what_was_stored (r : Request) (t : Body.Transport)
    (unparsed : r.parser.progress = .notStarted) (untouched : r.body = .untouched t)
    (form : BodyKind.of r.head.contentType = .urlEncoded) :
    let m := formMeaning r t
    let table := (r.ensureParsed none).state.parser.table
    (r.ensureParsed none).answer = .ready m.answer ∧
      (r.ensureParsed none).state.parser.progress = .done ∧
      table.names = namesOf m.stored ∧
      (∀ name, table.getAll? name =
        if name ∈ namesOf m.stored then some (valuesOf m.stored name) else none) ∧
      table.valueCount = m.stored.length ∧
      table.valueCount ≤ r.settings.maxParameterCount := by
  have built := comes_building r.parserInput
    (b := { access := r.body, encoding := r.encoding.freeze }) Table.holds_empty form untouched
  have bounded := length_meaningOf_le (rulesOf r) (queryResults r.head.uri.query)
    (bodyResults r.encoding r.settings.maxPostSize t)
  have holds := built.table
  simp only [Request.ensureParsed, Workplace.ensureParsed, unparsed, Workplace.build,
    built.answer, Outcome.within, Request.withWorkplace]
  refine ⟨rfl, trivial, holds.names_eq, holds.getAll?_eq, holds.valueCount_eq, ?_⟩
  rw [holds.valueCount_eq]
  exact bounded

/-- The frames of a form that is cut in the middle of an escape. -/
def cutForm : Body.Transport :=
  { frames := [.data (Bytes.ofText "a=%"), .waiting, .data (Bytes.ofText "33&c&d")] }

/-- A request with a query and a form that share a name, and one value too many. -/
def crowdedForm : Request :=
  Request.receive
    { head :=
        { method := "POST", uri := { path := "/", query := some "a=1&=x&b=2" }, version := .v11,
          fields := ⟨[("content-type", Bytes.ofText "application/x-www-form-urlencoded")]⟩ },
      transport := cutForm }
    { maxParameterCount := 3 } 1

theorem a_crowded_form_is_cut_at_the_limit :
    let table := (crowdedForm.ensureParsed none).state.parser.table
    (crowdedForm.ensureParsed none).answer =
        .ready (.error (.invalidParameters (.tooManyParameters 3))) ∧
      table.names = ["a", "b"] ∧ table.getAll? "a" = some ["1", "3"] := by
  have meaning : formMeaning crowdedForm cutForm =
      { stored := [("a", "1"), ("b", "2"), ("a", "3")],
        answer := .error (.invalidParameters (.tooManyParameters 3)) } := by decide +kernel
  obtain ⟨answer, -, names, values, -⟩ :=
    the_table_holds_what_was_stored crowdedForm cutForm rfl rfl (by decide +kernel)
  rw [meaning] at answer names values
  exact ⟨answer, names.trans (by decide), (values "a").trans (by decide)⟩

end WebRequest.Parameters
