-- The parameters are built once. The first access builds them, and it alone can report that this
-- failed; all later accesses find either a parser that is done and answer from it, or a parser
-- that was left midway and fail.
import WebRequest.Proofs.Handling.Splitting

namespace WebRequest.Handling

open Body Parameters

/-! ## The parser under one operation -/

/-- Only an access touches the parser, and only one that meets it untouched. -/
theorem Change.parser {u u' : InUse} {op : Operation} {a : Answer} (changed : Change u op a u')
    (h : op.isAccess = false ∨ u.parser.progress ≠ .notStarted) : u'.parser = u.parser := by
  cases changed with
  | parsed fresh =>
    rcases h with h | h
    · cases h
    · exact absurd fresh h
  | aside _ apart _ => exact apart.parser
  | _ => rfl

/-- A parser that has been started stays as it is, whatever happens. -/
theorem parser_after {u : InUse} (h : u.parser.progress ≠ .notStarted) (ops : List Operation) :
    (after u ops).parser = u.parser := by
  refine Runs.after_induction (P := fun v : InUse => v.parser = u.parser) rfl ?_ ops
  intro v op same
  rw [← same]
  refine (changed_perform v op).parser (.inr ?_)
  rw [same]
  exact h

theorem parser_after_of_no_access {u : InUse} {ops : List Operation}
    (h : ∀ op ∈ ops, op.isAccess = false) : (after u ops).parser = u.parser := by
  induction ops generalizing u with
  | nil => rfl
  | cons op ops ih =>
    have first := h op List.mem_cons_self
    have rest := fun o ho => h o (List.mem_cons_of_mem op ho)
    exact (ih rest).trans ((changed_perform u op).parser (.inl first))

theorem access_of_done {u : InUse} (h : u.parser.progress = .done) (q : Question) (p : Patience) :
    perform u (.access q p) =
      { answer := .parameters (.ready (q.answer u.parser)), state := u } := by
  simp only [perform, put_eq, askParser_of_ok (ensureParsed_of_done h p)]
  rfl

theorem access_of_inProgress {u : InUse} (h : u.parser.progress = .inProgress) (q : Question)
    (p : Patience) :
    perform u (.access q p) =
      { answer := .parameters (.ready (.error (.illegalState .parsingInterrupted))),
        state := u } := by
  simp only [perform, put_eq, askParser_of_error (ensureParsed_of_inProgress h p)]
  rfl

/-! ## The first access, and later ones -/

/-- The moment asks for the parameters. -/
def Asks (m : Moment) : Prop := ∃ q p, m.event = .access q p

/-- The moment fails with a fault. -/
def FailsWith (m : Moment) (f : RequestFault) : Prop :=
  m.answer = .parameters (.ready (.error f))

/-- The access has been given up while it was building the parameters. -/
def GivenUp (m : Moment) : Prop := m.answer = .parameters .abandoned

/-- What happens when the parameters are built. -/
structure Builds (m : Moment) : Prop where
  /-- It is given up, or reports a failure to build, or answers from what has been built. -/
  answer : ∀ q p, m.event = .access q p →
    GivenUp m ∨ (∃ f, FailsWith m f ∧ ParsingFault f) ∨
      m.answer = .parameters (.ready (q.answer m.next.parser))
  /-- The body is as it was, or it has been drained from its start. -/
  body : m.next.body = m.before.body ∨
    m.before.body.mode = .unopened ∧
      ∃ limit p, m.next.body = (m.before.body.consume limit p).state
  givenUp : GivenUp m → m.next.parser = { m.before.parser with progress := .inProgress }
  ran : ¬ GivenUp m → m.next.parser.progress = .done
  calls : (splits m.effects).length ≤ 1

/-- What a moment has of the question that it asks. -/
theorem moment_of_access {m : Moment} {q : Question} {p : Patience} (hm : m.event = .access q p) :
    m.answer = .parameters (m.before.request.askParser q.answer p).answer ∧
      m.next = m.before.withRequest (m.before.request.ensureParsed p).state ∧
      m.effects = (m.before.request.ensureParsed p).effects := by
  simp only [Runs.Moment.answer, Runs.Moment.next, Runs.Moment.effects, Runs.Moment.outcome, hm,
    perform, put_eq, Outcome.map, Outcome.within, askParser_state, effects_askParser]
  trivial

/-- The access that meets an untouched parser builds the parameters. -/
theorem builds_of_fresh {m : Moment} (asks : Asks m)
    (fresh : m.before.parser.progress = .notStarted) : Builds m := by
  obtain ⟨q, p, hm⟩ := asks
  have access := firstAccess_ensureParsed (r := m.before.request) fresh p
  obtain ⟨answer, next, effects⟩ := moment_of_access hm
  have givenUp : GivenUp m ↔ (m.before.request.ensureParsed p).answer = .abandoned := by
    unfold GivenUp
    rw [answer, Answer.parameters.injEq, askParser_abandoned_iff]
  refine ⟨?_, ?_, ?_, ?_, ?_⟩
  · intro q' p' hm'
    obtain ⟨rfl, rfl⟩ := Operation.access.inj (hm.symm.trans hm')
    unfold GivenUp FailsWith
    rw [answer, next]
    rcases askParser_answer q.answer p m.before.request with given | ⟨f, failed, same⟩ | asked
    · exact .inl (congrArg _ given)
    · exact .inr (.inl ⟨f, congrArg _ same, access.fault f failed⟩)
    · exact .inr (.inr (congrArg _ asked))
  · rw [next]
    rcases access.body with ⟨same, -⟩ | ⟨unopened, limit, drained, -⟩
    · exact .inl same
    · exact .inr ⟨unopened, limit, p, drained⟩
  · intro h
    rw [next]
    exact access.abandoned (givenUp.1 h)
  · intro h
    rw [next]
    exact access.ran (mt givenUp.2 h)
  · rw [effects]
    exact access.calls

theorem Builds.fault {m : Moment} (h : Builds m) (asks : Asks m) {f : RequestFault}
    (fails : FailsWith m f) : ParsingFault f ∨ ∃ reason, f = .deserialize reason := by
  obtain ⟨q, p, hm⟩ := asks
  unfold FailsWith at fails
  rcases h.answer q p hm with given | ⟨g, failed, parsing⟩ | answered
  · unfold GivenUp at given
    rw [given] at fails
    cases fails
  · unfold FailsWith at failed
    rw [failed] at fails
    cases fails
    exact .inl parsing
  · rw [answered, Answer.parameters.injEq, Awaited.ready.injEq] at fails
    obtain ⟨shape, reason, -, rfl⟩ := answer_error fails
    exact .inr ⟨reason, rfl⟩

/-- An access that meets a parser that has been started does nothing but answer. -/
theorem quiet_of_started {m : Moment} (asks : Asks m)
    (started : m.before.parser.progress ≠ .notStarted) : m.next = m.before ∧ m.effects = [] := by
  obtain ⟨q, p, hm⟩ := asks
  rw [Runs.Moment.next, Runs.Moment.effects, Runs.Moment.outcome, hm]
  rcases hp : m.before.parser.progress with _ | _ | _
  · exact absurd hp started
  · rw [access_of_inProgress hp]
    exact ⟨rfl, rfl⟩
  · rw [access_of_done hp]
    exact ⟨rfl, rfl⟩

/-- Once the parser has been started, an access does not fail to build the parameters. -/
theorem fault_of_started {m : Moment} (asks : Asks m)
    (started : m.before.parser.progress ≠ .notStarted) {f : RequestFault} (fails : FailsWith m f) :
    f = .illegalState .parsingInterrupted ∨ ∃ reason, f = .deserialize reason := by
  obtain ⟨q, p, hm⟩ := asks
  unfold FailsWith at fails
  rw [Runs.Moment.answer, Runs.Moment.outcome, hm] at fails
  rcases hp : m.before.parser.progress with _ | _ | _
  · exact absurd hp started
  · rw [access_of_inProgress hp] at fails
    cases fails
    exact .inl rfl
  · rw [access_of_done hp] at fails
    simp only [Answer.parameters.injEq, Awaited.ready.injEq] at fails
    obtain ⟨shape, reason, -, rfl⟩ := answer_error fails
    exact .inr ⟨reason, rfl⟩

/-! ## The access and the building -/

/-- The fault of an access is that of the building, or that of a building that was given up, or a
record cannot be read from the table. -/
theorem fault_of_access {m : Moment} {q : Question} {p : Patience} (hm : m.event = .access q p)
    {f : RequestFault} (fails : FailsWith m f) :
    (m.before.parser.progress = .notStarted ∧
        (built m.before.request p).answer = .ready (.error f)) ∨
      f = .illegalState .parsingInterrupted ∨ ∃ reason, f = .deserialize reason := by
  by_cases fresh : m.before.parser.progress = .notStarted
  · have has := hasBuilt_ensureParsed (r := m.before.request) fresh p
    unfold FailsWith at fails
    rw [(moment_of_access hm).1, Answer.parameters.injEq] at fails
    rcases askParser_answer q.answer p m.before.request with given | ⟨g, failed, same⟩ | asked
    · rw [given] at fails
      cases fails
    · rw [same] at fails
      cases fails
      exact .inl ⟨fresh, has.answer.symm.trans failed⟩
    · rw [asked, Awaited.ready.injEq] at fails
      obtain ⟨shape, reason, -, rfl⟩ := answer_error fails
      exact .inr (.inr ⟨reason, rfl⟩)
  · exact .inr (fault_of_started ⟨q, p, hm⟩ fresh fails)

theorem failsWith_of_built {m : Moment} {q : Question} {p : Patience} (hm : m.event = .access q p)
    (fresh : m.before.parser.progress = .notStarted) {f : RequestFault}
    (failed : (built m.before.request p).answer = .ready (.error f)) : FailsWith m f := by
  have has := hasBuilt_ensureParsed (r := m.before.request) fresh p
  have ensured := has.answer.trans failed
  unfold FailsWith
  rw [(moment_of_access hm).1]
  simp only [Request.askParser, ensured]

theorem splits_of_fresh {m : Moment} {q : Question} {p : Patience} (hm : m.event = .access q p)
    (fresh : m.before.parser.progress = .notStarted) :
    splits m.effects = splits (built m.before.request p).effects := by
  rw [(moment_of_access hm).2.2]
  exact (hasBuilt_ensureParsed (r := m.before.request) fresh p).calls

theorem started_of_builds {m : Moment} (h : Builds m) : m.next.parser.progress ≠ .notStarted := by
  by_cases given : GivenUp m
  · rw [h.givenUp given]
    intro fresh
    cases fresh
  · rw [h.ran given]
    decide

/-- The moment leaves the parser as it is, and if it asks for the parameters, the answer comes from
this parser and nothing else happens. -/
structure AnswersFrom (parser : Parser) (m : Moment) : Prop where
  before : m.before.parser = parser
  next : m.next.parser = parser
  answer : ∀ q p, m.event = .access q p → m.answer = .parameters (.ready (q.answer parser))
  success : Asks m → (∃ reply, m.answer = .parameters (.ready (.ok reply))) ∨
    ∃ shape p reason, m.event = .access (.record shape) p ∧ FailsWith m (.deserialize reason)
  quiet : Asks m → m.next = m.before ∧ m.effects = []

/-- The moment leaves a parser without parameters and without files, and if it asks for them, it
fails and nothing else happens. -/
structure Refused (m : Moment) : Prop where
  before : m.before.parser = { progress := .inProgress }
  next : m.next.parser = { progress := .inProgress }
  answer : Asks m → FailsWith m (.illegalState .parsingInterrupted)
  quiet : Asks m → m.next = m.before ∧ m.effects = []

theorem answersFrom_of_done {parser : Parser} {m : Moment} (same : m.before.parser = parser)
    (done : parser.progress = .done) : AnswersFrom parser m := by
  have hdone : m.before.parser.progress = .done := by
    rw [same]
    exact done
  have started : m.before.parser.progress ≠ .notStarted := by
    rw [hdone]
    decide
  have next : m.next.parser = m.before.parser :=
    (changed_perform m.before m.event).parser (.inr started)
  have answer : ∀ q p, m.event = .access q p →
      m.answer = .parameters (.ready (q.answer parser)) := by
    intro q p h
    rw [Runs.Moment.answer, Runs.Moment.outcome, h, access_of_done hdone, same]
  refine ⟨same, next.trans same, answer, ?_, fun asks => quiet_of_started asks started⟩
  rintro ⟨q, p, h⟩
  rcases hq : q.answer parser with f | reply
  · obtain ⟨shape, reason, rfl, rfl⟩ := answer_error hq
    refine .inr ⟨shape, p, reason, h, ?_⟩
    unfold FailsWith
    rw [answer _ p h, hq]
  · refine .inl ⟨reply, ?_⟩
    rw [answer q p h, hq]

theorem refused_of_inProgress {m : Moment}
    (midway : m.before.parser = { progress := .inProgress }) : Refused m := by
  have hmidway : m.before.parser.progress = .inProgress := by rw [midway]
  have started : m.before.parser.progress ≠ .notStarted := by
    rw [hmidway]
    decide
  have next : m.next.parser = m.before.parser :=
    (changed_perform m.before m.event).parser (.inr started)
  refine ⟨midway, next.trans midway, ?_, fun asks => quiet_of_started asks started⟩
  rintro ⟨q, p, h⟩
  unfold FailsWith
  rw [Runs.Moment.answer, Runs.Moment.outcome, h, access_of_inProgress hmidway]

/-! ## Once -/

/-- What is left to be built, once or not at all. -/
def budget (u : InUse) : Nat := if u.parser.progress = .notStarted then 1 else 0

theorem isAccess_of_not_asks {m : Moment} (h : ¬ Asks m) : m.event.isAccess = false := by
  rw [← Bool.not_eq_true]
  exact mt isAccess_iff.1 h

theorem parser_next_of_not_asks {m : Moment} (h : ¬ Asks m) : m.next.parser = m.before.parser :=
  (changed_perform m.before m.event).parser (.inl (isAccess_of_not_asks h))

/-- What only the building of the parameters costs, is paid for once. -/
theorem spent {β : Type} {cost : Moment → List β} (other : ∀ m : Moment, ¬ Asks m → cost m = [])
    (quiet : ∀ m : Moment, m.next = m.before → m.effects = [] → cost m = [])
    (built : ∀ m, Asks m → Builds m → (cost m).length ≤ 1) (m : Moment) :
    (cost m).length + budget m.next ≤ budget m.before := by
  by_cases asks : Asks m
  · by_cases fresh : m.before.parser.progress = .notStarted
    · have builds := builds_of_fresh asks fresh
      have cheap := built m asks builds
      unfold budget
      rw [if_pos fresh, if_neg (started_of_builds builds)]
      omega
    · obtain ⟨next, effects⟩ := quiet_of_started asks fresh
      rw [quiet m next effects, next, List.length_nil]
      omega
  · unfold budget
    rw [other m asks, parser_next_of_not_asks asks, List.length_nil]
    omega

/-- The moment asks for the parameters and takes from the body. -/
def drains (m : Moment) : Bool := m.event.isAccess && decide (m.next.body ≠ m.before.body)

theorem drains_at_most_once (u : InUse) (ops : List Operation) :
    ((history u ops).filter drains).length ≤ budget u := by
  have each : (history u ops).filter drains =
      (history u ops).flatMap fun m => [m].filter drains := by
    rw [← List.filter_flatMap, List.flatMap_singleton']
  rw [each]
  apply Runs.length_flatMap_le
  apply spent
  · intro m asks
    simp [drains, isAccess_of_not_asks asks]
  · intro m same _
    simp [drains, same]
  · intro m _ _
    exact List.length_filter_le drains [m]

theorem splits_at_most_once (u : InUse) (ops : List Operation) :
    ((history u ops).flatMap fun m => splits m.effects).length ≤ budget u := by
  apply Runs.length_flatMap_le
  apply spent
  · intro m asks
    exact splits_perform (isAccess_of_not_asks asks)
  · intro m _ quiet
    rw [quiet]
    rfl
  · intro m _ builds
    exact builds.calls

/-! ## Whole runs -/

theorem parser_before_first {u : InUse} {es : List Operation}
    (h : ∀ m ∈ history u es, ¬ Asks m) : (after u es).parser = u.parser := by
  apply parser_after_of_no_access
  intro op hop
  rw [← Runs.map_event_history perform u es] at hop
  obtain ⟨m, hm, rfl⟩ := List.mem_map.1 hop
  exact isAccess_of_not_asks (h m hm)

theorem started_after_access {u : InUse} {es : List Operation} {m : Moment}
    (hm : m ∈ history u es) (asks : Asks m) : (after u es).parser.progress ≠ .notStarted := by
  obtain ⟨earlier, later, heq⟩ := List.append_of_mem hm
  obtain ⟨fs, gs, rfl, -, before, -⟩ := Runs.exists_of_history_eq heq
  have started : m.next.parser.progress ≠ .notStarted := by
    by_cases fresh : m.before.parser.progress = .notStarted
    · exact started_of_builds (builds_of_fresh asks fresh)
    · rw [(quiet_of_started asks fresh).1]
      exact fresh
  have next : after u (fs ++ m.event :: gs) = after m.next gs := by
    unfold after
    rw [Runs.after_append, Runs.after_cons, ← before]
    rfl
  rw [next, parser_after started]
  exact started

/-- The parameters are built once in every run. The body is drained and the splitter is called at
most once; only the first access can fail to build them. If it ran to its end, well or not, all
later accesses answer from the parser it left; if it was given up, all later accesses fail. -/
theorem the_parameters_are_built_once (a : Request.Arrival) (s : Settings) (id : Nat)
    (ops : List Operation) :
    let moments := history (.received a s id) ops
    (moments.filter drains).length ≤ 1 ∧
    (moments.flatMap fun m => splits m.effects).length ≤ 1 ∧
    (∀ earlier m later f, moments = earlier ++ m :: later →
      Asks m → FailsWith m f → ParsingFault f → ∀ e ∈ earlier, ¬ Asks e) ∧
    ∀ earlier first later, moments = earlier ++ first :: later →
      Asks first → (∀ e ∈ earlier, ¬ Asks e) →
      Builds first ∧
      (¬ GivenUp first → ∀ m ∈ later, AnswersFrom first.next.parser m) ∧
      (GivenUp first → ∀ m ∈ later, Refused m) := by
  intro moments
  refine ⟨drains_at_most_once _ ops, splits_at_most_once _ ops, ?_, ?_⟩
  · intro earlier m later f heq asks fails parsing e he before_
    obtain ⟨es, fs, -, rfl, before, -⟩ := Runs.exists_of_history_eq heq
    have started : m.before.parser.progress ≠ .notStarted := by
      rw [before]
      exact started_after_access he before_
    rcases parsing with ⟨g, rfl⟩ | ⟨label, rfl⟩
    · rcases fault_of_started asks started fails with h | ⟨reason, h⟩ <;> cases h
    · rcases fault_of_started asks started fails with h | ⟨reason, h⟩ <;> cases h
  · intro earlier first later heq asks none_
    obtain ⟨es, fs, -, rfl, before, rfl⟩ := Runs.exists_of_history_eq heq
    have untouched : first.before.parser = {} := by
      rw [before]
      exact parser_before_first none_
    have builds := builds_of_fresh asks (by rw [untouched])
    have started := started_of_builds builds
    have same : ∀ m ∈ history first.next fs, m.before.parser = first.next.parser := by
      intro m hm
      obtain ⟨gs, -, -, hbefore⟩ := Runs.exists_of_mem_history hm
      rw [hbefore]
      exact parser_after started gs
    refine ⟨builds, ?_, ?_⟩
    · intro ran m hm
      exact answersFrom_of_done (same m hm) (builds.ran ran)
    · intro given m hm
      apply refused_of_inProgress
      rw [same m hm, builds.givenUp given, untouched]

end WebRequest.Handling
