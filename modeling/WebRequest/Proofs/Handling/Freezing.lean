-- The charset of a request is fixed when its body is first accessed: when it is opened, or when
-- its parameters are first asked for. Whatever needs a charset from then on uses the one that was
-- in force at that moment, and what comes too late to change it is not to be noticed.
import WebRequest.Proofs.Handling.Opening

namespace WebRequest.Handling

open Body Parameters

/-! ## The encoding under one operation -/

def Operation.isOverride : Operation → Bool
  | .override _ => true
  | _ => false

theorem freeze_of_frozen {e : BodyEncoding} (h : e.frozen = true) : e.freeze = e := by
  cases e
  cases h
  rfl

theorem Change.encoding_of_frozen {u u' : InUse} {op : Operation} {a : Answer}
    (changed : Change u op a u') (frozen : u.encoding.frozen = true) :
    u'.encoding = u.encoding := by
  cases changed with
  | overridden e same _ => exact same frozen
  | streamOpened _ => exact freeze_of_frozen frozen
  | readerOpened _ _ => exact freeze_of_frozen frozen
  | @parsed q p fresh =>
    have access := firstAccess_ensureParsed (r := u.request) fresh p
    exact access.encoding.trans (freeze_of_frozen frozen)
  | aside r apart _ => exact apart.encoding
  | _ => rfl

/-- Only an override can change the charset. -/
theorem Change.encoding {u u' : InUse} {op : Operation} {a : Answer} (changed : Change u op a u')
    (h : op.isOverride = false) :
    u'.encoding.name = u.encoding.name ∧ u'.encoding.resolve = u.encoding.resolve := by
  cases changed with
  | overridden e _ _ => cases h
  | @parsed q p fresh =>
    have access := firstAccess_ensureParsed (r := u.request) fresh p
    have frozen : (u.withRequest (u.request.ensureParsed p).state).encoding = u.encoding.freeze :=
      access.encoding
    rw [frozen]
    exact ⟨rfl, rfl⟩
  | aside r apart _ =>
    have same : (u.withRequest r).encoding = u.encoding := apart.encoding
    rw [same]
    exact ⟨rfl, rfl⟩
  | _ => exact ⟨rfl, rfl⟩

theorem encoding_after {u : InUse} (frozen : u.encoding.frozen = true) (ops : List Operation) :
    (after u ops).encoding = u.encoding := by
  refine Runs.after_induction (P := fun v : InUse => v.encoding = u.encoding) rfl ?_ ops
  intro v op same
  rw [← same]
  exact (changed_perform v op).encoding_of_frozen (same ▸ frozen)

/-- The body has been opened or drained, or its parameters have been asked for. -/
def Accessed (u : InUse) : Prop := u.body.mode ≠ .unopened ∨ u.parser.progress ≠ .notStarted

theorem Change.frozen_iff {u u' : InUse} {op : Operation} {a : Answer}
    (changed : Change u op a u') (h : u.encoding.frozen = true ↔ Accessed u) :
    u'.encoding.frozen = true ↔ Accessed u' := by
  cases changed with
  | overridden e _ kept =>
    have same : (u.withRequest { u.request with encoding := e }).encoding.frozen = true ↔
        u.encoding.frozen = true := by rw [← kept]; rfl
    exact same.trans h
  | streamOpened _ => exact iff_of_true rfl (.inl (by intro mode; cases mode))
  | readerOpened _ _ => exact iff_of_true rfl (.inl (by intro mode; cases mode))
  | @parsed q p fresh =>
    have access := firstAccess_ensureParsed (r := u.request) fresh p
    have frozen : (u.request.ensureParsed p).state.encoding.frozen = true := by
      rw [access.encoding]
      rfl
    exact iff_of_true frozen (.inr access.started)
  | textRead _ mode =>
    have before : Accessed u := .inl (by rw [mode]; intro other; cases other)
    exact iff_of_true (h.2 before) (.inl (by intro other; cases other))
  | aside r apart _ =>
    have encoding : (u.withRequest r).encoding = u.encoding := apart.encoding
    have body : (u.withRequest r).body = u.body := apart.body
    have parser : (u.withRequest r).parser = u.parser := apart.parser
    unfold Accessed at h ⊢
    rw [encoding, body, parser]
    exact h
  | _ => exact h

/-- In every run, the encoding is frozen exactly if the body has been accessed. -/
theorem frozen_iff_after (a : Request.Arrival) (s : Settings) (id : Nat) (ops : List Operation) :
    (after (.received a s id) ops).encoding.frozen = true ↔
      Accessed (after (.received a s id) ops) := by
  refine Runs.after_induction (P := fun u : InUse => u.encoding.frozen = true ↔ Accessed u)
    ?_ (fun u op h => (changed_perform u op).frozen_iff h) ops
  refine iff_of_false Bool.false_ne_true ?_
  rintro (mode | progress)
  · exact mode rfl
  · exact progress rfl

/-! ## The charset of a reader -/

/-- The reader of the body has the charset that the encoding was frozen with. -/
def ReadsIn (u : InUse) : Prop :=
  ∀ reader, u.body.mode = .asReader reader →
    u.encoding.frozen = true ∧ u.encoding.resolve = .ok reader.charset

theorem Change.readsIn {u u' : InUse} {op : Operation} {a : Answer} (changed : Change u op a u')
    (h : ReadsIn u) : ReadsIn u' := by
  intro reader mode
  cases changed with
  | overridden e same _ =>
    obtain ⟨frozen, resolved⟩ := h reader mode
    rw [same frozen]
    exact ⟨frozen, resolved⟩
  | streamOpened _ => cases mode
  | readerOpened _ resolved =>
    cases mode
    exact ⟨rfl, resolved⟩
  | @parsed q p fresh =>
    have access := firstAccess_ensureParsed (r := u.request) fresh p
    have encoding : (u.withRequest (u.request.ensureParsed p).state).encoding = u.encoding.freeze :=
      access.encoding
    have kept : (u.request.ensureParsed p).state.body.mode = u.body.mode := by
      rcases access.body with ⟨same, -⟩ | ⟨unopened, limit, drained, -⟩
      · exact congrArg Access.mode same
      · have consumed : (u.request.ensureParsed p).state.body.mode = .consumed :=
          (congrArg Access.mode drained).trans (mode_consume unopened limit p)
        cases consumed.symm.trans mode
    rw [encoding]
    exact ⟨rfl, (h reader (kept.symm.trans mode)).2⟩
  | @textRead handle call p before given mode' =>
    cases mode
    obtain ⟨frozen, resolved⟩ := h before mode'
    rw [charset_read]
    exact ⟨frozen, resolved⟩
  | aside r apart _ =>
    have encoding : (u.withRequest r).encoding = u.encoding := apart.encoding
    have body : (u.withRequest r).body = u.body := apart.body
    rw [encoding]
    exact h reader (by rw [← body]; exact mode)
  | _ => exact h reader mode

theorem readsIn_after (a : Request.Arrival) (s : Settings) (id : Nat) (ops : List Operation) :
    ReadsIn (after (.received a s id) ops) := by
  refine Runs.after_induction (P := ReadsIn) ?_ (fun u op h => (changed_perform u op).readsIn h) ops
  intro reader mode
  cases mode

/-! ## What needs a charset -/

/-- The access takes the body for the parameters, if the body is one for them and has a charset. -/
structure Reaches (i : Input) (p : Patience) (m : Moment) : Prop where
  asks : ∃ q, m.event = .access q p
  fresh : m.before.parser.progress = .notStarted
  accepted : i.processed.stop = none
  unopened : m.before.body.mode = .unopened

/-- Whatever needs a charset at a moment has the one that was resolved, or fails as it did. -/
structure UsesOnly (i : Input) (resolved : Except RequestFault Charset) (m : Moment) : Prop where
  reader : ∀ reader, m.next.body.mode = .asReader reader → resolved = .ok reader.charset
  opening : m.event = .openReader → Closed m.before.body.mode →
    m.answer = .ofExcept (fun _ => .handle m.before.readers) resolved
  unresolved : ∀ p t f, Reaches i p m → i.Takes t → resolved = .error f → FailsWith m f
  form : ∀ p charset bytes, Reaches i p m → i.kind = .urlEncoded → resolved = .ok charset →
    (m.before.body.consume (some i.settings.maxPostSize) p).answer = .ready (.ok bytes) →
    m.next.parser.table.Holds
      (process i.rules [] (queryResults i.query ++ Form.pairs ⟨charset, .body⟩ bytes)).stored
  parts : ∀ p boundary support charset bytes, Reaches i p m →
    i.kind = .multipart (some boundary) → i.endpoint.multipart = some support →
    resolved = .ok charset →
    (m.before.body.consume support.limits.maxRequestSize p).answer = .ready (.ok bytes) →
    splits m.effects = [(boundary, bytes, charset)]
  splitter : ∀ boundary bytes charset, (boundary, bytes, charset) ∈ splits m.effects →
    resolved = .ok charset

theorem opening_of_closed {u : InUse} (closed : Closed u.body.mode) :
    (perform u .openReader).answer =
      .ofExcept (fun _ => .handle u.readers) u.encoding.resolve := by
  have he : u.encoding.resolve = u.request.encoding.resolve := rfl
  rcases closed with mode | mode
  all_goals
    have hm : u.request.body.mode = _ := mode
    rcases hr : u.request.encoding.resolve with f | charset
    all_goals
      simp only [perform, giveOut, Request.openReader, Access.openAsReader, hm, hr, he]
      rfl

/-- The charset that is in force before a moment and after it is the one that is used. -/
theorem usesOnly {m : Moment} {i : Input} {resolved : Except RequestFault Charset}
    (input : m.before.request.parserInput = i) (before : m.before.encoding.resolve = resolved)
    (next : m.next.encoding.resolve = resolved) (reads : ReadsIn m.next) :
    UsesOnly i resolved m := by
  subst input
  have building (p : Patience) := builtAs_built m.before.request p
  have resolves : m.before.request.encoding.freeze.resolve = resolved := before
  refine ⟨?_, ?_, ?_, ?_, ?_, ?_⟩
  · intro reader mode
    rw [← next]
    exact (reads reader mode).2
  · intro event closed
    rw [Runs.Moment.answer, Runs.Moment.outcome, event, opening_of_closed closed, before]
  · rintro p t f ⟨⟨q, event⟩, fresh, accepted, unopened⟩ takes unresolved
    exact failsWith_of_built event fresh
      ((building p).of_unresolved accepted takes unopened (resolves.trans unresolved))
  · rintro p charset bytes ⟨⟨q, event⟩, fresh, accepted, unopened⟩ kind resolved' drain
    obtain ⟨drained, effects, table, -, eq⟩ := (building p).of_drained accepted (.form kind)
      unopened (resolves.trans resolved') drain
    have comes := comes_form accepted table charset bytes
    have has := (hasBuilt_ensureParsed (r := m.before.request) fresh p).parser
    have parser : m.next.parser = (m.before.request.ensureParsed p).state.parser := by
      rw [(moment_of_access event).2.1]
      rfl
    have ran : (built m.before.request p).answer ≠ .abandoned := by
      rw [eq, Outcome.after, comes.answer]
      simp
    rw [parser, has, if_neg ran, eq]
    exact comes.table
  · rintro p boundary support charset bytes ⟨⟨q, event⟩, fresh, accepted, unopened⟩ kind support'
      resolved' drain
    obtain ⟨drained, effects, -, silent, eq⟩ := (building p).of_drained accepted
      (.parts kind support') unopened (resolves.trans resolved') drain
    rw [splits_of_fresh event fresh, eq, Outcome.after, splits_append, silent, List.nil_append]
    exact splits_splitting _ _ _ _ _ _
  · intro boundary bytes charset called
    by_cases asks : Asks m
    · obtain ⟨q, p, event⟩ := asks
      by_cases fresh : m.before.parser.progress = .notStarted
      · rw [splits_of_fresh event fresh] at called
        rw [← resolves]
        exact (building p).charset_of_mem_splits called
      · rw [(quiet_of_started ⟨q, p, event⟩ fresh).2] at called
        cases called
    · have none_ : splits m.effects = [] := splits_perform (isAccess_of_not_asks asks)
      rw [none_] at called
      cases called

/-! ## The moment that fixes the charset -/

/-- The charset is fixed at this moment. -/
def Freezes (m : Moment) : Prop :=
  m.before.encoding.frozen = false ∧ m.next.encoding.frozen = true

theorem Change.not_override {u u' : InUse} {op : Operation} {a : Answer}
    (changed : Change u op a u') (before : u.encoding.frozen = false)
    (next : u'.encoding.frozen = true) : op.isOverride = false := by
  cases changed with
  | overridden e _ kept =>
    have same : e.frozen = true := next
    rw [kept, before] at same
    cases same
  | aside _ _ elsewhere =>
    cases op with
    | override choice => cases elsewhere
    | _ => rfl
  | _ => rfl

/-- A run that has come to a frozen encoding has a moment that froze it. -/
theorem exists_freezing {u : InUse} (unfrozen : u.encoding.frozen = false) {ops : List Operation}
    (frozen : (after u ops).encoding.frozen = true) :
    ∃ earlier first later, history u ops = earlier ++ first :: later ∧ Freezes first := by
  unfold after history at *
  induction ops using List.reverseRecOn with
  | nil => cases unfrozen.symm.trans frozen
  | append_singleton es op ih =>
    cases hes : (Runs.after perform u es).encoding.frozen with
    | true =>
      obtain ⟨earlier, first, later, eq, freezes⟩ := ih hes
      refine ⟨earlier, first, later ++ [⟨Runs.after perform u es, op⟩], ?_, freezes⟩
      rw [Runs.history_snoc, eq]
      simp
    | false =>
      rw [Runs.after_snoc] at frozen
      exact ⟨_, ⟨Runs.after perform u es, op⟩, [], Runs.history_snoc _ _ _ _, hes, frozen⟩

/-- Nothing has needed a charset yet. -/
structure Idle (m : Moment) : Prop where
  unopened : m.next.body.mode = .unopened
  untouched : m.next.parser.progress = .notStarted
  calls : splits m.effects = []

theorem idle_of_not_accessed {m : Moment} (h : ¬ Accessed m.next) : Idle m := by
  simp only [Accessed, not_or, not_not] at h
  obtain ⟨unopened, untouched⟩ := h
  refine ⟨unopened, untouched, ?_⟩
  by_cases asks : Asks m
  · by_cases fresh : m.before.parser.progress = .notStarted
    · exact absurd untouched (started_of_builds (builds_of_fresh asks fresh))
    · rw [(quiet_of_started asks fresh).1] at untouched
      exact absurd untouched fresh
  · exact splits_perform (isAccess_of_not_asks asks)

/-! ## Overrides that come too late -/

/-- An override that comes too late changes nothing. -/
theorem override_of_frozen {u : InUse} (frozen : u.encoding.frozen = true) (choice : Override) :
    (perform u (.override choice)).state = u := by
  have changed := change_override u choice
  generalize (perform u (.override choice)).state = u' at changed
  generalize (perform u (.override choice)).answer = a at changed
  cases changed with
  | overridden e same _ =>
    rw [same frozen]
    rfl
  | aside _ _ elsewhere => cases elsewhere

def withoutOverrides (ops : List Operation) : List Operation := ops.filter fun op => !op.isOverride

theorem frozen_perform {u : InUse} (frozen : u.encoding.frozen = true) (op : Operation) :
    (perform u op).state.encoding.frozen = true := by
  rw [(changed_perform u op).encoding_of_frozen frozen]
  exact frozen

theorem late_overrides {u : InUse} (frozen : u.encoding.frozen = true) (ops : List Operation) :
    after u ops = after u (withoutOverrides ops) ∧
      (history u ops).filter (fun m => !m.event.isOverride) =
        history u (withoutOverrides ops) := by
  refine Runs.after_filter (P := fun v : InUse => v.encoding.frozen = true)
    (fun v op h => frozen_perform h op) ?_ frozen ops
  intro v op h isOverride
  cases op with
  | override choice => exact override_of_frozen h choice
  | _ => cases isOverride

theorem override_unknown (u : InUse) {name : String} (h : Charset.forLabel? name = none) :
    perform u (.override (.named name)) =
      { answer := .failed (.unsupportedEncoding name), state := u } := by
  dsimp only [perform, Override.on, Request.setCharacterEncoding, BodyEncoding.setName,
    Charset.require]
  rw [h]
  rfl

theorem override_known (u : InUse) {choice : Override}
    (h : ∀ name, choice = .named name → Charset.forLabel? name ≠ none) :
    (perform u (.override choice)).answer = .done := by
  have applied (e : BodyEncoding) (name : String) (charset : Charset) :
      (e.apply name charset).answer = .ok () := by
    unfold BodyEncoding.apply
    simp only
    split <;> rfl
  cases choice with
  | chosen charset =>
    have done := applied u.request.encoding charset.name charset
    simp only [perform, Override.on, Request.setCharset, BodyEncoding.setCharset, Outcome.within,
      Outcome.map, done]
    rfl
  | named name =>
    rcases hl : Charset.forLabel? name with _ | charset
    · exact absurd hl (h name rfl)
    · have required : Charset.require name = .ok charset := by
        unfold Charset.require
        rw [hl]
      have done := applied u.request.encoding (Text.trim name) charset
      dsimp only [perform, Override.on, Request.setCharacterEncoding, BodyEncoding.setName,
        Outcome.within, Outcome.map]
      rw [required]
      simp only [done]
      rfl

/-! ## Whole runs -/

/-- Before the charset is fixed, nothing has needed one. -/
theorem idle_before {a : Request.Arrival} {s : Settings} {id : Nat} {es : List Operation}
    (unfrozen : (after (.received a s id) es).encoding.frozen = false) {m : Moment}
    (hm : m ∈ history (.received a s id) es) : Idle m := by
  obtain ⟨gs, hs, rfl, before⟩ := Runs.exists_of_mem_history hm
  have next : after (.received a s id) (gs ++ [m.event]) = m.next := by
    unfold after
    rw [Runs.after_snoc, ← before]
    rfl
  have rest : after (.received a s id) (gs ++ m.event :: hs) = after m.next hs := by
    unfold after at next ⊢
    rw [← next, ← Runs.after_append]
    simp
  apply idle_of_not_accessed
  rw [← next, ← frozen_iff_after a s id, next]
  intro frozen
  rw [rest, encoding_after frozen, frozen] at unfrozen
  cases unfrozen

/-- At every moment of a run, the parameters are built from what has been received, and the reader
has the charset in force. -/
theorem moment_of_run {a : Request.Arrival} {s : Settings} {id : Nat} {ops : List Operation}
    {m : Moment} (hm : m ∈ history (.received a s id) ops) :
    m.before.request.parserInput = (Request.receive a s id).parserInput ∧ ReadsIn m.next := by
  obtain ⟨es, -, -, before⟩ := Runs.exists_of_mem_history hm
  refine ⟨?_, ?_⟩
  · rw [before]
    exact input_after _ es
  · refine (changed_perform m.before m.event).readsIn ?_
    rw [before]
    exact readsIn_after a s id es

/-- From the moment that freezes it on, the encoding says the same. -/
theorem fixed_from_freezing {first m : Moment} {fs : List Operation} (h : Freezes first)
    (hm : m ∈ first :: history first.next fs) :
    m.before.encoding.resolve = first.before.encoding.resolve ∧
      m.next.encoding.name = first.before.encoding.name ∧
      m.next.encoding.resolve = first.before.encoding.resolve := by
  have changed := changed_perform first.before first.event
  have fixed := changed.encoding (changed.not_override h.1 h.2)
  rcases List.mem_cons.1 hm with rfl | later
  · exact ⟨rfl, fixed⟩
  · obtain ⟨gs, -, -, before⟩ := Runs.exists_of_mem_history later
    have same : m.before.encoding = first.next.encoding := by
      rw [before]
      exact encoding_after h.2 gs
    have kept : m.next.encoding = first.next.encoding := by
      rw [← same]
      exact (changed_perform m.before m.event).encoding_of_frozen (same ▸ h.2)
    rw [same, kept]
    exact ⟨fixed.2, fixed⟩

/-- In every run the encoding is frozen exactly if the body has been opened or drained or the
parameters have been asked for. From the moment that freezes it on, the name of the encoding stays
as it is, and every reader, every form and every multipart body has the charset that was resolved at
this moment, or fails as this did; nothing has needed a charset before. Overrides that come later
are not to be noticed, but an unknown name is refused at any time. -/
theorem the_charset_is_fixed_by_the_first_access (a : Request.Arrival) (s : Settings) (id : Nat)
    (ops : List Operation) :
    let u := after (.received a s id) ops
    let moments := history (.received a s id) ops
    (u.encoding.frozen = true ↔ Accessed u) ∧
    (u.encoding.frozen = true →
      ∃ earlier first later, moments = earlier ++ first :: later ∧ Freezes first) ∧
    (∀ earlier first later, moments = earlier ++ first :: later → Freezes first →
      (∀ m ∈ earlier, Idle m) ∧
      (∀ f, first.before.encoding.resolve = .error f → ∃ label, f = .unsupportedEncoding label) ∧
      ∀ m ∈ first :: later, m.next.encoding.name = first.before.encoding.name ∧
        UsesOnly (Request.receive a s id).parserInput first.before.encoding.resolve m) ∧
    (u.encoding.frozen = true → ∀ calls calls', withoutOverrides calls = withoutOverrides calls' →
      after u calls = after u calls' ∧
        (history u calls).filter (fun m => !m.event.isOverride) =
          (history u calls').filter fun m => !m.event.isOverride) ∧
    (∀ choice, (∀ name, choice = .named name → Charset.forLabel? name ≠ none) →
      (perform u (.override choice)).answer = .done) ∧
    ∀ name, Charset.forLabel? name = none → perform u (.override (.named name)) =
      { answer := .failed (.unsupportedEncoding name), state := u } := by
  intro u moments
  refine ⟨frozen_iff_after a s id ops, exists_freezing rfl, ?_, ?_, ?_, ?_⟩
  · intro earlier first later eq freezes
    obtain ⟨es, fs, -, rfl, before, rfl⟩ := Runs.exists_of_history_eq eq
    refine ⟨?_, fun f => unsupported_of_resolve, ?_⟩
    · intro m hm
      have unfrozen := freezes.1
      rw [before] at unfrozen
      exact idle_before unfrozen hm
    · intro m hm
      have inRun : m ∈ moments := by
        rw [show moments = _ from eq]
        exact List.mem_append_right _ hm
      obtain ⟨input, reads⟩ := moment_of_run inRun
      obtain ⟨beforeSame, nextSame⟩ := fixed_from_freezing freezes hm
      exact ⟨nextSame.1, usesOnly input beforeSame nextSame.2 reads⟩
  · intro frozen calls calls' same
    obtain ⟨state, told⟩ := late_overrides frozen calls
    obtain ⟨state', told'⟩ := late_overrides frozen calls'
    rw [state, state', told, told', same]
    exact ⟨rfl, rfl⟩
  · exact fun choice known => override_known u known
  · exact fun name unknown => override_unknown u unknown

end WebRequest.Handling
