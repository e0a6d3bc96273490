-- How the body is taken for the parameters. Whether it is taken depends on the kind of the body,
-- on the query, on the charset and on nobody having opened it; all that is left after this
-- decision is to drain it and to go on with its bytes.
import WebRequest.Proofs.Parameters.Building
import WebRequest.Proofs.Parameters.UrlEncoded

namespace WebRequest.Parameters

open Body

/-! ## Bodies that are taken -/

/-- How a body is taken: the limit on its size, and what its bytes go through. -/
structure Taking where
  limit : Option Nat
  next : Charset → Bytes → Stage

/-- How a form is taken. -/
def Input.form (i : Input) : Taking where
  limit := some i.settings.maxPostSize
  next charset bytes := storing i.rules (Form.pairs ⟨charset, .body⟩ bytes)

/-- How a multipart body is taken. -/
def Input.parts (i : Input) (m : MultipartSupport) (boundary : String) : Taking where
  limit := m.limits.maxRequestSize
  next := splitting i.rules m boundary

/-- How the body of a request is taken for its parameters. -/
inductive Input.Takes (i : Input) : Taking → Prop
  | form (kind : i.kind = .urlEncoded) : Takes i i.form
  | parts {m : MultipartSupport} {boundary : String} (kind : i.kind = .multipart (some boundary))
      (support : i.endpoint.multipart = some m) : Takes i (i.parts m boundary)

theorem Input.Takes.unique {i : Input} {t t' : Taking} (h : i.Takes t) (h' : i.Takes t') :
    t = t' := by
  cases h with
  | form kind =>
    cases h' with
    | form _ => rfl
    | parts kind' _ => cases kind.symm.trans kind'
  | parts kind support =>
    cases h' with
    | form kind' => cases kind.symm.trans kind'
    | parts kind' support' =>
      cases kind.symm.trans kind'
      cases support.symm.trans support'
      rfl

theorem not_takes_of_noBoundary {i : Input} (h : i.kind = .multipart none) (t : Taking) :
    ¬ i.Takes t := by
  intro takes
  cases takes with
  | form kind => cases h.symm.trans kind
  | parts kind _ => cases h.symm.trans kind

theorem exists_takes_iff {i : Input} :
    (∃ t, i.Takes t) ↔ i.kind = .urlEncoded ∨
      ∃ boundary m, i.kind = .multipart (some boundary) ∧ i.endpoint.multipart = some m := by
  constructor
  · rintro ⟨t, takes⟩
    cases takes with
    | form kind => exact .inl kind
    | @parts m boundary kind support => exact .inr ⟨boundary, m, kind, support⟩
  · rintro (kind | ⟨boundary, m, kind, support⟩)
    · exact ⟨_, .form kind⟩
    · exact ⟨_, .parts kind support⟩

/-- What its bytes go through leaves a body alone. -/
theorem kept_next {i : Input} {t : Taking} (h : i.Takes t) (charset : Charset) (bytes : Bytes)
    (b : Building) : Kept 1 b (t.next charset bytes b) := by
  cases h with
  | form _ =>
    have kept := kept_storing i.rules (Form.pairs ⟨charset, .body⟩ bytes) b
    exact { kept with calls := Nat.le_succ_of_le kept.calls }
  | parts _ _ => exact kept_splitting i.rules _ _ charset bytes b

theorem splits_splitting (rules : Rules) (m : MultipartSupport) (boundary : String)
    (charset : Charset) (bytes : Bytes) (b : Building) :
    splits (splitting rules m boundary charset bytes b).effects = [(boundary, bytes, charset)] := by
  unfold splitting
  simp only [Outcome.after, List.singleton_append, splits_split, List.cons.injEq, true_and]
  rcases m.splitter boundary bytes charset with f | parts
  · rfl
  · simp only
    rcases m.limits.fault? parts with _ | f
    · exact (kept_storingParts rules parts b).silent
    · rfl

/-- The splitter is called for a multipart body alone, with its bytes and the charset of the
body. -/
theorem of_mem_splits_next {i : Input} {t : Taking} (h : i.Takes t) {charset : Charset}
    {bytes : Bytes} {b : Building} {call : String × Bytes × Charset}
    (called : call ∈ splits (t.next charset bytes b).effects) :
    ∃ m boundary, i.endpoint.multipart = some m ∧ t = i.parts m boundary ∧
      call = (boundary, bytes, charset) := by
  cases h with
  | form _ =>
    rw [Input.form, (kept_storing i.rules _ b).silent] at called
    cases called
  | @parts m boundary _ support =>
    rw [Input.parts, splits_splitting, List.mem_singleton] at called
    exact ⟨m, boundary, support, rfl, called⟩

/-! ## The decision -/

/-- Why a body is left alone, and what this comes to. -/
inductive Leaves (i : Input) (access : Access) (encoding : BodyEncoding) :
    Except RequestFault Unit → Prop
  | opened (begun : access.mode ≠ .unopened) : Leaves i access encoding (.ok ())
  | foreign (none_ : ∀ t, ¬ i.Takes t) : Leaves i access encoding (.ok ())
  | noBoundary (lacking : i.kind = .multipart none) :
      Leaves i access encoding (.error (.invalidParameters .missingBoundary))
  | unresolved {fault : RequestFault} (unresolved : encoding.resolve = .error fault) :
      Leaves i access encoding (.error fault)

/-- A body that is one for the parameters, that nobody has opened and that has a charset, is not
left alone. -/
theorem not_leaves {i : Input} {access : Access} {encoding : BodyEncoding} {t : Taking}
    {charset : Charset} {result : Except RequestFault Unit} (takes : i.Takes t)
    (unopened : access.mode = .unopened) (resolved : encoding.resolve = .ok charset) :
    ¬ Leaves i access encoding result := by
  intro leaves
  cases leaves with
  | opened begun => exact begun unopened
  | foreign none_ => exact none_ t takes
  | noBoundary lacking => exact not_takes_of_noBoundary lacking t takes
  | unresolved unresolved => cases resolved.symm.trans unresolved

/-- What becomes of a body: it is left alone, or it is drained. -/
inductive OfBody (i : Input) (p : Patience) (b : Building) : Waiting Building Unit → Prop
  | left {result : Except RequestFault Unit} {effects : List Effect}
      (leaves : Leaves i b.access b.encoding result) (silent : splits effects = []) :
      OfBody i p b { answer := .ready result, state := b, effects }
  | taken {t : Taking} {charset : Charset} (takes : i.Takes t)
      (unopened : b.access.mode = .unopened) (resolved : b.encoding.resolve = .ok charset) :
      OfBody i p b (draining t.limit p (t.next charset) b)

theorem ofBody_decoding {i : Input} {b : Building} {t : Taking} (takes : i.Takes t)
    (unopened : b.access.mode = .unopened) (p : Patience) :
    OfBody i p b (decoding (fun charset => draining t.limit p (t.next charset)) b) := by
  unfold decoding
  rcases hr : b.encoding.resolve with fault | charset
  · exact .left (.unresolved hr) rfl
  · exact .taken takes unopened hr

theorem ofBody_fromMultipart {i : Input} {b : Building} {boundary : Option String}
    (kind : i.kind = .multipart boundary) (unopened : b.access.mode = .unopened) (p : Patience) :
    OfBody i p b (fromMultipart i p boundary b) := by
  unfold fromMultipart
  rcases hm : i.endpoint.multipart with _ | m
  · refine .left (.foreign ?_) rfl
    intro t takes
    cases takes with
    | form urlEncoded =>
      rw [kind] at urlEncoded
      cases urlEncoded
    | parts _ support =>
      rw [hm] at support
      cases support
  · cases boundary with
    | none => exact .left (.noBoundary kind) rfl
    | some boundary => exact ofBody_decoding (.parts kind hm) unopened p

theorem ofBody_fromBody (i : Input) (p : Patience) (b : Building) :
    OfBody i p b (fromBody i p b) := by
  unfold fromBody
  split
  · rename_i kind
    refine .left (.foreign ?_) rfl
    intro t takes
    cases takes with
    | form urlEncoded =>
      rw [kind] at urlEncoded
      cases urlEncoded
    | parts multipart _ =>
      rw [kind] at multipart
      cases multipart
  · rename_i some_
    split
    · rename_i unopened
      split
      · exact ofBody_fromMultipart (by assumption) unopened p
      · have form : i.kind = .urlEncoded := by
          rcases hk : i.kind with _ | boundary | _ <;> simp_all
        exact ofBody_decoding (.form form) unopened p
    · exact .left (.opened (by assumption)) rfl

/-! ## The building as a whole -/

/-- What has been processed of a query. -/
def Input.processed (i : Input) : Processed := process i.rules [] (queryResults i.query)

/-- How the parameters of a request are built. If the query is stopped, that is all. Otherwise the
body is left alone, or it is drained but not to its end, or all of its bytes are gone on with behind
what the query has brought. -/
inductive BuiltAs (i : Input) (p : Patience) (b : Building) (o : Waiting Building Unit) : Prop
  | stopped {fault : ParameterFault} (stop : i.processed.stop = some fault)
      (answer : o.answer = .ready (.error (.invalidParameters fault)))
      (access : o.state.access = b.access) (silent : splits o.effects = [])
  | left {result : Except RequestFault Unit} (accepted : i.processed.stop = none)
      (leaves : Leaves i b.access b.encoding result) (answer : o.answer = .ready result)
      (access : o.state.access = b.access) (silent : splits o.effects = [])
  | unread {t : Taking} {charset : Charset} (accepted : i.processed.stop = none)
      (takes : i.Takes t) (unopened : b.access.mode = .unopened)
      (resolved : b.encoding.resolve = .ok charset)
      (drain : ∀ bytes, (b.access.consume t.limit p).answer ≠ .ready (.ok bytes))
      (answer : o.answer = .abandoned ∨ ∃ f, Lasting f ∧ o.answer = .ready (.error f))
      (access : o.state.access = (b.access.consume t.limit p).state)
      (silent : splits o.effects = [])
  | read {t : Taking} {charset : Charset} {bytes : Bytes} {drained : Building}
      {effects : List Effect} (accepted : i.processed.stop = none) (takes : i.Takes t)
      (unopened : b.access.mode = .unopened) (resolved : b.encoding.resolve = .ok charset)
      (drain : (b.access.consume t.limit p).answer = .ready (.ok bytes))
      (access : drained.access = (b.access.consume t.limit p).state)
      (table : drained.table.Holds i.processed.stored) (silent : splits effects = [])
      (eq : o = (t.next charset bytes drained).after effects)

theorem builtAs_draining {i : Input} {p : Patience} {b b' : Building} {t : Taking}
    {charset : Charset} (accepted : i.processed.stop = none) (takes : i.Takes t)
    (unopened : b.access.mode = .unopened) (resolved : b.encoding.resolve = .ok charset)
    (access : b'.access = b.access) (table : b'.table.Holds i.processed.stored)
    {effects : List Effect} (silent : splits effects = []) :
    BuiltAs i p b ((draining t.limit p (t.next charset) b').after effects) := by
  have drains := drains_draining (access ▸ unopened) t.limit p (t.next charset)
  generalize draining t.limit p (t.next charset) b' = o at drains
  cases drains with
  | givenUp drain answer _ access' quiet =>
    rw [access] at access' drain
    refine .unread accepted takes unopened resolved ?_ (.inl answer) access'
      (by simp [Outcome.after, silent, quiet])
    simp [drain]
  | failed drain lasting answer _ access' quiet =>
    rw [access] at access' drain
    refine .unread accepted takes unopened resolved ?_ (.inr ⟨_, lasting, answer⟩) access'
      (by simp [Outcome.after, silent, quiet])
    simp [drain]
  | @read bytes more drain quiet eq =>
    rw [access] at drain
    refine @BuiltAs.read i p b _ t charset bytes
      { b' with access := (b'.access.consume t.limit p).state } (effects ++ more) accepted takes
      unopened resolved drain ?_ table (by simp [silent, quiet]) ?_
    · simp only [access]
    · rw [eq]
      simp only [Outcome.after, List.append_assoc]

theorem builtAs_building (i : Input) (p : Patience) {b : Building} (h : b.table.Holds []) :
    BuiltAs i p b (building i p b) := by
  obtain ⟨comes, access, encoding⟩ := comes_fromQuery i h
  have silent := (kept_fromQuery i b).silent
  have answer : (fromQuery i b).answer = .ready i.processed.meaning.answer := comes.answer
  unfold building Stage.andThen
  cases hstop : i.processed.stop with
  | some fault =>
    rw [Processed.answer_of_stop hstop] at answer
    simp only [answer]
    exact .stopped hstop answer access silent
  | none =>
    rw [Processed.answer_of_accepted hstop] at answer
    simp only [answer]
    have body := ofBody_fromBody i p (fromQuery i b).state
    generalize fromBody i p (fromQuery i b).state = o at body
    cases body with
    | left leaves quiet =>
      rw [access, encoding] at leaves
      exact .left hstop leaves rfl access (by simp [Outcome.after, silent, quiet])
    | taken takes unopened resolved =>
      rw [access] at unopened
      rw [encoding] at resolved
      exact builtAs_draining hstop takes unopened resolved access comes.table silent

/-- Behind an accepted query, the pairs of a form are processed as if they stood in one list. -/
theorem comes_form {i : Input} (accepted : i.processed.stop = none) {b : Building}
    (h : b.table.Holds i.processed.stored) (charset : Charset) (bytes : Bytes) :
    Comes (i.form.next charset bytes b)
      (process i.rules []
        (queryResults i.query ++ Form.pairs ⟨charset, .body⟩ bytes)).meaning := by
  have stored := comes_storing i.rules h (recoverable_pairs ⟨charset, .body⟩ bytes)
  have behind : (process i.rules [] (queryResults i.query)).stop.isSome = false := by
    rw [Option.isSome_eq_false_iff, Option.isNone_iff_eq_none]
    exact accepted
  rw [process_append, behind, if_neg Bool.false_ne_true]
  exact stored

namespace BuiltAs

variable {i : Input} {p : Patience} {b : Building} {o : Waiting Building Unit} {t : Taking}
  {charset : Charset} {bytes : Bytes}

/-- A body that would be taken is left alone for want of a charset, and then this is the answer. -/
theorem of_unresolved (h : BuiltAs i p b o) (accepted : i.processed.stop = none)
    (takes : i.Takes t) (unopened : b.access.mode = .unopened) {fault : RequestFault}
    (unresolved : b.encoding.resolve = .error fault) : o.answer = .ready (.error fault) := by
  cases h with
  | stopped stop _ _ _ => cases accepted.symm.trans stop
  | left _ leaves answer _ _ =>
    cases leaves with
    | opened begun => exact absurd unopened begun
    | foreign none_ => exact absurd takes (none_ t)
    | noBoundary lacking => exact absurd takes (not_takes_of_noBoundary lacking t)
    | unresolved unresolved' =>
      cases unresolved.symm.trans unresolved'
      exact answer
  | unread _ _ _ resolved _ _ _ _ => cases unresolved.symm.trans resolved
  | read _ _ _ resolved _ _ _ _ _ => cases unresolved.symm.trans resolved

/-- A body that has been drained is gone on with. -/
theorem of_drained (h : BuiltAs i p b o) (accepted : i.processed.stop = none)
    (takes : i.Takes t) (unopened : b.access.mode = .unopened)
    (resolved : b.encoding.resolve = .ok charset)
    (drain : (b.access.consume t.limit p).answer = .ready (.ok bytes)) :
    ∃ drained effects, drained.table.Holds i.processed.stored ∧ splits effects = [] ∧
      o = (t.next charset bytes drained).after effects := by
  cases h with
  | stopped stop _ _ _ => cases accepted.symm.trans stop
  | left _ leaves _ _ _ => exact absurd leaves (not_leaves takes unopened resolved)
  | unread _ takes' _ _ drain' _ _ _ =>
    obtain rfl := takes.unique takes'
    exact absurd drain (drain' bytes)
  | read _ takes' _ resolved' drain' _ table silent eq =>
    obtain rfl := takes.unique takes'
    cases resolved.symm.trans resolved'
    cases drain.symm.trans drain'
    exact ⟨_, _, table, silent, eq⟩

theorem charset_of_mem_splits (h : BuiltAs i p b o) {boundary : String}
    (called : (boundary, bytes, charset) ∈ splits o.effects) :
    b.encoding.resolve = .ok charset := by
  cases h with
  | stopped _ _ _ silent =>
    rw [silent] at called
    cases called
  | left _ _ _ _ silent =>
    rw [silent] at called
    cases called
  | unread _ _ _ _ _ _ _ silent =>
    rw [silent] at called
    cases called
  | read _ takes _ resolved _ _ _ silent eq =>
    subst eq
    rw [Outcome.after, splits_append, silent, List.nil_append] at called
    obtain ⟨m, boundary', -, -, hcall⟩ := of_mem_splits_next takes called
    cases hcall
    exact resolved

/-- The body is drained exactly if the query is accepted, the body is one for the parameters, nobody
has opened it, and it has a charset. Otherwise it stays as it is. -/
theorem consumes_iff (h : BuiltAs i p b o) (present : b.access.mode ≠ .consumed) :
    (o.state.access.mode = .consumed ↔ b.access.mode = .unopened ∧ i.processed.stop = none ∧
      (∃ charset, b.encoding.resolve = .ok charset) ∧ ∃ t, i.Takes t) ∧
    (o.state.access.mode ≠ .consumed → o.state.access = b.access) := by
  cases h with
  | stopped stop _ access _ =>
    rw [access]
    refine ⟨iff_of_false present ?_, fun _ => rfl⟩
    rintro ⟨-, accepted, -⟩
    cases accepted.symm.trans stop
  | left _ leaves _ access _ =>
    rw [access]
    refine ⟨iff_of_false present ?_, fun _ => rfl⟩
    rintro ⟨unopened, -, ⟨charset, resolved⟩, t, takes⟩
    exact not_leaves takes unopened resolved leaves
  | @unread t charset accepted takes unopened resolved _ _ access _ =>
    have consumed : o.state.access.mode = .consumed := by
      rw [access]
      exact mode_consume unopened t.limit p
    exact ⟨iff_of_true consumed ⟨unopened, accepted, ⟨charset, resolved⟩, t, takes⟩,
      fun other => absurd consumed other⟩
  | @read t charset bytes drained effects accepted takes unopened resolved _ access _ _ eq =>
    have consumed : o.state.access.mode = .consumed := by
      rw [eq, Outcome.after, (kept_next takes charset bytes drained).access, access]
      exact mode_consume unopened t.limit p
    exact ⟨iff_of_true consumed ⟨unopened, accepted, ⟨charset, resolved⟩, t, takes⟩,
      fun other => absurd consumed other⟩

end BuiltAs

end WebRequest.Parameters
