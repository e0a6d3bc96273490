-- What can stop the building of the parameters if those that cannot be decoded are skipped. Limits
-- still do, and so does a missing boundary, a failure of the transport or an unknown charset; and
-- so does whatever the splitter of a multipart body reports, for its faults are not skipped.
import WebRequest.Proofs.Parameters.Taking

namespace WebRequest.Parameters

open Body

/-- Under the policy to skip, nothing but the limit stops the processing. -/
theorem stop_of_skip {rules : Rules} (skip : rules.policy = .skip)
    (stored : List (String × String)) (results : List Form.PairResult) {fault : ParameterFault}
    (h : (process rules stored results).stop = some fault) :
    fault = .tooManyParameters rules.maxCount := by
  induction results generalizing stored with
  | nil => cases h
  | cons p rest ih =>
    cases p with
    | ok pair =>
      simp only [process] at h
      split at h
      · exact ih stored h
      · split at h
        · cases h
          rfl
        · exact ih (stored ++ [pair]) h
    | error f =>
      simp only [process, skip] at h
      exact ih stored h

theorem lasting_of_storing {rules : Rules} (skip : rules.policy = .skip) {b : Building}
    {stored : List (String × String)} (h : b.table.Holds stored)
    {results : List Form.PairResult} (recoverable : Recoverable results) {f : RequestFault}
    (failed : (storing rules results b).answer = .ready (.error f)) : Lasting f := by
  rw [(comes_storing rules h recoverable).answer, Awaited.ready.injEq] at failed
  cases hstop : (process rules stored results).stop with
  | none =>
    rw [Processed.answer_of_accepted hstop] at failed
    cases failed
  | some fault =>
    rw [Processed.answer_of_stop hstop] at failed
    cases failed
    rw [stop_of_skip skip stored results hstop]
    exact ⟨_, rfl, rfl⟩

theorem lasting_of_limits {l : MultipartLimits} {parts : List Part} {g : ParameterFault}
    (h : l.fault? parts = some g) : g.isRecoverable = false := by
  have large (h : MultipartLimits.fault?.largeFile l parts = some g) :
      g.isRecoverable = false := by
    obtain ⟨part, -, hpart⟩ := List.exists_of_findSome?_eq_some h
    cases part with
    | field name value => cases hpart
    | file f =>
      simp only [MultipartLimits.fileFault?] at hpart
      split at hpart
      · cases hpart
      · split at hpart
        · cases hpart
          rfl
        · cases hpart
  unfold MultipartLimits.fault? at h
  split at h
  · split at h
    · cases h
      rfl
    · exact large h
  · exact large h

theorem lasting_of_storingParts {rules : Rules} (skip : rules.policy = .skip) {b : Building}
    {stored : List (String × String)} (h : b.table.Holds stored) {parts : List Part}
    {f : RequestFault} (failed : (storingParts rules parts b).answer = .ready (.error f)) :
    Lasting f := by
  unfold storingParts Stage.andThen at failed
  simp only at failed
  split at failed
  · cases failed
  · exact lasting_of_storing skip h (recoverable_fields _) failed

/-- A splitter that has been called has reported a fault. -/
def Reported (e : Endpoint) (calls : List (String × Bytes × Charset)) (g : ParameterFault) : Prop :=
  ∃ m boundary bytes charset, e.multipart = some m ∧ (boundary, bytes, charset) ∈ calls ∧
    m.splitter boundary bytes charset = .error g

theorem not_reported_of_silent {e : Endpoint} {calls : List (String × Bytes × Charset)}
    {g : ParameterFault} (silent : calls = []) : ¬ Reported e calls g := by
  rintro ⟨m, boundary, bytes, charset, -, called, -⟩
  rw [silent] at called
  cases called

/-- What fails although faults that can be recovered from are skipped. -/
inductive Unskipped (e : Endpoint) (calls : List (String × Bytes × Charset)) :
    RequestFault → Prop
  | lasting {f : RequestFault} (lasting : Lasting f) : Unskipped e calls f
  | reported {g : ParameterFault} (reported : Reported e calls g) :
      Unskipped e calls (.invalidParameters g)
  | unsupported (label : String) : Unskipped e calls (.unsupportedEncoding label)

theorem splitting_of_error {m : MultipartSupport} {boundary : String} {charset : Charset}
    {bytes : Bytes} {g : ParameterFault} (h : m.splitter boundary bytes charset = .error g)
    (rules : Rules) (b : Building) :
    (splitting rules m boundary charset bytes b).answer =
      .ready (.error (.invalidParameters g)) := by
  unfold splitting
  rw [h]
  rfl

theorem fault_of_splitting {rules : Rules} (skip : rules.policy = .skip) {b : Building}
    {stored : List (String × String)} (h : b.table.Holds stored) {m : MultipartSupport}
    {boundary : String} {charset : Charset} {bytes : Bytes} {f : RequestFault}
    (failed : (splitting rules m boundary charset bytes b).answer = .ready (.error f)) :
    Lasting f ∨ ∃ g, f = .invalidParameters g ∧ m.splitter boundary bytes charset = .error g := by
  unfold splitting at failed
  rcases hs : m.splitter boundary bytes charset with g | parts
  · rw [hs] at failed
    cases failed
    exact .inr ⟨g, rfl, rfl⟩
  · simp only [hs, Outcome.after] at failed
    rcases hl : m.limits.fault? parts with _ | g
    · rw [hl] at failed
      exact .inl (lasting_of_storingParts skip h failed)
    · rw [hl] at failed
      cases failed
      exact .inl ⟨g, rfl, lasting_of_limits hl⟩

theorem unskipped_of_next {i : Input} (skip : i.rules.policy = .skip) {t : Taking}
    (takes : i.Takes t) {charset : Charset} {bytes : Bytes} {b : Building}
    {stored : List (String × String)} (h : b.table.Holds stored) {f : RequestFault}
    (failed : (t.next charset bytes b).answer = .ready (.error f)) :
    Unskipped i.endpoint (splits (t.next charset bytes b).effects) f := by
  cases takes with
  | form _ => exact .lasting (lasting_of_storing skip h (recoverable_pairs _ _) failed)
  | @parts m boundary _ support =>
    rcases fault_of_splitting skip h failed with lasting | ⟨g, rfl, hg⟩
    · exact .lasting lasting
    · refine .reported ⟨m, boundary, bytes, charset, support, ?_, hg⟩
      exact (splits_splitting i.rules m boundary charset bytes b) ▸ List.mem_singleton_self _

/-- Under the policy to skip, what fails is what is not skipped. -/
theorem unskipped_of_built {i : Input} (skip : i.rules.policy = .skip) {p : Patience}
    {b : Building} {o : Waiting Building Unit} (h : BuiltAs i p b o) {f : RequestFault}
    (failed : o.answer = .ready (.error f)) : Unskipped i.endpoint (splits o.effects) f := by
  cases h with
  | stopped stop answer _ _ =>
    rw [answer] at failed
    cases failed
    rw [stop_of_skip skip [] _ stop]
    exact .lasting ⟨_, rfl, rfl⟩
  | left _ leaves answer _ _ =>
    rw [answer] at failed
    cases failed
    cases leaves with
    | noBoundary _ => exact .lasting ⟨_, rfl, rfl⟩
    | unresolved unresolved =>
      obtain ⟨label, rfl⟩ := unsupported_of_resolve unresolved
      exact .unsupported label
  | unread _ _ _ _ _ answer _ _ =>
    rcases answer with answer | ⟨g, lasting, answer⟩
    · rw [answer] at failed
      cases failed
    · rw [answer] at failed
      cases failed
      exact .lasting lasting
  | read _ takes _ _ _ _ table silent eq =>
    subst eq
    rw [Outcome.after, splits_append, silent, List.nil_append]
    exact unskipped_of_next skip takes table failed

/-- Whatever the policy is, a fault that the splitter has reported is the answer. -/
theorem answer_of_reported {i : Input} {p : Patience} {b : Building} {o : Waiting Building Unit}
    (h : BuiltAs i p b o) {g : ParameterFault}
    (reported : Reported i.endpoint (splits o.effects) g) :
    o.answer = .ready (.error (.invalidParameters g)) := by
  cases h with
  | stopped _ _ _ silent => exact absurd reported (not_reported_of_silent silent)
  | left _ _ _ _ silent => exact absurd reported (not_reported_of_silent silent)
  | unread _ _ _ _ _ _ _ silent => exact absurd reported (not_reported_of_silent silent)
  | read _ takes _ _ _ _ _ silent eq =>
    subst eq
    rw [Outcome.after, splits_append, silent, List.nil_append] at reported
    obtain ⟨m, boundary, bytes, charset, support, called, hg⟩ := reported
    obtain ⟨m', boundary', support', rfl, hcall⟩ := of_mem_splits_next takes called
    rw [support, Option.some.injEq] at support'
    subst support'
    cases hcall
    exact splitting_of_error hg i.rules _

end WebRequest.Parameters
