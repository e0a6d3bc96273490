-- What can fail an access to the parameters if those that cannot be decoded are skipped. The
-- policy holds for all pairs of the query and of the body, but not for the splitter of a multipart
-- body: what it reports is the answer, also where it could be recovered from.
import WebRequest.Proofs.Handling.Parsing
import WebRequest.Proofs.Parameters.Skipping

namespace WebRequest.Handling

open Body Parameters

/-- Under the policy to skip, an access fails for a limit, a missing boundary, the transport, an
unknown charset or a building that was given up; or a record cannot be read from the table; or the
splitter has reported a fault. Nothing but the splitter makes it fail with a fault that can be
recovered from, and whenever the splitter reports one, it does. -/
theorem only_the_splitter_fails_what_is_skipped (a : Request.Arrival) (s : Settings) (id : Nat)
    (ops : List Operation) (skip : s.failurePolicy = .skip) :
    ∀ m ∈ history (.received a s id) ops, Asks m →
      (∀ f, FailsWith m f → Unskipped a.endpoint (splits m.effects) f ∨
        f = .illegalState .parsingInterrupted ∨ ∃ reason, f = .deserialize reason) ∧
      ∀ g : ParameterFault, g.isRecoverable = true →
        (FailsWith m (.invalidParameters g) ↔ Reported a.endpoint (splits m.effects) g) := by
  rintro m hm ⟨q, p, event⟩
  obtain ⟨es, fs, -, hbefore⟩ := Runs.exists_of_mem_history hm
  have input : m.before.request.parserInput = (InUse.received a s id).request.parserInput := by
    rw [hbefore]
    exact input_after _ es
  have skips : m.before.request.parserInput.rules.policy = .skip := by
    rw [input]
    exact skip
  have endpoint : m.before.request.parserInput.endpoint = a.endpoint := by rw [input]; rfl
  have causes : ∀ f, FailsWith m f → Unskipped a.endpoint (splits m.effects) f ∨
      f = .illegalState .parsingInterrupted ∨ ∃ reason, f = .deserialize reason := by
    intro f fails
    refine (fault_of_access event fails).imp_left ?_
    rintro ⟨fresh, failed⟩
    rw [splits_of_fresh event fresh, ← endpoint]
    exact unskipped_of_built skips (builtAs_built _ p) failed
  refine ⟨causes, fun g recoverable => ⟨fun fails => ?_, fun reported => ?_⟩⟩
  · rcases causes _ fails with unskipped | interrupted | ⟨reason, record⟩
    · cases unskipped with
      | lasting lasting =>
        obtain ⟨g', same, lasts⟩ := lasting
        cases same
        rw [recoverable] at lasts
        cases lasts
      | reported reported => exact reported
    · cases interrupted
    · cases record
  · by_cases fresh : m.before.parser.progress = .notStarted
    · rw [splits_of_fresh event fresh, ← endpoint] at reported
      exact failsWith_of_built event fresh (answer_of_reported (builtAs_built _ p) reported)
    · rw [(quiet_of_started ⟨q, p, event⟩ fresh).2] at reported
      exact absurd reported (not_reported_of_silent rfl)

/-- A posted body of a media type, to an endpoint with a splitter that cannot decode anything. -/
def undecodable (mediaType body : String) : Request.Arrival :=
  { head :=
      { method := "POST", uri := { path := "/" }, version := .v11,
        fields := ⟨[("content-type", Bytes.ofText mediaType)]⟩ },
    transport := { frames := [.data (Bytes.ofText body)] },
    endpoint :=
      { multipart := some
          { splitter := fun _ _ charset => .error (.undecodableBytes charset.name) } } }

def skipping : Settings := { failurePolicy := .skip }

theorem an_undecodable_form_is_skipped :
    let first : Moment :=
      ⟨.received (undecodable "application/x-www-form-urlencoded" "a=%&b=%ff") skipping 1,
        .access .table none⟩
    skipping.failurePolicy = .skip ∧
      ∀ g : ParameterFault, g.isRecoverable = true → ¬ FailsWith first (.invalidParameters g) := by
  refine ⟨rfl, fun g recoverable fails => ?_⟩
  have reported := ((only_the_splitter_fails_what_is_skipped
    (undecodable "application/x-www-form-urlencoded" "a=%&b=%ff") skipping 1
    [.access .table none] rfl _ List.mem_cons_self ⟨_, _, rfl⟩).2 g recoverable).1 fails
  exact not_reported_of_silent (by decide +kernel) reported

/-- What the splitter cannot decode is not skipped. -/
theorem an_undecodable_part_is_not_skipped :
    let first : Moment :=
      ⟨.received (undecodable "multipart/form-data; boundary=b" "x") skipping 1,
        .access .table none⟩
    skipping.failurePolicy = .skip ∧
      (ParameterFault.undecodableBytes "UTF-8").isRecoverable = true ∧
      FailsWith first (.invalidParameters (.undecodableBytes "UTF-8")) := by
  exact ⟨rfl, rfl, failsWith_of_built rfl rfl (by decide +kernel)⟩

end WebRequest.Handling
