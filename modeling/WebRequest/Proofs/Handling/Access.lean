-- The access to the parameters that builds them. It fixes the charset, drains the body if nobody
-- has opened it, and leaves the parser done, or midway if it was given up.
import WebRequest.Proofs.Handling.Change
import WebRequest.Proofs.Parameters.Taking

namespace WebRequest.Handling

open Body Parameters

/-- The outcome of building the parameters of a request. -/
def built (r : Request) (p : Patience) : Waiting Building Unit :=
  building r.parserInput p { access := r.body, encoding := r.encoding.freeze }

theorem builtAs_built (r : Request) (p : Patience) :
    BuiltAs r.parserInput p { access := r.body, encoding := r.encoding.freeze } (built r p) :=
  builtAs_building r.parserInput p Table.holds_empty

theorem ensureParsed_of_fresh {r : Request} (h : r.parser.progress = .notStarted) (p : Patience) :
    r.ensureParsed p =
      (Workplace.build r.parserInput p
        { parser := r.parser, access := r.body, encoding := r.encoding }).within
        r.withWorkplace := by
  simp only [Request.ensureParsed, Workplace.ensureParsed, h]

/-- What a request has of the building of its parameters. -/
structure HasBuilt (r : Request) (o : Waiting Request Unit) (d : Waiting Building Unit) : Prop where
  answer : o.answer = d.answer
  body : o.state.body = d.state.access
  encoding : o.state.encoding = d.state.encoding
  calls : splits o.effects = splits d.effects
  parser : o.state.parser =
    if d.answer = .abandoned then { r.parser with progress := .inProgress }
    else { progress := .done, table := d.state.table, files := d.state.files }

theorem hasBuilt_ensureParsed {r : Request} (h : r.parser.progress = .notStarted) (p : Patience) :
    HasBuilt r (r.ensureParsed p) (built r p) := by
  have built_eq : built r p =
      building r.parserInput p { access := r.body, encoding := r.encoding.freeze } := rfl
  rw [ensureParsed_of_fresh h]
  simp only [Workplace.build, ← built_eq]
  rcases ha : (built r p).answer with result | _
  · refine ⟨ha.symm, rfl, rfl, by simp [Outcome.within], ?_⟩
    rw [if_neg (by simp [ha])]
    rfl
  · refine ⟨ha.symm, rfl, rfl, rfl, ?_⟩
    rw [if_pos ha]
    rfl

/-- What the access that builds the parameters of a request does. -/
structure FirstAccess (r : Request) (p : Patience) (o : Waiting Request Unit) : Prop where
  encoding : o.state.encoding = r.encoding.freeze
  /-- The body is as it was, or it has been drained. -/
  body : o.state.body = r.body ∧ o.answer ≠ .abandoned ∨
    r.body.mode = .unopened ∧ ∃ limit, o.state.body = (r.body.consume limit p).state ∧
      (o.answer = .abandoned ↔ (r.body.consume limit p).answer = .abandoned)
  abandoned : o.answer = .abandoned → o.state.parser = { r.parser with progress := .inProgress }
  ran : o.answer ≠ .abandoned → o.state.parser.progress = .done
  fault : ∀ f, o.answer = .ready (.error f) → ParsingFault f
  calls : (splits o.effects).length ≤ 1

theorem firstAccess_ensureParsed {r : Request} (h : r.parser.progress = .notStarted)
    (p : Patience) : FirstAccess r p (r.ensureParsed p) := by
  have used : BodyUse p { access := r.body, encoding := r.encoding.freeze } (built r p) :=
    bodyUse_building _ _ _
  have has := hasBuilt_ensureParsed h p
  refine ⟨?_, ?_, ?_, ?_, ?_, ?_⟩
  · rw [has.encoding]
    cases used with
    | left kept => exact kept.encoding
    | drained _ _ _ encoding => exact encoding
  · rw [has.body, has.answer]
    cases used with
    | left kept => exact .inl ⟨kept.access, kept.ran⟩
    | drained limit unopened access _ abandoned =>
      exact .inr ⟨unopened, limit, access, abandoned⟩
  · intro given
    rw [has.parser, if_pos (has.answer.symm.trans given)]
  · intro ran
    rw [has.parser, if_neg (has.answer ▸ ran)]
  · rw [has.answer]
    cases used with
    | left kept => exact kept.fault
    | drained _ _ _ _ _ fault => exact fault
  · rw [has.calls]
    cases used with
    | left kept => exact Nat.le_succ_of_le kept.calls
    | drained _ _ _ _ _ _ calls => exact calls

theorem FirstAccess.started {r : Request} {p : Patience} {o : Waiting Request Unit}
    (h : FirstAccess r p o) : o.state.parser.progress ≠ .notStarted := by
  by_cases given : o.answer = .abandoned
  · rw [h.abandoned given]
    simp
  · rw [h.ran given]
    decide

/-- Nobody drains a body that has been drained or opened. -/
theorem body_ensureParsed {r : Request} (fresh : r.parser.progress = .notStarted) (p : Patience)
    (begun : r.body.mode ≠ .unopened) : (r.ensureParsed p).state.body = r.body := by
  rcases (firstAccess_ensureParsed fresh p).body with ⟨same, -⟩ | ⟨unopened, -⟩
  · exact same
  · exact absurd unopened begun

theorem effects_askParser (question : Parser → Except RequestFault Reply) (p : Patience)
    (r : Request) : (r.askParser question p).effects = (r.ensureParsed p).effects := by
  simp only [Request.askParser]
  rcases (r.ensureParsed p).answer with (fault | _) | _ <;> rfl

theorem askParser_abandoned_iff (question : Parser → Except RequestFault Reply) (p : Patience)
    (r : Request) :
    (r.askParser question p).answer = .abandoned ↔ (r.ensureParsed p).answer = .abandoned := by
  simp only [Request.askParser]
  rcases (r.ensureParsed p).answer with (fault | _) | _ <;> simp

/-- An access is given up, fails to build the parameters, or has its question answered. -/
theorem askParser_answer (question : Parser → Except RequestFault Reply) (p : Patience)
    (r : Request) :
    (r.askParser question p).answer = .abandoned ∨
      (∃ f, (r.ensureParsed p).answer = .ready (.error f) ∧
        (r.askParser question p).answer = .ready (.error f)) ∨
      (r.askParser question p).answer = .ready (question (r.ensureParsed p).state.parser) := by
  simp only [Request.askParser]
  rcases (r.ensureParsed p).answer with (fault | _) | _
  · exact .inr (.inl ⟨fault, rfl, rfl⟩)
  · exact .inr (.inr rfl)
  · exact .inl rfl

/-- Only a question for a record can have no answer. -/
theorem answer_error {q : Question} {parser : Parser} {f : RequestFault}
    (h : q.answer parser = .error f) :
    ∃ shape reason, q = .record shape ∧ f = .deserialize reason := by
  cases q with
  | record shape =>
    simp only [Question.answer] at h
    rcases hr : parser.table.readAs shape with fault | value <;> rw [hr] at h
    · cases h
      exact ⟨shape, _, rfl, rfl⟩
    · cases h
  | _ => cases h

end WebRequest.Handling
