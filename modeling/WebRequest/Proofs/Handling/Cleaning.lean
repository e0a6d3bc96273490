-- The two policies on parameters that cannot be decoded, seen by whoever asks for them. To skip
-- them is to have been sent a request without them, and to fail at none.
import WebRequest.Proofs.Handling.Access
import WebRequest.Proofs.Parameters.Cleaning

namespace WebRequest.Handling

open Body Parameters

/-- The request under a policy. -/
def under (policy : FailurePolicy) (r : Request) : Request :=
  { r with settings := { r.settings with failurePolicy := policy } }

/-- The request without the segments of its query that cannot be decoded, and with another body. -/
def cleanedWith (t : Transport) (r : Request) : Request :=
  { r with
    head := { r.head with
      uri := { r.head.uri with query := r.head.uri.query.map Form.cleanedText } }
    body := .untouched t }

/-- A request that has a form: nobody has asked for the parameters or touched the body, and the form
arrives as a whole, within the limit and in a charset that is known. -/
structure HasForm (r : Request) (charset : Charset) (form : Bytes) : Prop where
  fresh : r.parser.progress = .notStarted
  meets : MeetsForm r.parserInput { access := r.body, encoding := r.encoding.freeze } charset form

theorem HasForm.under {r : Request} {charset : Charset} {form : Bytes} (h : HasForm r charset form)
    (policy : FailurePolicy) : HasForm (under policy r) charset form :=
  ⟨h.fresh, h.meets.kind, h.meets.arrives, h.meets.resolved, h.meets.within⟩

theorem HasForm.cleanedWith {r : Request} {charset : Charset} {form : Bytes}
    (h : HasForm r charset form) {t : Transport} (arrives : failure? t.frames = none)
    (cleaned : dataOf t.frames = Form.cleaned charset form) :
    HasForm (cleanedWith t r) charset (Form.cleaned charset form) := by
  refine ⟨h.fresh, h.meets.kind, ⟨t, rfl, arrives, cleaned⟩, h.meets.resolved, ?_⟩
  exact (Form.length_cleaned_le charset form).trans h.meets.within

/-- Two requests have the same parameters: the first access to them builds the same table and the
same files, it comes to the same answer, and so does every question. -/
structure SameParameters (r r' : Request) : Prop where
  answer : (r.ensureParsed none).answer = (r'.ensureParsed none).answer
  parser : (r.ensureParsed none).state.parser = (r'.ensureParsed none).state.parser
  questions : ∀ q : Question, (q.put none r).answer = (q.put none r').answer

theorem sameParameters_of_alike {r r' : Request} (fresh : r.parser.progress = .notStarted)
    (fresh' : r'.parser.progress = .notStarted) (alike : Alike (built r none) (built r' none))
    (ran : (built r none).answer ≠ .abandoned) : SameParameters r r' := by
  have has := hasBuilt_ensureParsed fresh none
  have has' := hasBuilt_ensureParsed fresh' none
  have answer : (r.ensureParsed none).answer = (r'.ensureParsed none).answer :=
    (has.answer.trans alike.answer).trans has'.answer.symm
  have parser : (r.ensureParsed none).state.parser = (r'.ensureParsed none).state.parser := by
    rw [has.parser, has'.parser, if_neg ran, if_neg (alike.answer ▸ ran), alike.table, alike.files]
  refine ⟨answer, parser, fun q => ?_⟩
  rw [put_eq, put_eq]
  simp only [Request.askParser, answer, parser]
  rcases (r'.ensureParsed none).answer with (fault | _) | _ <;> rfl

/-- Skipping what cannot be decoded gives the parameters of the request from whose query and form
the segments that cannot be decoded have been deleted, however the rest is cut into frames; there
is nothing to fail at then but the limit on the number of parameters. If nothing fails in the
request as it is, nothing is skipped. -/
theorem skipping_is_failing_without_what_is_skipped {r : Request} {charset : Charset}
    {form : Bytes} (has : HasForm r charset form) {t : Transport}
    (arrives : failure? t.frames = none)
    (cleaned : dataOf t.frames = Form.cleaned charset form) :
    SameParameters (under .skip r) (under .fail (cleanedWith t r)) ∧
      (((under .skip r).ensureParsed none).answer = .ready (.ok ()) ∨
        ((under .skip r).ensureParsed none).answer = .ready (.error
          (.invalidParameters (.tooManyParameters r.settings.maxParameterCount)))) ∧
      (((under .fail r).ensureParsed none).answer = .ready (.ok ()) →
        SameParameters (under .skip r) (under .fail r)) := by
  have skips := has.under .skip
  have fails := has.under .fail
  have without := (has.cleanedWith arrives cleaned).under .fail
  have built_ := hasBuilt_ensureParsed skips.fresh none
  have answers : (built (under .skip r) none).answer = .ready (.ok ()) ∨
      (built (under .skip r) none).answer = .ready (.error
        (.invalidParameters (.tooManyParameters r.settings.maxParameterCount))) :=
    answer_of_skip rfl skips.meets Table.holds_empty
  have ran : (built (under .skip r) none).answer ≠ .abandoned := by
    rcases answers with ok | tooMany
    · simp [ok]
    · simp [tooMany]
  refine ⟨?_, ?_, fun accepted => ?_⟩
  · refine sameParameters_of_alike skips.fresh without.fresh ?_ ran
    exact alike_building rfl rfl skips.meets without.meets (queryResults_cleaned _)
      (Form.pairs_cleaned ⟨charset, .body⟩ form) rfl rfl
  · rw [built_.answer]
    exact answers
  · rw [(hasBuilt_ensureParsed fails.fresh none).answer] at accepted
    obtain ⟨query, body⟩ := toBool_of_building rfl fails.meets accepted
    refine sameParameters_of_alike skips.fresh fails.fresh ?_ ran
    exact alike_building rfl rfl skips.meets fails.meets (List.filter_eq_self.2 query).symm
      (List.filter_eq_self.2 body).symm rfl rfl

/-- A request of which the query and the form hold segments that cannot be decoded, and one value
too many. -/
def spoiled : Request :=
  Request.receive
    { head :=
        { method := "POST", uri := { path := "/", query := some "a=1&b=%&c=2" }, version := .v11,
          fields := ⟨[("content-type", Bytes.ofText "application/x-www-form-urlencoded")]⟩ },
      transport :=
        { frames := [.data (Bytes.ofText "d=%zz&&e=%f"), .data (Bytes.ofText "f&f=3&f=4")] } }
    { maxParameterCount := 3 } 1

/-- The form without these segments. -/
def unspoiled : Transport :=
  { frames := [.data (Bytes.ofText "&f=3"), .waiting, .data (Bytes.ofText "&f=4")] }

theorem hasForm_spoiled : HasForm spoiled .utf8 (Bytes.ofText "d=%zz&&e=%ff&f=3&f=4") := by
  have kind : BodyKind.of spoiled.head.contentType = .urlEncoded := by decide +kernel
  have resolved : spoiled.encoding.resolve = .ok .utf8 := by decide +kernel
  refine ⟨rfl, kind, ⟨_, rfl, rfl, ?_⟩, resolved, ?_⟩
  · decide +kernel
  · decide +kernel

theorem a_spoiled_request_is_cleaned_by_skipping :
    failure? unspoiled.frames = none ∧
      dataOf unspoiled.frames = Form.cleaned .utf8 (Bytes.ofText "d=%zz&&e=%ff&f=3&f=4") ∧
      SameParameters (under .skip spoiled) (under .fail (cleanedWith unspoiled spoiled)) ∧
      (under .fail (cleanedWith unspoiled spoiled)).head.uri.query = some "a=1&c=2" := by
  have cleaned : dataOf unspoiled.frames =
      Form.cleaned .utf8 (Bytes.ofText "d=%zz&&e=%ff&f=3&f=4") := by decide +kernel
  have same := skipping_is_failing_without_what_is_skipped hasForm_spoiled (t := unspoiled) rfl
    cleaned
  exact ⟨rfl, cleaned, same.1, by decide +kernel⟩

end WebRequest.Handling
