-- What whoever asks for the parameters gets of the draining of the body. The limit and the bytes
-- decide, and a failure of the transport is always told as a fault of the parameters.
import WebRequest.Proofs.Handling.Access
import WebRequest.Proofs.Parameters.Draining

namespace WebRequest.Handling

open Body Parameters

/-- Whoever asks for the parameters next drains the body under a limit: nobody has asked for them
or touched the body, the query is accepted, and the body is one for the parameters in a charset that
is known. -/
structure IsDrained (r : Request) (limit : Option Nat) (t : Transport) : Prop where
  fresh : r.parser.progress = .notStarted
  untouched : r.body = .untouched t
  accepted : r.parserInput.processed.stop = none
  resolves : ∃ charset, r.encoding.resolve = .ok charset
  taken : ∃ taking, r.parserInput.Takes taking ∧ taking.limit = limit

theorem hasDrained_built {r : Request} {limit : Option Nat} {t : Transport}
    (h : IsDrained r limit t) (p : Patience) :
    HasDrained (built r p) (drain limit p (.untouched t)) := by
  obtain ⟨charset, resolved⟩ := h.resolves
  obtain ⟨taking, takes, rfl⟩ := h.taken
  have unopened : r.body.mode = .unopened := by rw [h.untouched]; rfl
  obtain ⟨access, eq⟩ := building_of_takes
    (b := { access := r.body, encoding := r.encoding.freeze }) Table.holds_empty h.accepted takes
    unopened resolved p
  have drained := hasDrained_draining takes charset p
    (fromQuery r.parserInput { access := r.body, encoding := r.encoding.freeze }).state
  rw [access, h.untouched] at drained
  unfold built
  rw [eq, h.untouched]
  exact ⟨drained.access, drained.abandoned, drained.fault⟩

/-- The drain, for whoever asks for the parameters: the body is left as the drain leaves it, the
access is given up with the drain, and a fault of the drain is the answer to every question. -/
structure TellsOfDrain (r : Request) (p : Patience) (d : Waiting Access Bytes) : Prop where
  body : (r.ensureParsed p).state.body = d.state
  abandoned : (r.ensureParsed p).answer = .abandoned ↔ d.answer = .abandoned
  fault : ∀ f, d.answer = .ready (.error f) → ∀ q : Question,
    (q.put p r).answer = .ready (.error f)

theorem tellsOfDrain {r : Request} {limit : Option Nat} {t : Transport}
    (h : IsDrained r limit t) (p : Patience) :
    TellsOfDrain r p (drain limit p (.untouched t)) := by
  have has := hasBuilt_ensureParsed h.fresh p
  have drained := hasDrained_built h p
  refine ⟨has.body.trans drained.access, ?_, fun f failed q => ?_⟩
  · rw [has.answer]
    exact drained.abandoned
  · have ensured := has.answer.trans (drained.fault f failed)
    rw [put_eq]
    simp only [Request.askParser, ensured]

/-- A failure of the transport as those get it who read the body themselves. -/
inductive OfTransport : RequestFault → Prop
  | io (fault : IoFault) : OfTransport (.io fault)
  | body (detail : String) : OfTransport (.body detail)

theorem not_ofTransport_of_parsing {f : RequestFault} (h : ParsingFault f) : ¬ OfTransport f := by
  intro raw
  rcases h with ⟨g, rfl⟩ | ⟨label, rfl⟩ <;> cases raw

/-- However far the parameters have been built, an access does not fail with a failure of the
transport as such. -/
theorem not_ofTransport_of_put {r : Request} {q : Question} {p : Patience} {f : RequestFault}
    (failed : (q.put p r).answer = .ready (.error f)) : ¬ OfTransport f := by
  rw [put_eq] at failed
  rcases hp : r.parser.progress with _ | _ | _
  · rcases askParser_answer q.answer p r with given | ⟨g, ensured, same⟩ | asked
    · cases given.symm.trans failed
    · cases same.symm.trans failed
      exact not_ofTransport_of_parsing ((firstAccess_ensureParsed hp p).fault f ensured)
    · rw [asked, Awaited.ready.injEq] at failed
      obtain ⟨shape, reason, -, rfl⟩ := answer_error failed
      intro raw
      cases raw
  · rw [askParser_of_error (ensureParsed_of_inProgress hp p)] at failed
    cases failed
    intro raw
    cases raw
  · rw [askParser_of_ok (ensureParsed_of_done hp p), Awaited.ready.injEq] at failed
    obtain ⟨shape, reason, -, rfl⟩ := answer_error failed
    intro raw
    cases raw

/-- The drain of an untouched body comes to what the limit and the bytes say, however they are cut,
and then the body is over. Once there is too much, nothing of what follows is looked at. Whoever
asks for the parameters is told what fails the drain, and nobody who asks for them, in whatever
state the request is, meets a failure of the transport as such. -/
theorem the_drain_depends_on_the_bytes (limit : Option Nat) (p : Patience) (t : Transport) :
    DrainEnds limit p t.frames (drain limit p (.untouched t)) ∧
      (∀ t' : Transport, dataOf t'.frames = dataOf t.frames →
        failure? t'.frames = failure? t.frames →
        (drain limit none (.untouched t')).answer = (drain limit none (.untouched t)).answer) ∧
      (∀ l front rest, limit = some l → t.frames = front ++ rest → l < (dataOf front).length →
        let early := drain limit p (.untouched { t with frames := front })
        (drain limit p (.untouched t)).answer = early.answer ∧
          (early.answer ≠ .abandoned → drain limit p (.untouched t) = early)) ∧
      (∀ r : Request, IsDrained r limit t → TellsOfDrain r p (drain limit p (.untouched t))) ∧
      ∀ (r : Request) (q : Question) (f : RequestFault),
        (q.put p r).answer = .ready (.error f) → ¬ OfTransport f := by
  refine ⟨drainEnds_drain limit p t, fun t' data failure => drain_of_same_data data failure limit,
    ?_, fun r drained => tellsOfDrain drained p, fun r q f => not_ofTransport_of_put⟩
  rintro l front rest rfl cut beyond
  have whole : t = { t with frames := front ++ rest } := by rw [← cut]
  rw [whole]
  exact drain_of_too_much beyond p t rest

/-- A form of five bytes in frames, with a failure behind them. -/
def brokenForm : Transport :=
  { frames := [.data (Bytes.ofText "a="), .waiting, .trailers, .data [],
      .data (Bytes.ofText "1&b"), .failure (.other "gone")] }

/-- A request with this form, under a limit. -/
def limited (maxPostSize : Nat) : Request :=
  Request.receive
    { head :=
        { method := "POST", uri := { path := "/", query := some "q=1" }, version := .v11,
          fields := ⟨[("content-type", Bytes.ofText "application/x-www-form-urlencoded")]⟩ },
      transport := brokenForm }
    { maxPostSize } 1

theorem isDrained_limited (maxPostSize : Nat) :
    IsDrained (limited maxPostSize) (some maxPostSize) brokenForm := by
  have accepted : (process ⟨10000, .fail⟩ [] (queryResults (some "q=1"))).stop = none := by
    decide +kernel
  have kind : BodyKind.of (limited 0).head.contentType = .urlEncoded := by decide +kernel
  refine ⟨rfl, rfl, accepted, ⟨.utf8, ?_⟩, _, .form kind, rfl⟩
  have charset : (limited 0).encoding.resolve = .ok .utf8 := by decide +kernel
  exact charset

/-- A form that is one byte beyond the limit is refused for this, and one that is not is refused for
the failure behind it. -/
theorem a_broken_form_is_refused_at_its_limit :
    (Question.table.put none (limited 4)).answer =
        .ready (.error (.invalidParameters (.bodyTooLarge 4))) ∧
      (Question.table.put none (limited 5)).answer =
        .ready (.error (.invalidParameters (.io { kind := .other, detail := some "gone" }))) := by
  have told := fun limit => (the_drain_depends_on_the_bytes (some limit) none brokenForm).2.2.2.1
    (limited limit) (isDrained_limited limit)
  exact ⟨(told 4).fault _ (by decide +kernel) .table, (told 5).fault _ (by decide +kernel) .table⟩

end WebRequest.Handling
