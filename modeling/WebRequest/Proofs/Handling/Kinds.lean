-- The kinds of bodies that an access to the parameters can take. It takes forms alone, but it tells
-- them by an essence without the suffix, and so takes for a form what would be one but for the
-- suffix. A body of any other kind stays as it came until its handler opens it.
import WebRequest.Proofs.Handling.Consumption
import WebRequest.Proofs.MediaType

namespace WebRequest.Handling

open Body Parameters

/-! ## Bodies that are taken -/

theorem kind_ne_other_of_takes {i : Input} {t : Taking} (takes : i.Takes t) : i.kind ≠ .other := by
  cases takes with
  | form kind => simp [kind]
  | parts kind _ => simp [kind]

theorem body_ensureParsed_of_foreign {r : Request} (foreign : ∀ t, ¬ r.parserInput.Takes t)
    (fresh : r.parser.progress = .notStarted) (p : Patience) :
    (r.ensureParsed p).state.body = r.body := by
  by_cases unopened : r.body.mode = .unopened
  · have present : r.body.mode ≠ .consumed := by simp [unopened]
    obtain ⟨consumes, left⟩ := (builtAs_built r p).consumes_iff present
    rw [(hasBuilt_ensureParsed fresh p).body]
    apply left
    intro consumed
    obtain ⟨-, -, -, t, takes⟩ := consumes.1 consumed
    exact foreign t takes
  · exact body_ensureParsed fresh p unopened

/-- What drains a body is an access to the parameters, and the body is one for them. -/
theorem Change.takes {u u' : InUse} {op : Operation} {a : Answer} (changed : Change u op a u')
    (present : u.body.mode ≠ .consumed) (consumed : u'.body.mode = .consumed) :
    (∃ q p, op = .access q p) ∧ ∃ t, u.request.parserInput.Takes t := by
  cases changed with
  | @parsed q p fresh =>
    refine ⟨⟨q, p, rfl⟩, ?_⟩
    by_contra foreign
    have same := body_ensureParsed_of_foreign (not_exists.1 foreign) fresh p
    exact present ((congrArg Access.mode same).symm.trans consumed)
  | streamOpened closed => cases consumed
  | readerOpened closed _ => cases consumed
  | textRead given mode => cases consumed
  | aside r apart _ => exact absurd ((congrArg Access.mode apart.body).symm.trans consumed) present
  | _ => exact absurd consumed present

theorem Change.body_of_foreign {u u' : InUse} {q : Question} {p : Patience} {a : Answer}
    (changed : Change u (.access q p) a u') (foreign : ∀ t, ¬ u.request.parserInput.Takes t) :
    u'.body = u.body := by
  cases changed with
  | parsed fresh => exact body_ensureParsed_of_foreign foreign fresh p
  | answered _ => rfl
  | interrupted _ => rfl
  | aside r _ elsewhere => cases elsewhere

/-- What is built of a request in a run is decided by what was received. -/
theorem input_of_mem_history {a : Request.Arrival} {s : Settings} {id : Nat}
    {ops : List Operation} {m : Moment} (h : m ∈ history (.received a s id) ops) :
    m.before.request.parserInput = (Request.receive a s id).parserInput := by
  obtain ⟨es, -, -, hbefore⟩ := Runs.exists_of_mem_history h
  rw [hbefore]
  exact input_after _ es

theorem unconsumed_of_foreign {a : Request.Arrival} {s : Settings} {id : Nat}
    (foreign : ∀ t, ¬ (Request.receive a s id).parserInput.Takes t) (ops : List Operation) :
    (after (.received a s id) ops).body.mode ≠ .consumed := by
  have both : (∀ t, ¬ (after (.received a s id) ops).request.parserInput.Takes t) ∧
      (after (.received a s id) ops).body.mode ≠ .consumed := by
    refine Runs.after_induction
      (P := fun u : InUse => (∀ t, ¬ u.request.parserInput.Takes t) ∧ u.body.mode ≠ .consumed)
      ⟨foreign, by simp [InUse.body, InUse.received, Request.receive, Access.untouched]⟩ ?_ ops
    rintro u op ⟨foreign', present⟩
    have changed := changed_perform u op
    refine ⟨?_, fun consumed => ?_⟩
    · rw [changed.input]
      exact foreign'
    · obtain ⟨-, t, takes⟩ := changed.takes present consumed
      exact foreign' t takes
  exact both.2

/-! ## Reading an untouched body -/

/-- A body that has been neither drained nor opened is as it came. -/
theorem untouched_of_no_handles {a : Request.Arrival} {s : Settings} {id : Nat}
    {ops : List Operation} (present : (after (.received a s id) ops).body.mode ≠ .consumed)
    (streams : (after (.received a s id) ops).streams = 0)
    (readers : (after (.received a s id) ops).readers = 0) :
    (after (.received a s id) ops).body = .untouched a.transport := by
  have exclusive : Exclusive (after (.received a s id) ops) :=
    exclusive_after (exclusive_received a s id) ops
  have unopened : (after (.received a s id) ops).body.mode = .unopened := by
    have stream := mt exclusive.streams.2 (Nat.not_lt.2 (Nat.le_of_eq streams))
    have text := mt exclusive.readers.2 (Nat.not_lt.2 (Nat.le_of_eq readers))
    rcases hm : (after (.received a s id) ops).body.mode with _ | _ | _ | reader
    · rfl
    · exact absurd hm present
    · exact absurd hm stream
    · exact absurd ⟨reader, hm⟩ text
  have cursor := cursor_of_unopened a s id ops unopened
  generalize (after (.received a s id) ops).body = body at unopened cursor ⊢
  cases body
  cases unopened
  cases cursor
  rfl

theorem rest_of_holds {r : TextReader} {c : Cursor} {text : List Char} (h : Holds true r c text) :
    (TextCall.rest.read none r c).answer = .ready (.ok (some (String.ofList text))) := by
  have reads := readsOrFails_read .rest none h
  have patient := patient_read .rest r c
  generalize TextCall.rest.read none r c = o at reads patient ⊢
  rcases reads with ⟨takes, -⟩ | ⟨-, ends, -⟩ | ⟨broken, -⟩
  · generalize hreading : Reading.mk .rest o.answer = reading at takes
    cases takes with
    | givenUp => exact absurd (Reading.mk.inj hreading).2 patient
    | _ => cases hreading
  · generalize hreading : Reading.mk .rest o.answer = reading at ends
    cases ends with
    | rest => exact (Reading.mk.inj hreading).2
    | _ => cases hreading
  · cases broken

/-- Whoever opens an untouched body as text gets all of its text. -/
theorem text_of_unopened {u : InUse} {t : Transport} {charset : Charset} {text : String}
    (untouched : u.body = .untouched t) (resolved : u.encoding.resolve = .ok charset)
    (arrives : failure? t.frames = none)
    (decoded : Charset.decode charset (dataOf t.frames) = some text) :
    (perform (perform u .openReader).state (.readText u.readers .rest none)).answer =
      .text (.ready (.ok (some text))) := by
  have unopened : u.body.mode = .unopened := by rw [untouched]; rfl
  have cursor : u.body.cursor = .start t := by rw [untouched]; rfl
  obtain ⟨answer, body⟩ := openReader_of_unopened unopened resolved
  have given : u.readers < (perform u .openReader).state.readers := by
    rcases (changed_perform u .openReader).readers with ⟨more, -⟩ | ⟨-, none_⟩
    · omega
    · exact absurd ⟨rfl, _, answer⟩ none_
  have holds : Holds _ (.start charset) (.start t) _ := holds_start arrives
  obtain ⟨whole, same⟩ := Charset.decode_eq_some_iff.1 decoded
  rw [whole, same, ← cursor] at holds
  have read := change_readText (perform u .openReader).state u.readers .rest none
  generalize (perform u .openReader).state = v at body given read
  generalize (perform v (.readText u.readers .rest none)).state = v' at read
  generalize (perform v (.readText u.readers .rest none)).answer = a at read ⊢
  cases read with
  | textRead _ mode =>
    rw [body] at mode ⊢
    cases mode
    rw [rest_of_holds holds, String.ofList_toList]
  | nothingToRead _ none_ =>
    rw [Access.reader?, body] at none_
    cases none_
  | noReader missing => exact absurd given (Nat.not_lt.2 missing)
  | aside r _ elsewhere => cases elsewhere

/-! ## Whole runs -/

/-- Whatever is done with a request: if an access to its parameters takes the body, then the request
has a media type, and its essence is that of a form, or would be but for a suffix; without a suffix
it is that of a form. Any other body is left as it is by every access, and until its handler opens
it, all of it can be read, as bytes or as text. -/
theorem only_forms_are_taken_up_to_a_suffix (a : Request.Arrival) (s : Settings) (id : Nat)
    (ops : List Operation) :
    let content := a.head.contentType
    let moments := history (.received a s id) ops
    let u := after (.received a s id) ops
    let body := a.transport.frames
    (∀ m ∈ moments, m.before.body.mode ≠ .consumed → m.next.body.mode = .consumed →
      (∃ q p, m.event = .access q p) ∧ IsForm content) ∧
    (∀ type, content = some type → type.suffix = none →
      (IsForm content ↔ type.essence ∈ forms)) ∧
    (¬ IsForm content →
      (∀ m ∈ moments, ∀ q p, m.event = .access q p → m.next.body = m.before.body) ∧
      (u.streams = 0 → u.readers = 0 →
        u.body = .untouched a.transport ∧
        (perform (perform u .openStream).state (.readStream 0 .rest none)).answer =
          .bytes (.ready ((wholeOf none body).map some)) ∧
        ∀ charset text, u.encoding.resolve = .ok charset → failure? body = none →
          Charset.decode charset (dataOf body) = some text →
          (perform (perform u .openReader).state (.readText 0 .rest none)).answer =
            .text (.ready (.ok (some text))))) := by
  intro content moments u body
  have foreign (other : ¬ IsForm content) (t : Taking) :
      ¬ (Request.receive a s id).parserInput.Takes t :=
    fun takes => other (kind_ne_other_iff.1 (kind_ne_other_of_takes takes))
  refine ⟨?_, ?_, fun other => ⟨?_, ?_⟩⟩
  · intro m hm present consumed
    obtain ⟨access, t, takes⟩ := (changed_perform m.before m.event).takes present consumed
    rw [input_of_mem_history hm] at takes
    exact ⟨access, kind_ne_other_iff.1 (kind_ne_other_of_takes takes)⟩
  · intro type htype suffix
    rw [htype]
    exact isForm_iff_of_no_suffix suffix
  · intro m hm q p event
    have changed := changed_perform m.before m.event
    rw [event] at changed
    have same := changed.body_of_foreign (input_of_mem_history hm ▸ foreign other)
    rw [Runs.Moment.next, Runs.Moment.outcome, event, same]
  · intro streams readers
    have untouched : u.body = .untouched a.transport :=
      untouched_of_no_handles (unconsumed_of_foreign (foreign other) ops) streams readers
    have closed : Closed u.body.mode := by
      rw [untouched]
      exact .inl rfl
    refine ⟨untouched, ?_, ?_⟩
    · have left : u.body.cursor.transport = some a.transport := by
        rw [untouched]
        rfl
      have rest := rest_of_closed closed left
      rw [streams] at rest
      exact rest
    · intro charset text resolved arrives decoded
      have rest := text_of_unopened untouched resolved arrives decoded
      rw [readers] at rest
      exact rest

/-- A body whose media type would be that of a form but for its suffix. -/
def suffixedForm : Request.Arrival :=
  { head :=
      { method := "POST", uri := { path := "/" }, version := .v11,
        fields :=
          ⟨[("content-type", Bytes.ofText "application/x-www-form-urlencoded+json")]⟩ },
    transport := { frames := [.data (Bytes.ofText "a=1")], endKnown := true } }

/-- A suffix does not save a body from being taken. -/
theorem a_form_with_a_suffix_is_taken :
    let u := after (.received suffixedForm {} 1) [.access .nothing none]
    (suffixedForm.head.contentType.map MediaType.essence =
        some "application/x-www-form-urlencoded+json" ∧
      "application/x-www-form-urlencoded+json" ∉ forms) ∧
    u.body.mode = .consumed ∧
      (perform (perform u .openStream).state (.readStream 0 .rest none)).answer =
        .bytes (.ready (.ok (some []))) := by
  intro u
  have consumed : u.body.mode = .consumed := by decide +kernel
  have cursor : u.body.cursor = { transport := none, read := 3 } := by decide +kernel
  have streams : u.streams = 0 := by decide +kernel
  have rest := read_of_closed (.inr consumed) .rest none
  rw [streams, cursor] at rest
  exact ⟨⟨by decide +kernel, by decide⟩, consumed, rest⟩

end WebRequest.Handling
