-- Draining a body for the parameters. What comes of it is a function of the data before the first
-- failure, of that failure and of the limit: the data, too much of them, or the failure told as one
-- of the parameters. A body of which too much has arrived is refused at once, whatever would
-- follow; and in every case it is over.
import WebRequest.Proofs.Parameters.Taking

namespace WebRequest.Parameters

open Body

/-! ## What a body delivers -/

/-- A size is within a limit, if there is one. -/
def Within (limit : Option Nat) (size : Nat) : Prop := ∀ l, limit = some l → size ≤ l

/-- What is delivered to the parameters under a limit: all data, or the fault that is told instead.
Too many data are refused before a failure that comes behind them is met. -/
inductive Delivers (limit : Option Nat) (frames : List Frame) : Except RequestFault Bytes → Prop
  | whole (arrives : failure? frames = none) (within : Within limit (dataOf frames).length) :
      Delivers limit frames (.ok (dataOf frames))
  | tooLarge {l : Nat} (limited : limit = some l) (beyond : l < (dataOf frames).length) :
      Delivers limit frames (.error (.invalidParameters (.bodyTooLarge l)))
  | broken {fault : IoFault} (fails : failure? frames = some (.io fault))
      (within : Within limit (dataOf frames).length) :
      Delivers limit frames (.error (.invalidParameters (.io fault)))
  | failed {detail : String} (fails : failure? frames = some (.other detail))
      (within : Within limit (dataOf frames).length) :
      Delivers limit frames
        (.error (.invalidParameters (.io { kind := .other, detail := some detail })))

theorem within_iff {limit : Option Nat} {size : Nat} :
    Within limit size ↔ ¬exceeds limit size = true := by
  rw [exceeds_iff, not_exists]
  simp only [Within, not_and, Nat.not_lt]

theorem delivers_wholeOf (limit : Option Nat) (frames : List Frame) :
    Delivers limit frames ((wholeOf limit frames).mapError RequestFault.whileDraining) := by
  unfold wholeOf
  by_cases beyond : exceeds limit (dataOf frames).length = true
  · obtain ⟨l, rfl, more⟩ := exceeds_iff.1 beyond
    rw [if_pos beyond]
    exact .tooLarge rfl more
  · have within := within_iff.2 beyond
    rw [if_neg beyond]
    rcases hf : failure? frames with _ | fault
    · exact .whole hf within
    · cases fault with
      | io fault => exact .broken hf within
      | other detail => exact .failed hf within

/-! ## Draining -/

/-- Drains a body: what goes wrong is told as a fault of the parameters. -/
def drain (limit : Option Nat) (p : Patience) (a : Access) : Waiting Access Bytes :=
  (a.consume limit p).map fun answer => answer.map (·.mapError RequestFault.whileDraining)

theorem drain_untouched (limit : Option Nat) (p : Patience) (t : Transport) :
    drain limit p (.untouched t) =
      let whole := Cursor.readToEnd limit p (.start t)
      { answer := whole.answer.map (·.mapError RequestFault.whileDraining),
        state := { mode := .consumed, cursor := whole.state }, effects := whole.effects } := rfl

/-- The building goes on with what has been drained, and fails with what failed the drain. -/
theorem draining_eq (limit : Option Nat) (p : Patience) (next : Bytes → Stage) (b : Building) :
    draining limit p next b =
      let drained := drain limit p b.access
      let behind := { b with access := drained.state }
      match drained.answer with
      | .abandoned => { answer := .abandoned, state := behind, effects := drained.effects }
      | .ready (.error f) =>
        { answer := .ready (.error f), state := behind, effects := drained.effects }
      | .ready (.ok bytes) => (next bytes behind).after drained.effects := by
  unfold draining drain
  simp only [Outcome.map]
  rcases (b.access.consume limit p).answer with (f | bytes) | _ <;> rfl

/-- How the draining of a body ends: it is given up, which takes someone who does not wait without
end, or it comes to what the body delivers, and then the body is over. -/
inductive DrainEnds (limit : Option Nat) (p : Patience) (frames : List Frame)
    (o : Waiting Access Bytes) : Prop
  | givenUp (bounded : p ≠ none) (answer : o.answer = .abandoned)
  | ran {result : Except RequestFault Bytes} (delivers : Delivers limit frames result)
      (answer : o.answer = .ready result) (mode : o.state.mode = .consumed)
      (finished : o.state.cursor.isFinished = true)
      (nothing : ∀ p', (o.state.cursor.nextChunk p').answer = .ready (.ok none))

theorem answer_drain (limit : Option Nat) (t : Transport) :
    (drain limit none (.untouched t)).answer =
      .ready ((wholeOf limit t.frames).mapError RequestFault.whileDraining) := by
  rw [drain_untouched]
  simp only [Cursor.readToEnd_start, Awaited.map]

/-- How the data are cut into frames makes no difference, and neither does what stands between
them. -/
theorem drain_of_same_data {t t' : Transport} (data : dataOf t'.frames = dataOf t.frames)
    (failure : failure? t'.frames = failure? t.frames) (limit : Option Nat) :
    (drain limit none (.untouched t')).answer = (drain limit none (.untouched t)).answer := by
  rw [answer_drain, answer_drain, wholeOf, wholeOf, data, failure]

theorem drainEnds_drain (limit : Option Nat) (p : Patience) (t : Transport) :
    DrainEnds limit p t.frames (drain limit p (.untouched t)) := by
  have whole := Cursor.readToEnd_start limit t
  rw [drain_untouched]
  rcases Cursor.readToEnd_of_patient limit p (.start t) with given | same
  · refine .givenUp ?_ ?_
    · rintro rfl
      cases whole.symm.trans given
    · simp only [given, Awaited.map]
  · rw [← same] at whole
    have gone : (Cursor.readToEnd limit p (.start t)).state.transport = none := by
      apply Cursor.transport_readToEnd
      rw [whole]
      simp
    refine .ran (delivers_wholeOf limit t.frames) ?_ rfl ?_ ?_
    · simp only [whole, Awaited.map]
    · simp [Cursor.isFinished, gone]
    · intro p'
      simp [Cursor.nextChunk, Cursor.feed, gone]

/-- Once too much has arrived, it makes no difference what follows. -/
theorem drain_of_too_much {l : Nat} {front : List Frame} (beyond : l < (dataOf front).length)
    (p : Patience) (t : Transport) (rest : List Frame) :
    let early := drain (some l) p (.untouched { t with frames := front })
    let late := drain (some l) p (.untouched { t with frames := front ++ rest })
    late.answer = early.answer ∧ (early.answer ≠ .abandoned → late = early) := by
  obtain ⟨answer, same⟩ := Cursor.readToEnd_of_too_much beyond p t rest
  simp only [drain_untouched]
  refine ⟨by rw [answer], fun ran => ?_⟩
  rw [same]
  intro given
  rw [given] at ran
  exact ran rfl

/-- Behind a query that is accepted, a body that is taken is drained. -/
theorem building_of_takes {i : Input} {b : Building} (h : b.table.Holds [])
    (accepted : i.processed.stop = none) {t : Taking} (takes : i.Takes t)
    (unopened : b.access.mode = .unopened) {charset : Charset}
    (resolved : b.encoding.resolve = .ok charset) (p : Patience) :
    (fromQuery i b).state.access = b.access ∧
      building i p b =
        (draining t.limit p (t.next charset) (fromQuery i b).state).after
          (fromQuery i b).effects := by
  obtain ⟨comes, access, encoding⟩ := comes_fromQuery i h
  have answer : (fromQuery i b).answer = .ready (.ok ()) := by
    rw [comes.answer]
    exact congrArg _ (Processed.answer_of_accepted accepted)
  refine ⟨access, ?_⟩
  unfold building Stage.andThen
  simp only [answer]
  congr 1
  have body := ofBody_fromBody i p (fromQuery i b).state
  generalize fromBody i p (fromQuery i b).state = o at body ⊢
  cases body with
  | left leaves _ =>
    rw [access, encoding] at leaves
    exact absurd leaves (not_leaves takes unopened resolved)
  | taken takes' _ resolved' =>
    rw [encoding] at resolved'
    cases resolved.symm.trans resolved'
    obtain rfl := takes.unique takes'
    rfl

/-- What the building has of the draining of the body. -/
structure HasDrained (o : Waiting Building Unit) (d : Waiting Access Bytes) : Prop where
  access : o.state.access = d.state
  abandoned : o.answer = .abandoned ↔ d.answer = .abandoned
  fault : ∀ f, d.answer = .ready (.error f) → o.answer = .ready (.error f)

theorem hasDrained_draining {i : Input} {t : Taking} (takes : i.Takes t) (charset : Charset)
    (p : Patience) (b : Building) :
    HasDrained (draining t.limit p (t.next charset) b) (drain t.limit p b.access) := by
  rw [draining_eq]
  generalize drain t.limit p b.access = drained
  obtain ⟨(f | bytes) | _, state, effects⟩ := drained
  · refine ⟨rfl, by simp, ?_⟩
    intro g hg
    cases hg
    rfl
  · have kept := kept_next takes charset bytes { b with access := state }
    refine ⟨kept.access, iff_of_false kept.ran (by simp), ?_⟩
    intro g hg
    cases hg
  · refine ⟨rfl, by simp, ?_⟩
    intro g hg
    cases hg

end WebRequest.Parameters
