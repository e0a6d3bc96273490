-- The reader of a body as a reader of plain text. Behind the chunks of the body and the state of
-- the decoder stands the text that is still to be handed out; reads take from its front, and no
-- chunk boundary shows. A text with malformed bytes in it can be read up to them.
import WebRequest.Proofs.Body.Drain
import WebRequest.Body.TextReader

namespace WebRequest.Charset

/-! ## Chunks -/

theorem owed_runFrom {c : Charset} {s : Scan} {taken : Nat} {done : List Char} {bytes : Bytes}
    (h : (runFrom c s taken done bytes).wellFormed = true) :
    (runFrom c s taken done bytes).owed = [] := by
  induction bytes generalizing s taken done with
  | nil => rfl
  | cons b bs ih =>
    simp only [runFrom] at h ⊢
    cases hs : step c s b with
    | more text next =>
      simp only [hs] at h ⊢
      exact ih h
    | malformed next owed within =>
      simp only [hs] at h
      split at h <;> cases h

/-- What came before in the chunk does not matter to well-formed input. -/
theorem next_runFrom {c : Charset} {s : Scan} {taken : Nat} {done : List Char} {bytes : Bytes}
    (h : (runFrom c s taken done bytes).wellFormed = true) (taken' : Nat) (done' : List Char) :
    (runFrom c s taken done bytes).next = (runFrom c s taken' done' bytes).next := by
  induction bytes generalizing s taken done taken' done' with
  | nil => rfl
  | cons b bs ih =>
    simp only [runFrom] at h ⊢
    cases hs : step c s b with
    | more text next =>
      simp only [hs] at h ⊢
      exact ih h _ _
    | malformed next owed within =>
      simp only [hs] at h
      split at h <;> cases h

theorem next_run_append {c : Charset} {s : Scan} {a : Bytes} (b : Bytes)
    (first : (run c s a).wellFormed = true) (both : (run c s (a ++ b)).wellFormed = true) :
    (run c s (a ++ b)).next = (run c (run c s a).next b).next := by
  have joined : run c s (a ++ b) =
      runFrom c (run c s a).next (0 + a.length) (run c s a).text.reverse b :=
    runFrom_append b first
  have h : (runFrom c (run c s a).next (0 + a.length) (run c s a).text.reverse b).wellFormed =
      true := by
    rw [← joined]
    exact both
  calc (run c s (a ++ b)).next
      = (runFrom c (run c s a).next (0 + a.length) (run c s a).text.reverse b).next :=
        congrArg Run.next joined
    _ = (run c (run c s a).next b).next := next_runFrom h 0 []

theorem runFrom_append_of_malformed {c : Charset} {s : Scan} {taken : Nat} {done : List Char}
    {a : Bytes} (b : Bytes) (h : (runFrom c s taken done a).wellFormed = false) :
    runFrom c s taken done (a ++ b) = runFrom c s taken done a := by
  induction a generalizing s taken done with
  | nil => cases h
  | cons x xs ih =>
    simp only [List.cons_append, runFrom] at h ⊢
    cases hs : step c s x with
    | more text next =>
      simp only [hs] at h ⊢
      exact ih h
    | malformed next owed within => rfl

/-- The run reads all of the bytes, and no character is incomplete. -/
def Run.isWhole (r : Run) : Bool := r.wellFormed && r.next.pending.isEmpty

theorem isWhole_run_append {c : Charset} {s : Scan} {a : Bytes} (b : Bytes)
    (h : (run c s a).wellFormed = true) :
    (run c s (a ++ b)).isWhole = (run c (run c s a).next b).isWhole := by
  have same := (run_append b h).2
  unfold Run.isWhole
  rw [same]
  rcases hb : (run c (run c s a).next b).wellFormed with _ | _
  · rfl
  · rw [next_run_append b h (same.trans hb)]

theorem decode_eq_some_iff {c : Charset} {bytes : Bytes} {text : String} :
    decode c bytes = some text ↔
      (run c {} bytes).isWhole = true ∧ (run c {} bytes).text = text.toList := by
  unfold decode decodeChars Run.isWhole
  simp only
  by_cases whole : ((run c {} bytes).wellFormed && (run c {} bytes).next.pending.isEmpty) = true
  · simp only [whole, if_true, Option.map_some, Option.some.injEq, true_and]
    constructor
    · rintro rfl
      exact String.toList_ofList.symm
    · intro h
      rw [h, String.ofList_toList]
  · simp [whole]

theorem decode_eq_none_iff {c : Charset} {bytes : Bytes} :
    decode c bytes = none ↔ (run c {} bytes).isWhole = false := by
  unfold decode decodeChars Run.isWhole
  simp only
  by_cases whole : ((run c {} bytes).wellFormed && (run c {} bytes).next.pending.isEmpty) = true
  · simp [whole]
  · simp [whole]

end WebRequest.Charset

namespace WebRequest.Body

/-! ## The text behind a reader -/

/-- The text behind a reader that has these bytes to come: what is pending, and what the bytes
decode to, up to malformed ones. The text is whole if there are none of these. -/
structure Remains (r : TextReader) (bytes : Bytes) (text : List Char) (whole : Bool) : Prop where
  atEnd : r.atEnd = false
  owed : r.decoder.owed = []
  text : r.pending ++ (Charset.run r.charset r.decoder.scan bytes).text = text
  whole : (Charset.run r.charset r.decoder.scan bytes).isWhole = whole

namespace Remains

variable {r : TextReader} {chunk bytes : Bytes} {text : List Char} {whole : Bool}

/-- Decoding a chunk does not change the text. -/
theorem keep (h : Remains r (chunk ++ bytes) text whole)
    (fine : (r.decoder.feed chunk).wellFormed = true) :
    Remains (r.keep (r.decoder.feed chunk)) bytes text whole := by
  have first : (Charset.run r.charset r.decoder.scan chunk).wellFormed = true := fine
  have split := Charset.run_append bytes first
  refine ⟨h.atEnd, Charset.owed_runFrom first, ?_, ?_⟩
  · rw [← h.text, split.1, ← List.append_assoc]
    show r.pending ++ (r.decoder.owed ++ _) ++ _ = _
    rw [h.owed, List.nil_append]
    rfl
  · rw [← h.whole, Charset.isWhole_run_append bytes first]
    rfl

/-- Malformed bytes leave the text incomplete. -/
theorem not_whole (h : Remains r (chunk ++ bytes) text whole)
    (malformed : (r.decoder.feed chunk).wellFormed = false) : whole = false := by
  have first : (Charset.run r.charset r.decoder.scan chunk).wellFormed = false := malformed
  have all : Charset.run r.charset r.decoder.scan (chunk ++ bytes) =
      Charset.run r.charset r.decoder.scan chunk :=
    Charset.runFrom_append_of_malformed bytes first
  rw [← h.whole, all, Charset.Run.isWhole, first]
  rfl

/-- What is taken from the pending text is taken from the front of the text. -/
theorem drop {piece rest : List Char} (h : Remains r bytes text whole)
    (pending : r.pending = piece ++ rest) :
    ∃ left, text = piece ++ left ∧ Remains { r with pending := rest } bytes left whole := by
  refine ⟨rest ++ _, ?_, h.atEnd, h.owed, rfl, h.whole⟩
  rw [← h.text, pending, List.append_assoc]
  rfl

end Remains

/-- The text behind a reader, and whether it is whole: what is pending once the reader has met the
end, or what will be decoded of the bytes to come, if nothing but data arrives. -/
inductive Holds (whole : Bool) (r : TextReader) (c : Cursor) (text : List Char) : Prop
  | ended (atEnd : r.atEnd = true) (all : whole = true) (pending : r.pending = text)
  | exhausted (transport : c.transport = none) (remains : Remains r [] text whole)
  | running {t : Transport} (transport : c.transport = some t) (arrives : failure? t.frames = none)
      (remains : Remains r (dataOf t.frames) text whole)

theorem Holds.drop {whole : Bool} {r : TextReader} {c : Cursor} {text piece rest : List Char}
    (h : Holds whole r c text) (pending : r.pending = piece ++ rest) :
    ∃ left, text = piece ++ left ∧ Holds whole { r with pending := rest } c left := by
  cases h with
  | ended atEnd all same =>
    refine ⟨rest, ?_, .ended atEnd all rfl⟩
    rw [← same, pending]
  | exhausted transport remains =>
    obtain ⟨left, htext, remains'⟩ := remains.drop pending
    exact ⟨left, htext, .exhausted transport remains'⟩
  | running transport arrives remains =>
    obtain ⟨left, htext, remains'⟩ := remains.drop pending
    exact ⟨left, htext, .running transport arrives remains'⟩

/-! ## Feeding -/

/-- How the feeding of a reader ends while nothing but data arrives. -/
inductive Feeds (enough : List Char → Bool) (text : List Char) (whole : Bool) :
    Fed TextReader.Filling → Prop
  | abandoned {f : TextReader.Filling} {rest : List Frame} {read : Nat}
      (arrives : failure? rest = none) (remains : Remains f.reader (dataOf rest) text whole) :
      Feeds enough text whole { state := f, rest, read, ending := .abandoned }
  | enough {r : TextReader} {rest : List Frame} {read : Nat} (full : enough r.pending = true)
      (arrives : failure? rest = none) (remains : Remains r (dataOf rest) text whole) :
      Feeds enough text whole
        { state := { reader := r, wellFormed := true }, rest, read, ending := .enough }
  | malformed {r : TextReader} {rest : List Frame} {read : Nat} (broken : whole = false) :
      Feeds enough text whole
        { state := { reader := r, wellFormed := false }, rest, read, ending := .enough }
  | finished {f : TextReader.Filling} {rest : List Frame} {read : Nat}
      (few : enough f.reader.pending = false) (remains : Remains f.reader [] text whole) :
      Feeds enough text whole { state := f, rest, read, ending := .finished }

variable {enough : List Char → Bool} {text : List Char} {whole : Bool}

theorem feeds_feed {f : TextReader.Filling} {frames : List Frame} (p : Patience) (read : Nat)
    (few : enough f.reader.pending = false) (arrives : failure? frames = none)
    (h : Remains f.reader (dataOf frames) text whole) :
    Feeds enough text whole (feed (TextReader.Filling.add enough) p read f frames) := by
  induction frames generalizing p read f with
  | nil => exact .finished few h
  | cons frame frames ih =>
    cases frame with
    | failure fault => cases arrives
    | trailers => exact ih p read few arrives h
    | waiting =>
      simp only [feed]
      rcases Patience.afterWait p with _ | p'
      · exact .abandoned arrives h
      · exact ih p' read few arrives h
    | data chunk =>
      simp only [feed]
      by_cases empty : chunk.isEmpty = true
      · have hnil : chunk = [] := List.isEmpty_iff.1 empty
        subst hnil
        exact ih p read few arrives h
      · rw [if_neg empty]
        have joined : Remains f.reader (chunk ++ dataOf frames) text whole := h
        simp only [TextReader.Filling.add]
        by_cases fine : (f.reader.decoder.feed chunk).wellFormed = true
        · have kept := joined.keep fine
          simp only [fine, Bool.not_true, Bool.false_or]
          by_cases full : enough (f.reader.keep (f.reader.decoder.feed chunk)).pending = true
          · rw [if_pos full]
            exact .enough full arrives kept
          · rw [if_neg full]
            exact ih p _ (eq_false_of_ne_true full) arrives kept
        · have malformed := eq_false_of_ne_true fine
          simp only [malformed, Bool.not_false, Bool.true_or, if_true]
          exact .malformed (joined.not_whole malformed)

/-! ## Filling -/

/-- How the filling of a reader ends while nothing but data arrives. -/
inductive Fills (enough : List Char → Bool) (text : List Char) (whole : Bool)
    (r : TextReader) (o : Waiting (TextReader × Cursor) Bool) : Prop
  | abandoned (answer : o.answer = .abandoned)
      (holds : Holds whole o.state.1 o.state.2 text)
  | enough (answer : o.answer = .ready (.ok true)) (full : enough o.state.1.pending = true)
      (holds : Holds whole o.state.1 o.state.2 text)
  | ended (answer : o.answer = .ready (.ok false)) (few : enough o.state.1.pending = false)
      (all : whole = true) (pending : o.state.1.pending = text)
      (holds : Holds whole o.state.1 o.state.2 text)
  | malformed (answer : o.answer = .ready (.error r.malformed)) (broken : whole = false)

/-- At the end nothing is owed, and the text is whole unless a character is incomplete. -/
theorem fills_finish {reader r : TextReader} {c : Cursor} {effects : List Effect}
    (few : enough r.pending = false) (remains : Remains r [] text whole) :
    Fills enough text whole reader
      { answer := .ready
          (if r.decoder.finish.wellFormed then .ok false else .error reader.malformed),
        state := ({ r.keep r.decoder.finish with atEnd := true }, c), effects } := by
  have pending : (r.keep r.decoder.finish).pending = r.pending := by
    show r.pending ++ r.decoder.owed = _
    rw [remains.owed, List.append_nil]
  have same : r.pending = text := by
    rw [← remains.text]
    exact (List.append_nil _).symm
  have fine : r.decoder.finish.wellFormed = whole := remains.whole
  rw [fine]
  cases whole with
  | true =>
    refine .ended rfl ?_ rfl (pending.trans same) (.ended rfl rfl (pending.trans same))
    show enough (r.keep r.decoder.finish).pending = false
    rw [pending]
    exact few
  | false => exact .malformed rfl rfl

theorem fills_fill {r : TextReader} {c : Cursor} (p : Patience) (h : Holds whole r c text) :
    Fills enough text whole r (TextReader.fill enough p r c) := by
  unfold TextReader.fill
  by_cases full : enough r.pending = true
  · rw [if_pos full]
    exact .enough rfl full h
  · have few : enough r.pending = false := eq_false_of_ne_true full
    rw [if_neg full]
    cases h with
    | ended atEnd all pending =>
      rw [if_pos atEnd]
      exact .ended rfl few all pending (.ended atEnd all pending)
    | exhausted transport remains =>
      have running : ¬ r.atEnd = true := ne_true_of_eq_false remains.atEnd
      rw [if_neg running]
      simp only [Cursor.feed, transport]
      exact fills_finish few remains
    | @running t transport arrives remains =>
      have fed : Feeds enough text whole
          (feed (TextReader.Filling.add enough) p c.read { reader := r } t.frames) :=
        feeds_feed p c.read few arrives remains
      have running : ¬ r.atEnd = true := ne_true_of_eq_false remains.atEnd
      rw [if_neg running]
      simp only [Cursor.feed, transport]
      generalize feed (TextReader.Filling.add enough) p c.read { reader := r } t.frames = taken
        at fed
      cases fed with
      | abandoned arrives remains => exact .abandoned rfl (.running rfl arrives remains)
      | enough full arrives remains => exact .enough rfl full (.running rfl arrives remains)
      | malformed broken => exact .malformed rfl broken
      | finished few remains => exact fills_finish few remains

/-! ## Reading -/

/-- How a read ends while nothing but data arrives: it is given up, it hands out a piece one way or
the other, or it meets malformed bytes. -/
inductive Pieces {α : Type} (enough : List Char → Bool) (full last : TextReader → α × TextReader)
    (text : List Char) (whole : Bool) (r : TextReader) :
    Waiting (TextReader × Cursor) α → Prop
  | abandoned {r' : TextReader} {c : Cursor} {effects : List Effect}
      (holds : Holds whole r' c text) :
      Pieces enough full last text whole r { answer := .abandoned, state := (r', c), effects }
  | full {r' : TextReader} {c : Cursor} {effects : List Effect} (isFull : enough r'.pending = true)
      (holds : Holds whole r' c text) :
      Pieces enough full last text whole r
        { answer := .ready (.ok (full r').1), state := ((full r').2, c), effects }
  | last {r' : TextReader} {c : Cursor} {effects : List Effect} (few : enough r'.pending = false)
      (all : whole = true) (pending : r'.pending = text) (holds : Holds whole r' c text) :
      Pieces enough full last text whole r
        { answer := .ready (.ok (last r').1), state := ((last r').2, c), effects }
  | malformed {s : TextReader × Cursor} {effects : List Effect} (broken : whole = false) :
      Pieces enough full last text whole r
        { answer := .ready (.error r.malformed), state := s, effects }

theorem pieces_readWith {α : Type} (full last : TextReader → α × TextReader) (p : Patience)
    {r : TextReader} {c : Cursor} (h : Holds whole r c text) :
    Pieces enough full last text whole r (TextReader.readWith enough full last p r c) := by
  have filled : Fills enough text whole r (TextReader.fill enough p r c) := fills_fill p h
  unfold TextReader.readWith
  generalize TextReader.fill enough p r c = o at filled
  obtain ⟨answer, ⟨r', c'⟩, effects⟩ := o
  cases filled with
  | abandoned answer holds =>
    cases answer
    exact .abandoned holds
  | enough answer isFull holds =>
    cases answer
    exact .full isFull holds
  | ended answer few all pending holds =>
    cases answer
    exact .last few all pending holds
  | malformed answer broken =>
    cases answer
    exact .malformed broken

theorem handOut_eq (r : TextReader) :
    r.handOut =
      (if r.pending = [] then none else some (String.ofList r.pending),
        { r with pending := [] }) := by
  unfold TextReader.handOut
  by_cases empty : r.pending = []
  · rw [if_pos (List.isEmpty_iff.2 empty), if_pos empty, ← empty]
  · rw [if_neg (mt List.isEmpty_iff.1 empty), if_neg empty]

theorem exists_handOutLine_eq {r : TextReader} (full : r.pending.contains '\n' = true) :
    ∃ line rest, r.pending = line ++ '\n' :: rest ∧ '\n' ∉ line ∧
      r.handOutLine =
        (some (String.ofList (TextReader.chomp line)), { r with pending := rest }) := by
  rcases hs : Text.splitFirst (· = '\n') r.pending with _ | ⟨line, rest⟩
  · have absent := Text.splitFirst_eq_none.1 hs '\n' (List.contains_iff_mem.1 full)
    simp at absent
  · obtain ⟨none_, x, hx, pending⟩ := Text.splitFirst_eq_some hs
    obtain rfl : x = '\n' := by simpa using hx
    refine ⟨line, rest, pending, ?_, ?_⟩
    · intro hmem
      simpa using none_ '\n' hmem
    · simp only [TextReader.handOutLine, hs]

/-! ## Patience -/

theorem patient_feed {σ : Type} (take : σ → Bytes → σ × Bool) (read : Nat) (s : σ)
    (frames : List Frame) : (feed take none read s frames).ending ≠ .abandoned := by
  induction frames generalizing read s with
  | nil => simp [feed]
  | cons frame frames ih =>
    cases frame with
    | failure fault => simp [feed]
    | trailers => exact ih read s
    | waiting => exact ih read s
    | data chunk =>
      simp only [feed]
      split
      · exact ih read s
      · split
        · simp
        · exact ih _ _

theorem patient_cursor {σ : Type} (take : σ → Bytes → σ × Bool) (s : σ) (c : Cursor) :
    (c.feed take none s).ending ≠ .abandoned := by
  unfold Cursor.feed
  rcases c.transport with _ | t
  · simp
  · have fed := patient_feed take c.read s t.frames
    simp only
    rcases he : (feed take none c.read s t.frames).ending with _ | _ | _ | _
    · simp
    · simp
    · simp
    · exact absurd he fed

theorem patient_fill (enough : List Char → Bool) (r : TextReader) (c : Cursor) :
    (TextReader.fill enough none r c).answer ≠ .abandoned := by
  have fed := patient_cursor (TextReader.Filling.add enough) { reader := r } c
  unfold TextReader.fill
  split
  · simp
  · split
    · simp
    · simp only
      split
      · simp
      · rename_i given
        exact absurd given fed
      · simp
      · simp

theorem patient_readWith {α : Type} (enough : List Char → Bool)
    (full last : TextReader → α × TextReader) (r : TextReader) (c : Cursor) :
    (TextReader.readWith enough full last none r c).answer ≠ .abandoned := by
  have filled := patient_fill enough r c
  unfold TextReader.readWith
  simp only
  split
  · rename_i given
    exact absurd given filled
  · simp
  · simp

end WebRequest.Body
