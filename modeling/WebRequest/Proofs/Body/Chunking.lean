-- How a body is cut into chunks, and what of that shows in its text. A chunk with malformed bytes
-- fails one read, and what is behind those bytes in the chunk is lost. So two cuts of the same
-- bytes read alike as long as nothing fails; they read alike throughout exactly if they come to the
-- same text with the same number of lines before each failure.
import WebRequest.Proofs.Body.Interrupted
import WebRequest.Proofs.Body.PlainText

namespace WebRequest.Body

open Interrupted

/-! ## What arrives -/

/-- The text that a decoder makes of frames. For a chunk with malformed bytes a failure comes first,
and then the text before those bytes; what is behind them in the chunk is lost. -/
def delivered (d : Charset.Decoder) : List Frame → Interrupted
  | [] =>
    let e := d.finish
    if e.wellFormed then { text := e.text, first := 0 } else (plain e.text).broken
  | .data bytes :: rest =>
    if bytes.isEmpty then delivered d rest
    else
      let e := d.feed bytes
      let onward := (delivered e.decoder rest).behind e.text
      if e.wellFormed then onward else onward.broken
  | .failure _ :: _ => plain []
  | _ :: rest => delivered d rest

/-- The frames that are still to come. -/
def Cursor.frames (c : Cursor) : List Frame :=
  match c.transport with
  | none => []
  | some t => t.frames

/-- The text that a reader has not decoded yet. -/
def beyond (r : TextReader) (c : Cursor) : Interrupted :=
  if r.atEnd then plain [] else delivered r.decoder c.frames

/-- The text that is ahead of a reader. -/
def ahead (r : TextReader) (c : Cursor) : Interrupted := (beyond r c).behind r.pending

theorem ahead_running {r : TextReader} (h : r.atEnd = false) (c : Cursor) :
    ahead r c = (delivered r.decoder c.frames).behind r.pending := by
  rw [ahead, beyond, if_neg (ne_true_of_eq_false h)]

theorem ahead_atEnd {r : TextReader} (h : r.atEnd = true) (c : Cursor) :
    ahead r c = plain r.pending := by
  rw [ahead, beyond, if_pos h, behind_plain, List.append_nil]

theorem proper_delivered (d : Charset.Decoder) (frames : List Frame) :
    (delivered d frames).Proper := by
  induction frames generalizing d with
  | nil =>
    simp only [delivered]
    split
    · simp [Proper]
    · exact (proper_plain _).broken
  | cons frame frames ih =>
    cases frame with
    | data bytes =>
      simp only [delivered]
      split
      · exact ih d
      · split
        · exact (ih _).behind _
        · exact ((ih _).behind _).broken
    | trailers => exact ih d
    | waiting => exact ih d
    | failure fault => exact proper_plain []

/-! ## Feeding -/

variable {enough : List Char → Bool} {whole : Interrupted} {fault : RequestFault}

/-- The reader has not met the end, and this is what it says of malformed bytes. -/
structure Runs (fault : RequestFault) (r : TextReader) : Prop where
  running : r.atEnd = false
  malformed : r.malformed = fault

/-- How the feeding of a reader ends that has this text ahead: it has enough, it meets malformed
bytes before it has enough, or no frames are left. -/
inductive Gets (enough : List Char → Bool) (whole : Interrupted) (fault : RequestFault) :
    Fed TextReader.Filling → Prop
  | enough {r : TextReader} {rest : List Frame} {read : Nat} (full : enough r.pending = true)
      (runs : Runs fault r) (arrives : failure? rest = none)
      (same : whole = (delivered r.decoder rest).behind r.pending) :
      Gets enough whole fault
        { state := { reader := r, wellFormed := true }, rest, read, ending := .enough }
  | malformed {r : TextReader} {rest : List Frame} {read : Nat} {before text : List Char}
      (few : enough before = false) (pending : r.pending = before ++ text)
      (runs : Runs fault r) (arrives : failure? rest = none)
      (same : whole = ((delivered r.decoder rest).behind text).broken.behind before) :
      Gets enough whole fault
        { state := { reader := r, wellFormed := false }, rest, read, ending := .enough }
  | finished {f : TextReader.Filling} {rest : List Frame} {read : Nat}
      (few : enough f.reader.pending = false) (runs : Runs fault f.reader)
      (same : whole = (delivered f.reader.decoder []).behind f.reader.pending) :
      Gets enough whole fault { state := f, rest, read, ending := .finished }

theorem gets_feed {f : TextReader.Filling} {frames : List Frame} (read : Nat)
    (few : enough f.reader.pending = false) (runs : Runs fault f.reader)
    (arrives : failure? frames = none) :
    Gets enough ((delivered f.reader.decoder frames).behind f.reader.pending) fault
      (feed (TextReader.Filling.add enough) none read f frames) := by
  induction frames generalizing read f with
  | nil => exact .finished few runs rfl
  | cons frame frames ih =>
    cases frame with
    | failure fault => cases arrives
    | trailers => exact ih read few runs arrives
    | waiting => exact ih read few runs arrives
    | data chunk =>
      have kept : Runs fault (f.reader.keep (f.reader.decoder.feed chunk)) :=
        ⟨runs.running, runs.malformed⟩
      simp only [feed, delivered]
      by_cases empty : chunk.isEmpty = true
      · rw [if_pos empty, if_pos empty]
        exact ih read few runs arrives
      · rw [if_neg empty, if_neg empty]
        simp only [TextReader.Filling.add]
        by_cases fine : (f.reader.decoder.feed chunk).wellFormed = true
        · simp only [fine, Bool.not_true, Bool.false_or, if_true]
          rw [behind_behind]
          by_cases full : enough (f.reader.keep (f.reader.decoder.feed chunk)).pending = true
          · rw [if_pos full]
            exact .enough full kept arrives rfl
          · rw [if_neg full]
            exact ih (f := { reader := f.reader.keep (f.reader.decoder.feed chunk) }) _
              (eq_false_of_ne_true full) kept arrives
        · have malformed := eq_false_of_ne_true fine
          simp only [malformed, Bool.not_false, Bool.true_or, if_true, Bool.false_eq_true, if_false]
          exact .malformed few rfl kept arrives rfl

/-! ## Filling -/

/-- How the filling of a reader ends that has this text ahead. -/
inductive Filled (enough : List Char → Bool) (whole : Interrupted) (fault : RequestFault) :
    Waiting (TextReader × Cursor) Bool → Prop
  | enough {r : TextReader} {c : Cursor} {effects : List Effect} (full : enough r.pending = true)
      (tells : r.malformed = fault) (arrives : failure? c.frames = none)
      (same : whole = ahead r c) :
      Filled enough whole fault { answer := .ready (.ok true), state := (r, c), effects }
  | malformed {r : TextReader} {c : Cursor} {effects : List Effect} {before : List Char}
      {left : Interrupted} (few : enough before = false) (tells : r.malformed = fault)
      (arrives : failure? c.frames = none) (same : whole = left.broken.behind before)
      (onward : ahead r c = left.behind before) :
      Filled enough whole fault { answer := .ready (.error fault), state := (r, c), effects }
  | ended {r : TextReader} {c : Cursor} {effects : List Effect} {before : List Char}
      (few : enough before = false) (tells : r.malformed = fault)
      (arrives : failure? c.frames = none) (atEnd : r.atEnd = true)
      (same : whole = { text := r.pending, first := before.count '\n' }) :
      Filled enough whole fault { answer := .ready (.ok false), state := (r, c), effects }

/-- The end of the frames fails a reader in the middle of a character. -/
theorem filled_finish {reader r : TextReader} {c : Cursor} {effects : List Effect}
    (few : enough r.pending = false) (runs : Runs fault r) (tells : reader.malformed = fault)
    (drained : c.transport = none) :
    Filled enough ((delivered r.decoder []).behind r.pending) fault
      { answer := .ready
          (if r.decoder.finish.wellFormed then .ok false else .error reader.malformed),
        state := ({ r.keep r.decoder.finish with atEnd := true }, c), effects } := by
  have arrives : failure? c.frames = none := by
    rw [Cursor.frames, drained]
    rfl
  rw [delivered]
  by_cases fine : r.decoder.finish.wellFormed = true
  · simp only [fine, if_true]
    exact .ended few runs.malformed arrives rfl rfl
  · simp only [fine, Bool.false_eq_true, if_false]
    rw [tells]
    refine .malformed few runs.malformed arrives rfl ?_
    rw [ahead_atEnd rfl, behind_plain]
    rfl

theorem filled_fill {r : TextReader} {c : Cursor} (tells : r.malformed = fault)
    (arrives : failure? c.frames = none) :
    Filled enough (ahead r c) fault (TextReader.fill enough none r c) := by
  unfold TextReader.fill
  by_cases full : enough r.pending = true
  · rw [if_pos full]
    exact .enough full tells arrives rfl
  · have few : enough r.pending = false := eq_false_of_ne_true full
    rw [if_neg full]
    by_cases atEnd : r.atEnd = true
    · rw [if_pos atEnd, ahead_atEnd atEnd]
      exact .ended few tells arrives atEnd rfl
    · have running := eq_false_of_ne_true atEnd
      rw [if_neg atEnd, ahead_running running]
      rcases ht : c.transport with _ | t
      · have none_ : c.frames = [] := by rw [Cursor.frames, ht]
        simp only [Cursor.feed, ht, none_]
        exact filled_finish few ⟨running, tells⟩ tells ht
      · have all : c.frames = t.frames := by rw [Cursor.frames, ht]
        rw [all] at arrives ⊢
        have fed : Gets enough ((delivered r.decoder t.frames).behind r.pending) fault
            (feed (TextReader.Filling.add enough) none c.read { reader := r } t.frames) :=
          gets_feed (f := { reader := r }) c.read few ⟨running, tells⟩ arrives
        simp only [Cursor.feed, ht]
        generalize feed (TextReader.Filling.add enough) none c.read { reader := r } t.frames =
          taken at fed
        cases fed with
        | enough full runs arrives same =>
          refine .enough full runs.malformed arrives ?_
          rw [ahead_running runs.running, same]
          rfl
        | malformed few pending runs arrives same =>
          rw [tells]
          refine .malformed few runs.malformed arrives same ?_
          rw [ahead_running runs.running, pending, ← behind_behind]
          rfl
        | finished few runs same =>
          rw [same]
          exact filled_finish few runs tells rfl

/-! ## Reading -/

/-- A read of a text, by whoever waits without end. -/
def Portion.of (r : TextReader) (c : Cursor) :
    Portion → Waiting (TextReader × Cursor) (Option String)
  | .line => r.readLine none c
  | .rest => (r.readRest none c).map fun answer => answer.map fun text => text.map some

/-- The answers of reads that follow one another. -/
def answers (r : TextReader) (c : Cursor) :
    List Portion → List (Awaited (Except RequestFault (Option String)))
  | [] => []
  | p :: ps =>
    let o := Portion.of r c p
    o.answer :: answers o.state.1 o.state.2 ps

/-- What a read answers and leaves is what the text ahead answers and leaves. -/
structure Answers (o : Waiting (TextReader × Cursor) (Option String)) (fault : RequestFault)
    (served : Except RequestFault (Option String) × Interrupted) : Prop where
  answer : o.answer = .ready served.1
  onward : ahead o.state.1 o.state.2 = served.2
  arrives : failure? o.state.2.frames = none
  tells : o.state.1.malformed = fault

/-- The first line that is pending is read; what was not decoded yet does not matter. -/
theorem answers_pending {r : TextReader} {c : Cursor} {effects : List Effect}
    (full : r.pending.contains '\n' = true) (tells : r.malformed = fault)
    (arrives : failure? c.frames = none) :
    Answers { answer := .ready (.ok r.handOutLine.1), state := (r.handOutLine.2, c), effects }
      fault ((ahead r c).read fault .line) := by
  obtain ⟨line, rest, pending, one, handed⟩ := exists_handOutLine_eq full
  have text : (ahead r c).text = line ++ '\n' :: (rest ++ (beyond r c).text) := by
    simp [ahead, behind, pending]
  have first : (ahead r c).first = rest.count '\n' + (beyond r c).first + 1 := by
    simp only [ahead, behind, pending, List.count_append, List.count_cons_self,
      List.count_eq_zero_of_not_mem one]
    omega
  rw [handed, read_line first one text]
  exact ⟨rfl, rfl, arrives, tells⟩

/-- At the end, all that is pending is read at once. -/
theorem answers_last {r : TextReader} {c : Cursor} {effects : List Effect}
    (atEnd : r.atEnd = true) (tells : r.malformed = fault) (arrives : failure? c.frames = none) :
    Answers { answer := .ready (.ok r.handOut.1), state := (r.handOut.2, c), effects } fault
      (.ok (if r.pending = [] then none else some (String.ofList r.pending)), plain []) := by
  rw [handOut_eq]
  exact ⟨rfl, ahead_atEnd (r := { r with pending := [] }) atEnd c, arrives, tells⟩

theorem answers_line {r : TextReader} {c : Cursor} (tells : r.malformed = fault)
    (arrives : failure? c.frames = none) :
    Answers (Portion.of r c .line) fault ((ahead r c).read fault .line) := by
  have filled : Filled (fun pending => pending.contains '\n') (ahead r c) fault
      (TextReader.fill (fun pending => pending.contains '\n') none r c) :=
    filled_fill tells arrives
  have ends {before : List Char} (few : before.contains '\n' = false) : before.count '\n' = 0 := by
    rw [List.count_eq_zero]
    simpa using few
  unfold Portion.of TextReader.readLine TextReader.readWith
  generalize TextReader.fill (fun pending => pending.contains '\n') none r c = o at filled
  cases filled with
  | enough full tells arrives same =>
    rw [same]
    exact answers_pending full tells arrives
  | @malformed r' c' _ before left few tells arrives same onward =>
    have first : (left.broken.behind before).first = 0 := ends few
    rw [same, read_of_failure (fun _ => first) rfl]
    refine ⟨rfl, ?_, arrives, tells⟩
    rw [onward]
    simp [behind, broken, ends few]
  | @ended r' c' _ before few tells arrives atEnd same =>
    have first : (Interrupted.mk r'.pending (before.count '\n') []).first = 0 := ends few
    rw [same, read_last_line first rfl]
    exact answers_last atEnd tells arrives

theorem answers_rest {r : TextReader} {c : Cursor} (tells : r.malformed = fault)
    (arrives : failure? c.frames = none) :
    Answers (Portion.of r c .rest) fault ((ahead r c).read fault .rest) := by
  have filled : Filled (fun _ => false) (ahead r c) fault
      (TextReader.fill (fun _ => false) none r c) := filled_fill tells arrives
  unfold Portion.of TextReader.readRest TextReader.readWith
  generalize TextReader.fill (fun _ => false) none r c = o at filled
  cases filled with
  | enough full tells arrives same => cases full
  | @malformed r' c' _ before left few tells arrives same onward =>
    rw [same, read_of_failure (by rintro ⟨⟩) rfl]
    exact ⟨rfl, onward, arrives, tells⟩
  | @ended r' c' _ before few tells arrives atEnd same =>
    rw [same, read_rest rfl]
    exact ⟨rfl, ahead_atEnd (r := { r' with pending := [] }) atEnd c', arrives, tells⟩

theorem answers_of (p : Portion) {r : TextReader} {c : Cursor} (tells : r.malformed = fault)
    (arrives : failure? c.frames = none) :
    Answers (Portion.of r c p) fault ((ahead r c).read fault p) := by
  cases p with
  | line => exact answers_line tells arrives
  | rest => exact answers_rest tells arrives

/-- The reads answer what reads of the text ahead answer. -/
theorem answers_eq {r : TextReader} {c : Cursor} (tells : r.malformed = fault)
    (arrives : failure? c.frames = none) (ps : List Portion) :
    answers r c ps = (serve fault ps (ahead r c)).map .ready := by
  induction ps generalizing r c with
  | nil => rfl
  | cons p ps ih =>
    have first := answers_of p tells arrives
    rw [answers, serve, List.map_cons, first.answer, ih first.tells first.arrives, first.onward]

/-! ## Cuts of the same bytes -/

/-- The answers of a reader of a body from its start. -/
def answersFrom (charset : Charset) (t : Transport) (ps : List Portion) :
    List (Awaited (Except RequestFault (Option String))) :=
  answers (.start charset) (.start t) ps

/-- The text of a body, with the failures in it. -/
def textOf (charset : Charset) (t : Transport) : Interrupted := delivered { charset } t.frames

variable {charset : Charset}

theorem answersFrom_eq {t : Transport} (arrives : failure? t.frames = none) (ps : List Portion) :
    answersFrom charset t ps =
      (serve (TextReader.start charset).malformed ps (textOf charset t)).map .ready := by
  have start : ahead (.start charset) (.start t) = textOf charset t := behind_nil _
  have arrives' : failure? (Cursor.start t).frames = none := arrives
  rw [answersFrom, answers_eq rfl arrives', start]

theorem text_feed {d : Charset.Decoder} (owed : d.owed = []) (chunk : Bytes) :
    (d.feed chunk).text = (Charset.run d.charset d.scan chunk).text := by
  show d.owed ++ _ = _
  rw [owed, List.nil_append]

/-- A body without malformed bytes comes to its text, however it is cut. -/
theorem delivered_of_whole {d : Charset.Decoder} {frames : List Frame} (owed : d.owed = [])
    (arrives : failure? frames = none)
    (whole : (Charset.run d.charset d.scan (dataOf frames)).isWhole = true) :
    delivered d frames = plain (Charset.run d.charset d.scan (dataOf frames)).text := by
  induction frames generalizing d with
  | nil =>
    have fine : d.finish.wellFormed = true := whole
    have text : d.finish.text = [] := owed
    simp only [delivered, fine, if_true, text]
    rfl
  | cons frame frames ih =>
    cases frame with
    | failure fault => cases arrives
    | trailers => exact ih owed arrives whole
    | waiting => exact ih owed arrives whole
    | data chunk =>
      simp only [delivered, dataOf] at whole ⊢
      by_cases empty : chunk.isEmpty = true
      · obtain rfl : chunk = [] := List.isEmpty_iff.1 empty
        exact ih owed arrives whole
      · rw [if_neg empty]
        by_cases fine : (d.feed chunk).wellFormed = true
        · have split := Charset.run_append (dataOf frames) fine
          rw [Charset.isWhole_run_append (dataOf frames) fine] at whole
          have rest := ih (d := (d.feed chunk).decoder) (Charset.owed_runFrom fine) arrives whole
          rw [if_pos fine, rest, behind_plain, text_feed owed, split.1]
          rfl
        · rw [Charset.run, Charset.runFrom_append_of_malformed _ (eq_false_of_ne_true fine)]
            at whole
          have wellFormed := (Bool.and_eq_true_iff.1 whole).1
          exact absurd wellFormed fine

/-- A body with malformed bytes comes to the text before them, and fails within it. -/
theorem delivered_of_malformed {d : Charset.Decoder} {frames : List Frame} (owed : d.owed = [])
    (arrives : failure? frames = none)
    (malformed : (Charset.run d.charset d.scan (dataOf frames)).isWhole = false) :
    FailsIn (Charset.run d.charset d.scan (dataOf frames)).text (delivered d frames) := by
  induction frames generalizing d with
  | nil =>
    have broken : d.finish.wellFormed = false := malformed
    simp only [delivered, broken, Bool.false_eq_true, if_false]
    exact ⟨List.nil_prefix, by simp [Interrupted.broken], Nat.zero_le _⟩
  | cons frame frames ih =>
    cases frame with
    | failure fault => cases arrives
    | trailers => exact ih owed arrives malformed
    | waiting => exact ih owed arrives malformed
    | data chunk =>
      simp only [delivered, dataOf] at malformed ⊢
      by_cases empty : chunk.isEmpty = true
      · obtain rfl : chunk = [] := List.isEmpty_iff.1 empty
        exact ih owed arrives malformed
      · rw [if_neg empty]
        by_cases fine : (d.feed chunk).wellFormed = true
        · have split := Charset.run_append (dataOf frames) fine
          rw [Charset.isWhole_run_append (dataOf frames) fine] at malformed
          have rest :=
            ih (d := (d.feed chunk).decoder) (Charset.owed_runFrom fine) arrives malformed
          rw [if_pos fine, split.1, ← text_feed owed]
          exact rest.behind _
        · -- the chunk gives its text behind the failure, and the bytes behind it give none
          have all : Charset.run d.charset d.scan (chunk ++ dataOf frames) =
              Charset.run d.charset d.scan chunk :=
            Charset.runFrom_append_of_malformed _ (eq_false_of_ne_true fine)
          rw [if_neg fine, all, ← text_feed owed]
          exact ⟨List.prefix_append _ _, by simp [Interrupted.broken], Nat.zero_le _⟩

theorem ok_of_ready {answers : List (Except RequestFault (Option String))}
    (fine : ∀ a ∈ answers.map Awaited.ready, ∃ piece, a = .ready (.ok piece)) :
    ∀ a ∈ answers, ∃ piece, a = .ok piece := by
  intro a ha
  obtain ⟨piece, ready⟩ := fine (.ready a) (List.mem_map_of_mem ha)
  exact ⟨piece, Awaited.ready.inj ready⟩

/-- Two cuts of the same bytes read alike, whatever is read, exactly if they come to the same text
with the same number of lines before each failure. Cuts of bytes without malformed ones always do;
and any two cuts read alike as long as neither fails. -/
theorem a_cut_shows_only_through_failures {charset : Charset} {t₁ t₂ : Transport}
    (arrives₁ : failure? t₁.frames = none) (arrives₂ : failure? t₂.frames = none)
    (same : dataOf t₁.frames = dataOf t₂.frames) :
    ((∀ ps, answersFrom charset t₁ ps = answersFrom charset t₂ ps) ↔
        textOf charset t₁ = textOf charset t₂) ∧
      (∀ text, Charset.decode charset (dataOf t₁.frames) = some text →
        ∀ ps, answersFrom charset t₁ ps = answersFrom charset t₂ ps) ∧
      ∀ ps, (∀ a ∈ answersFrom charset t₁ ps, ∃ piece, a = .ready (.ok piece)) →
        (∀ a ∈ answersFrom charset t₂ ps, ∃ piece, a = .ready (.ok piece)) →
          answersFrom charset t₁ ps = answersFrom charset t₂ ps := by
  have alike (text : textOf charset t₁ = textOf charset t₂) (ps : List Portion) :
      answersFrom charset t₁ ps = answersFrom charset t₂ ps := by
    rw [answersFrom_eq arrives₁, answersFrom_eq arrives₂, text]
  have whole_ (whole : (Charset.run charset {} (dataOf t₁.frames)).isWhole = true) :
      textOf charset t₁ = textOf charset t₂ := by
    have text₁ : textOf charset t₁ = _ := delivered_of_whole rfl arrives₁ whole
    have text₂ : textOf charset t₂ = _ := delivered_of_whole rfl arrives₂ (same ▸ whole)
    rw [text₁, text₂, same]
  refine ⟨⟨?_, alike⟩, ?_, ?_⟩
  · intro answersAlike
    have served : ∀ ps, serve (TextReader.start charset).malformed ps (textOf charset t₁) =
        serve (TextReader.start charset).malformed ps (textOf charset t₂) := by
      intro ps
      have answers := answersAlike ps
      rw [answersFrom_eq arrives₁, answersFrom_eq arrives₂] at answers
      exact (List.map_inj_right fun _ _ => Awaited.ready.inj).1 answers
    exact eq_of_serve_eq (proper_delivered _ _) (proper_delivered _ _) served
  · intro text decoded
    exact alike (whole_ (Charset.decode_eq_some_iff.1 decoded).1)
  · intro ps fine₁ fine₂
    rcases whole : (Charset.run charset {} (dataOf t₁.frames)).isWhole with _ | _
    · have fails₁ : FailsIn _ (textOf charset t₁) := delivered_of_malformed rfl arrives₁ whole
      have fails₂ : FailsIn _ (textOf charset t₂) :=
        delivered_of_malformed rfl arrives₂ (same ▸ whole)
      rw [← same] at fails₂
      rw [answersFrom_eq arrives₁] at fine₁ ⊢
      rw [answersFrom_eq arrives₂] at fine₂ ⊢
      rw [serve_eq_of_failsIn fails₁ fails₂ ps (ok_of_ready fine₁) (ok_of_ready fine₂)]
    · exact alike (whole_ whole) ps

/-- Two cuts that differ only before and behind the chunk with a malformed byte. -/
def early : Transport :=
  { frames := [.data (Bytes.ofText "l1\n"), .waiting, .data (Bytes.ofText "l2"),
      .data [0xff, 0x0a], .data (Bytes.ofText "x")] }

def late : Transport :=
  { frames := [.data (Bytes.ofText "l1\nl2"), .data [], .data [0xff, 0x0a], .trailers,
      .data (Bytes.ofText "x")] }

theorem the_same_broken_chunk_reads_alike :
    failure? early.frames = none ∧ failure? late.frames = none ∧
      dataOf early.frames = dataOf late.frames ∧
      ∀ ps, answersFrom .utf8 early ps = answersFrom .utf8 late ps :=
  ⟨rfl, rfl, by decide,
    (a_cut_shows_only_through_failures rfl rfl (by decide)).1.2 (by decide +kernel)⟩

/-- What is behind a malformed byte is read if the chunk ends between them, and is lost
otherwise. -/
theorem a_failure_loses_the_rest_of_its_chunk :
    let joined : Transport := { frames := [.data [0xff, 0x61, 0x0a]] }
    let parted : Transport := { frames := [.data [0xff], .data [0x61, 0x0a]] }
    let malformed := (TextReader.start .utf8).malformed
    (failure? joined.frames = none ∧ failure? parted.frames = none ∧
      dataOf joined.frames = dataOf parted.frames) ∧
    answersFrom .utf8 joined [.line, .line] = [.ready (.error malformed), .ready (.ok none)] ∧
      answersFrom .utf8 parted [.line, .line] =
        [.ready (.error malformed), .ready (.ok (some "a"))] :=
  ⟨⟨rfl, rfl, rfl⟩, rfl, rfl⟩

end WebRequest.Body
