-- Reads through the handles of a reader, over whole runs. They are the reads of somebody who has
-- the whole text at once: who takes from its front, a piece or a line at a time, until nothing is
-- left.
import WebRequest.Proofs.Body.PlainText
import WebRequest.Proofs.Handling.Opening

namespace WebRequest.Handling

open Body Parameters

/-! ## Reading plain text -/

/-- A read and its answer. -/
structure Reading where
  call : TextCall
  answer : Awaited (Except RequestFault (Option String))

/-- A read that hands out some text. -/
def Reading.gives (call : TextCall) (piece : List Char) : Reading :=
  ⟨call, .ready (.ok (some (String.ofList piece)))⟩

/-- A read that finds nothing. -/
def Reading.findsNothing (call : TextCall) : Reading := ⟨call, .ready (.ok none)⟩

/-- A read from the front of a text that may go on, and the text that it leaves. A line is handed
out without its line feed and without one carriage return before that. -/
inductive Takes : List Char → Reading → List Char → Prop
  | givenUp (text : List Char) (call : TextCall) : Takes text ⟨call, .abandoned⟩ text
  | chunk {piece left : List Char} (nonempty : piece ≠ []) :
      Takes (piece ++ left) (.gives .chunk piece) left
  | line {line left : List Char} (one : '\n' ∉ line) (bare : line.getLast? ≠ some '\r') :
      Takes (line ++ '\n' :: left) (.gives .line line) left
  | lineWithReturn {line left : List Char} (one : '\n' ∉ line) :
      Takes (line ++ '\r' :: '\n' :: left) (.gives .line line) left

/-- A read that comes to the end of a text. -/
inductive Ends : List Char → Reading → Prop
  | rest (text : List Char) : Ends text (.gives .rest text)
  | lastLine {text : List Char} (nonempty : text ≠ []) (one : '\n' ∉ text) :
      Ends text (.gives .line text)
  | noLine : Ends [] (.findsNothing .line)
  | noChunk : Ends [] (.findsNothing .chunk)

/-- A read of a whole text, and the text that it leaves. -/
def Reads (text : List Char) (reading : Reading) (left : List Char) : Prop :=
  Takes text reading left ∨ Ends text reading ∧ left = []

/-- Reads that follow one another. -/
inductive Follows (step : List Char → Reading → List Char → Prop) :
    List Char → List Reading → List Char → Prop
  | nil (text : List Char) : Follows step text [] text
  | cons {text next left : List Char} {reading : Reading} {readings : List Reading}
      (first : step text reading next) (rest : Follows step next readings left) :
      Follows step text (reading :: readings) left

/-! ## One read -/

/-- The first line of the pending text, as the reader hands it out. -/
theorem takes_line {r : TextReader} {c : Cursor} {text : List Char} {whole : Bool}
    (h : Holds whole r c text) (full : r.pending.contains '\n' = true) :
    ∃ line left, r.handOutLine.1 = some (String.ofList line) ∧
      Takes text (.gives .line line) left ∧ Holds whole r.handOutLine.2 c left := by
  obtain ⟨line, rest, pending, one, handed⟩ := exists_handOutLine_eq full
  have split : r.pending = (line ++ ['\n']) ++ rest := by
    rw [pending, List.append_assoc]
    rfl
  obtain ⟨left, htext, holds⟩ := h.drop split
  rw [handed]
  have htext' : text = line ++ '\n' :: left := by
    rw [htext, List.append_assoc]
    rfl
  refine ⟨TextReader.chomp line, left, rfl, ?_, holds⟩
  rw [htext']
  by_cases carriage : line.getLast? = some '\r'
  · obtain ⟨start, rfl⟩ : ∃ start, line = start ++ ['\r'] :=
      List.getLast?_eq_some_iff.1 carriage
    have chomped : TextReader.chomp (start ++ ['\r']) = start := by
      simp [TextReader.chomp]
    rw [chomped, List.append_assoc]
    apply Takes.lineWithReturn
    intro hmem
    exact one (List.mem_append_left _ hmem)
  · have chomped : TextReader.chomp line = line := by
      simp only [TextReader.chomp, if_neg carriage]
    rw [chomped]
    exact .line one carriage

theorem holds_handOut {r : TextReader} {c : Cursor} {text : List Char} {whole : Bool}
    (h : Holds whole r c text) :
    ∃ left, text = r.pending ++ left ∧ Holds whole { r with pending := [] } c left :=
  h.drop (List.append_nil r.pending).symm

/-- How a read ends while nothing but data arrives: it reads the text, or it fails because the text
is not whole. -/
inductive ReadsOrFails (call : TextCall) (text : List Char) (whole : Bool)
    (reader : TextReader) (o : Waiting (TextReader × Cursor) (Option String)) : Prop
  | takes {left : List Char} (takes : Takes text ⟨call, o.answer⟩ left)
      (holds : Holds whole o.state.1 o.state.2 left)
  | ends (all : whole = true) (ends : Ends text ⟨call, o.answer⟩)
      (holds : Holds whole o.state.1 o.state.2 [])
  | fails (broken : whole = false) (answer : o.answer = .ready (.error reader.malformed))

/-- A read that hands out all that is pending at the end of a whole text. -/
theorem readsOrFails_last {call : TextCall} {text : List Char}
    {reader r : TextReader} {c : Cursor} {effects : List Effect}
    (some_ : text ≠ [] → Ends text (.gives call text))
    (none_ : text = [] → Ends text (.findsNothing call)) (pending : r.pending = text)
    (holds : Holds true r c text) :
    ReadsOrFails call text true reader
      { answer := .ready (.ok r.handOut.1), state := (r.handOut.2, c), effects } := by
  obtain ⟨left, htext, holds'⟩ := holds_handOut holds
  have nothing : left = [] := by
    rw [pending] at htext
    exact List.self_eq_append_right.1 htext
  subst nothing
  rw [handOut_eq, pending]
  refine .ends rfl ?_ holds'
  by_cases empty : text = []
  · rw [if_pos empty]
    exact none_ empty
  · rw [if_neg empty]
    exact some_ empty

theorem readsOrFails_chunk (p : Patience) {r : TextReader} {c : Cursor} {text : List Char}
    {whole : Bool} (h : Holds whole r c text) :
    ReadsOrFails .chunk text whole r (r.readChunk p c) := by
  have pieces : Pieces (fun pending => !pending.isEmpty) TextReader.handOut TextReader.handOut
      text whole r (TextReader.readChunk p r c) := pieces_readWith _ _ p h
  generalize TextReader.readChunk p r c = o at pieces
  cases pieces with
  | abandoned holds => exact .takes (.givenUp text _) holds
  | @full r' c' effects isFull holds =>
    have nonempty : r'.pending ≠ [] := by
      intro empty
      rw [empty] at isFull
      cases isFull
    obtain ⟨left, htext, holds'⟩ := holds_handOut holds
    rw [handOut_eq, if_neg nonempty, htext]
    exact .takes (.chunk nonempty) holds'
  | @last r' c' effects few all pending holds =>
    subst all
    have empty : text = [] := by
      rw [← pending]
      simpa using few
    exact readsOrFails_last (fun some_ => absurd empty some_) (fun h => h ▸ .noChunk) pending
      holds
  | malformed broken => exact .fails broken rfl

theorem readsOrFails_line (p : Patience) {r : TextReader} {c : Cursor} {text : List Char}
    {whole : Bool} (h : Holds whole r c text) :
    ReadsOrFails .line text whole r (r.readLine p c) := by
  have pieces : Pieces (fun pending => pending.contains '\n') TextReader.handOutLine
      TextReader.handOut text whole r (TextReader.readLine p r c) := pieces_readWith _ _ p h
  generalize TextReader.readLine p r c = o at pieces
  cases pieces with
  | abandoned holds => exact .takes (.givenUp text _) holds
  | @full r' c' effects isFull holds =>
    obtain ⟨line, left, handed, takes, holds'⟩ := takes_line holds isFull
    rw [handed]
    exact .takes takes holds'
  | @last r' c' effects few all pending holds =>
    subst all
    have one : '\n' ∉ text := by
      rw [← pending]
      simpa using few
    exact readsOrFails_last (fun some_ => .lastLine some_ one) (fun h => h ▸ .noLine) pending
      holds
  | malformed broken => exact .fails broken rfl

theorem readsOrFails_rest (p : Patience) {r : TextReader} {c : Cursor} {text : List Char}
    {whole : Bool} (h : Holds whole r c text) :
    ReadsOrFails .rest text whole r ((r.readRest p c).map (reword some)) := by
  have pieces : Pieces (fun _ => false)
      (fun r => (String.ofList r.pending, { r with pending := [] }))
      (fun r => (String.ofList r.pending, { r with pending := [] })) text whole r
      (TextReader.readRest p r c) := pieces_readWith _ _ p h
  generalize TextReader.readRest p r c = o at pieces
  cases pieces with
  | abandoned holds => exact .takes (.givenUp text _) holds
  | full isFull holds => cases isFull
  | @last r' c' effects few all pending holds =>
    obtain ⟨left, htext, holds'⟩ := holds_handOut holds
    have nothing : left = [] := by
      rw [pending] at htext
      exact List.self_eq_append_right.1 htext
    subst nothing
    refine .ends all ?_ holds'
    show Ends text (.gives .rest r'.pending)
    rw [pending]
    exact .rest text
  | malformed broken => exact .fails broken rfl

/-- A read through a reader reads the text behind it. -/
theorem readsOrFails_read (call : TextCall) (p : Patience) {r : TextReader} {c : Cursor}
    {text : List Char} {whole : Bool} (h : Holds whole r c text) :
    ReadsOrFails call text whole r (call.read p r c) := by
  cases call with
  | chunk => exact readsOrFails_chunk p h
  | line => exact readsOrFails_line p h
  | rest => exact readsOrFails_rest p h

/-! ## Reads in a run -/

/-- The read that a moment is, if it is one. -/
def reading? (m : Moment) : Option Reading :=
  match m.event, m.answer with
  | .readText _ call _, .text answer => some ⟨call, answer⟩
  | _, _ => none

/-- The reads of a run, in order, through whichever handles. -/
def readings (moments : List Moment) : List Reading := moments.filterMap reading?

/-- The body after a read through its reader. -/
def afterRead (call : TextCall) (p : Patience) (reader : TextReader) (c : Cursor) : Access :=
  { mode := .asReader (call.read p reader c).state.1, cursor := (call.read p reader c).state.2 }

/-- While a body is open as text, an operation reads the text or leaves the body alone. -/
theorem Change.text_or_other {u u' : InUse} {op : Operation} {a : Answer} {reader : TextReader}
    (changed : Change u op a u') (exclusive : Exclusive u) (mode : u.body.mode = .asReader reader) :
    (∃ handle call p, op = .readText handle call p ∧
      a = .text (call.read p reader u.body.cursor).answer ∧
      u'.body = afterRead call p reader u.body.cursor) ∨
    u'.body = u.body ∧ ∀ handle call p answer, op = .readText handle call p → a ≠ .text answer := by
  have open_ : ¬ Closed u.body.mode := fun closed => closed.ne_asReader reader mode
  cases changed with
  | streamOpened closed => exact absurd closed open_
  | readerOpened closed _ => exact absurd closed open_
  | @parsed q p fresh =>
    have begun : u.request.body.mode ≠ .unopened := fun unopened => open_ (.inl unopened)
    refine .inr ⟨body_ensureParsed fresh p begun, ?_⟩
    intro handle call p answer hop
    cases hop
  | streamRead given => cases mode.symm.trans (exclusive.asStream given)
  | @textRead handle call p reader' given mode' =>
    have same : reader' = reader := Mode.asReader.inj (mode'.symm.trans mode)
    subst same
    exact .inl ⟨handle, call, p, rfl, rfl, rfl⟩
  | nothingToRead given none_ =>
    simp only [Access.reader?, mode] at none_
    cases none_
  | noReader missing =>
    refine .inr ⟨rfl, ?_⟩
    intro handle call p answer _ ha
    cases ha
  | aside r apart elsewhere =>
    refine .inr ⟨apart.body, ?_⟩
    rintro handle call p answer rfl
    cases elsewhere
  | _ =>
    refine .inr ⟨rfl, ?_⟩
    intro handle call p answer hop
    cases hop

/-- The fault of a read that meets bytes that are malformed in a charset. -/
def malformedIn (charset : Charset) : RequestFault :=
  .malformedInput ("body is not valid " ++ charset.name)

/-- The reads follow a text up to a read that fails for malformed bytes. -/
def FailsAfter (step : List Char → Reading → List Char → Prop) (charset : Charset)
    (text : List Char) (reads : List Reading) : Prop :=
  ∃ earlier call later left,
    reads = earlier ++ ⟨call, .ready (.error (malformedIn charset))⟩ :: later ∧
      Follows step text earlier left

/-- The reads follow a text, or up to a failure if the text is not whole. -/
def FollowsOrFails (step : List Char → Reading → List Char → Prop) (whole : Bool)
    (charset : Charset) (text : List Char) (reads : List Reading) : Prop :=
  (∃ left, Follows step text reads left) ∨ whole = false ∧ FailsAfter step charset text reads

theorem FollowsOrFails.cons {step : List Char → Reading → List Char → Prop} {whole : Bool}
    {charset : Charset} {text next : List Char} {reading : Reading} {reads : List Reading}
    (first : step text reading next) (rest : FollowsOrFails step whole charset next reads) :
    FollowsOrFails step whole charset text (reading :: reads) := by
  rcases rest with ⟨left, follows⟩ | ⟨broken, earlier, call, later, left, rfl, follows⟩
  · exact .inl ⟨left, .cons first follows⟩
  · exact .inr ⟨broken, reading :: earlier, call, later, left, rfl, .cons first follows⟩

/-- The reads of a run read the text behind the reader, or fail because it is not whole. -/
theorem followsOrFails_readings {step : List Char → Reading → List Char → Prop} {whole : Bool}
    (takes : ∀ {text reading left}, Takes text reading left → step text reading left)
    (ends : whole = true → ∀ {text reading}, Ends text reading → step text reading [])
    {u : InUse} {reader : TextReader} {charset : Charset} {text : List Char}
    (exclusive : Exclusive u) (mode : u.body.mode = .asReader reader)
    (same : reader.charset = charset) (holds : Holds whole reader u.body.cursor text)
    (ops : List Operation) :
    FollowsOrFails step whole charset text (readings (history u ops)) := by
  induction ops generalizing u reader text with
  | nil => exact .inl ⟨text, .nil text⟩
  | cons op ops ih =>
    have changed := changed_perform u op
    have exclusive' := changed.exclusive exclusive
    unfold readings history
    rw [Runs.history_cons, List.filterMap_cons]
    rcases changed.text_or_other exclusive mode with
      ⟨handle, call, p, rfl, answer, body⟩ | ⟨body, other⟩
    · -- a read of the text, which goes on with what it leaves or fails
      have isReading : reading? ⟨u, .readText handle call p⟩ =
          some ⟨call, (call.read p reader u.body.cursor).answer⟩ := by
        simp only [reading?, Runs.Moment.answer, Runs.Moment.outcome, answer]
      rw [isReading]
      have goesOn {next : List Char}
          (holds' : Holds whole (call.read p reader u.body.cursor).state.1
            (call.read p reader u.body.cursor).state.2 next) :
          FollowsOrFails step whole charset next
            (readings (history (perform u (.readText handle call p)).state ops)) := by
        apply ih exclusive' (congrArg Access.mode body)
        · exact (charset_read call p reader u.body.cursor).trans same
        · rw [body]
          exact holds'
      rcases readsOrFails_read call p holds with
        ⟨took, holds'⟩ | ⟨all, ended, holds'⟩ | ⟨broken, failed⟩
      · exact .cons (takes took) (goesOn holds')
      · exact .cons (ends all ended) (goesOn holds')
      · rw [failed, TextReader.malformed, same]
        exact .inr ⟨broken, [], call, _, text, rfl, .nil text⟩
    · -- nothing of the text is read
      have notReading : reading? ⟨u, op⟩ = none := by
        unfold reading?
        split
        · rename_i handle call p answer hop hanswer
          exact absurd hanswer (other handle call p answer hop)
        · rfl
      rw [notReading]
      apply ih exclusive'
      · rw [body]
        exact mode
      · exact same
      · rw [body]
        exact holds

/-! ## Opening an untouched body -/

/-- A body that is unopened after an operation was unopened before it, and has not been read. -/
theorem Change.untouched {u u' : InUse} {op : Operation} {a : Answer}
    (changed : Change u op a u') (exclusive : Exclusive u) (unopened : u'.body.mode = .unopened) :
    u.body.mode = .unopened ∧ u'.body.cursor = u.body.cursor := by
  cases changed with
  | streamOpened closed => cases unopened
  | readerOpened closed _ => cases unopened
  | @parsed q p fresh =>
    have access := firstAccess_ensureParsed (r := u.request) fresh p
    have hbody : (u.withRequest (u.request.ensureParsed p).state).body =
        (u.request.ensureParsed p).state.body := rfl
    rw [hbody] at unopened ⊢
    rcases access.body with ⟨same, -⟩ | ⟨closed, limit, drained, -⟩
    · rw [same] at unopened ⊢
      exact ⟨unopened, rfl⟩
    · rw [drained] at unopened
      simp only [Access.consume, closed] at unopened
      cases unopened
  | streamRead given =>
    have mode : u.body.mode = .unopened := unopened
    cases mode.symm.trans (exclusive.asStream given)
  | textRead given mode => cases unopened
  | aside r apart _ =>
    have same : (u.withRequest r).body = u.body := apart.body
    rw [same] at unopened ⊢
    exact ⟨unopened, rfl⟩
  | _ => exact ⟨unopened, rfl⟩

theorem cursor_of_unopened (a : Request.Arrival) (s : Settings) (id : Nat) (ops : List Operation) :
    (after (.received a s id) ops).body.mode = .unopened →
      (after (.received a s id) ops).body.cursor = .start a.transport := by
  refine received_induction
    (P := fun u => u.body.mode = .unopened → u.body.cursor = .start a.transport) (fun _ => rfl) ?_
    ops
  intro u op exclusive h unopened
  obtain ⟨before, cursor⟩ := (changed_perform u op).untouched exclusive unopened
  rw [cursor]
  exact h before

theorem openReader_of_unopened {u : InUse} {charset : Charset} (unopened : u.body.mode = .unopened)
    (resolved : u.encoding.resolve = .ok charset) :
    (perform u .openReader).answer = .handle u.readers ∧
      (perform u .openReader).state.body =
        { mode := .asReader (.start charset), cursor := u.body.cursor } := by
  have hm : u.request.body.mode = .unopened := unopened
  have hr : u.request.encoding.resolve = .ok charset := resolved
  simp only [perform, giveOut, Request.openReader, Access.openAsReader, hm, hr]
  exact ⟨rfl, rfl⟩

theorem holds_start {charset : Charset} {t : Transport} (arrives : failure? t.frames = none) :
    Holds (Charset.run charset {} (dataOf t.frames)).isWhole (.start charset) (.start t)
      (Charset.run charset {} (dataOf t.frames)).text :=
  .running rfl arrives ⟨rfl, rfl, rfl, rfl⟩

/-! ## Whole runs -/

theorem patient_read (call : TextCall) (r : TextReader) (c : Cursor) :
    (call.read none r c).answer ≠ .abandoned := by
  cases call with
  | chunk => exact patient_readWith _ _ _ r c
  | line => exact patient_readWith _ _ _ r c
  | rest =>
    have rest : (TextReader.readRest none r c).answer ≠ .abandoned := patient_readWith _ _ _ r c
    simp only [TextCall.read, Outcome.map]
    intro given
    rcases ha : (TextReader.readRest none r c).answer with answer | _
    · rw [ha] at given
      cases given
    · exact rest ha

theorem answered_of_patient {u : InUse} {charset : Charset} (texting : Texting charset u)
    {ops : List Operation} {m : Moment} (hm : m ∈ history u ops) {handle : Nat} {call : TextCall}
    (event : m.event = .readText handle call none)
    (given : handle < m.before.readers) : ∃ result, m.answer = .text (.ready result) := by
  obtain ⟨es, -, -, before⟩ := Runs.exists_of_mem_history hm
  have texting' : Texting charset m.before := by
    rw [before]
    exact texting_after texting es
  obtain ⟨reader, mode, -⟩ := texting'.mode
  have changed := changed_perform m.before m.event
  have hanswer : (perform m.before m.event).answer = m.answer := rfl
  rw [hanswer, event] at changed
  generalize (perform m.before (.readText handle call none)).state = u' at changed
  generalize m.answer = answer at changed
  cases changed with
  | @textRead _ _ _ reader' _ mode' =>
    rcases hread : (call.read none reader' m.before.body.cursor).answer with result | _
    · exact ⟨result, rfl⟩
    · exact absurd hread (patient_read call reader' _)
  | nothingToRead _ none_ =>
    simp only [Access.reader?, mode] at none_
    cases none_
  | noReader missing => exact absurd given (Nat.not_lt.2 missing)
  | aside r _ elsewhere => cases elsewhere

/-- The reads through a reader that was opened on an untouched body are those of its text, however
the text is cut into frames and whatever else happens meanwhile. Of a body that is malformed, the
text up to that is read, and then a read fails for it. Who waits without end gets an answer. -/
theorem a_reader_reads_plain_text (a : Request.Arrival) (s : Settings) (id : Nat)
    (earlier later : List Operation) (charset : Charset)
    (unopened : (after (.received a s id) earlier).body.mode = .unopened)
    (resolved : (after (.received a s id) earlier).encoding.resolve = .ok charset)
    (arrives : failure? a.transport.frames = none) :
    let opened := perform (after (.received a s id) earlier) .openReader
    let reads := readings (history opened.state later)
    let body := dataOf a.transport.frames
    (∃ n, opened.answer = .handle n) ∧
    (∀ text, Charset.decode charset body = some text →
      ∃ left, Follows Reads text.toList reads left) ∧
    (Charset.decode charset body = none →
      (∃ left, Follows Takes (Charset.run charset {} body).text reads left) ∨
        FailsAfter Takes charset (Charset.run charset {} body).text reads) ∧
    ∀ m ∈ history opened.state later, ∀ handle call, m.event = .readText handle call none →
      handle < m.before.readers → ∃ result, m.answer = .text (.ready result) := by
  intro opened reads body
  obtain ⟨answer, openedBody⟩ := openReader_of_unopened unopened resolved
  have exclusive : Exclusive opened.state :=
    (changed_perform _ .openReader).exclusive (exclusive_after (exclusive_received a s id) earlier)
  have mode : opened.state.body.mode = .asReader (.start charset) := by
    rw [openedBody]
  have holds : Holds (Charset.run charset {} body).isWhole (.start charset)
      opened.state.body.cursor (Charset.run charset {} body).text := by
    rw [openedBody, cursor_of_unopened a s id earlier unopened]
    exact holds_start arrives
  refine ⟨⟨_, answer⟩, ?_, ?_, ?_⟩
  · intro text decoded
    obtain ⟨whole, same⟩ := Charset.decode_eq_some_iff.1 decoded
    rw [same] at holds
    have follows : FollowsOrFails Reads _ charset text.toList reads :=
      followsOrFails_readings .inl (fun _ _ _ h => .inr ⟨h, rfl⟩) exclusive mode rfl holds later
    rcases follows with follows | ⟨broken, -⟩
    · exact follows
    · rw [whole] at broken
      cases broken
  · intro undecoded
    have broken := Charset.decode_eq_none_iff.1 undecoded
    have follows : FollowsOrFails Takes _ charset _ reads :=
      followsOrFails_readings (fun took => took)
        (fun whole => absurd (whole.symm.trans broken) (by decide)) exclusive mode rfl holds later
    rcases follows with follows | ⟨-, fails⟩
    · exact .inl follows
    · exact .inr fails
  · intro m hm handle call event given
    exact answered_of_patient (texting_of_mode mode) hm event given

/-- A body that is cut within a character and within the end of a line. -/
def cutText : Request.Arrival :=
  { head := { method := "POST", uri := { path := "/" }, version := .v11, fields := ⟨[]⟩ },
    transport :=
      { frames := [.data [0xc3], .waiting, .data [0xa9, 0x0d], .trailers, .data [],
          .data [0x0a, 0x62]] } }

theorem a_cut_text_is_read_by_lines :
    let opened := perform (.received cutText {} 1) .openReader
    let reads := readings (history opened.state
      [.readText 0 .line (some 1), .openReader, .readText 1 .line none, .readText 0 .rest none])
    Charset.decode .utf8 (dataOf cutText.transport.frames) = some "é\r\nb" ∧
      reads = [⟨.line, .abandoned⟩, .gives .line ['é'], .gives .rest ['b']] ∧
      ∃ left, Follows Reads "é\r\nb".toList reads left := by
  have decoded : Charset.decode .utf8 (dataOf cutText.transport.frames) = some "é\r\nb" := by
    decide +kernel
  obtain ⟨-, whole, -⟩ := a_reader_reads_plain_text cutText {} 1 []
    [.readText 0 .line (some 1), .openReader, .readText 1 .line none, .readText 0 .rest none]
    .utf8 rfl rfl rfl
  exact ⟨decoded, rfl, whole _ decoded⟩

end WebRequest.Handling
