-- The parameters and files of a request with a multipart body. The parts are looked at three
-- times: all of them are counted, then their files are measured, then their fields are stored.
-- Whichever of these refuses them, no file is kept; and of the fields something is stored only if
-- there are too many of them.
import WebRequest.Proofs.Parameters.Taking

namespace WebRequest.Parameters

open Body

/-! ## Fields -/

/-- The fields that count: those with a name. -/
def namedFields (parts : List Part) : List (String × String) :=
  (fieldsOf parts).filter fun p => !p.1.isEmpty

/-- How fields are stored behind some pairs: all of them, or just so many as fill the table up to
its limit. -/
inductive Fill (rules : Rules) (stored fields : List (String × String)) : Processed → Prop
  | all (room : stored.length + fields.length ≤ rules.maxCount) :
      Fill rules stored fields { stored := stored ++ fields, stop := none }
  | full {fits more : List (String × String)} {field : String × String}
      (split : fields = fits ++ field :: more)
      (limit : stored.length + fits.length = rules.maxCount) :
      Fill rules stored fields
        { stored := stored ++ fits, stop := some (.tooManyParameters rules.maxCount) }

theorem fill_process (rules : Rules) {stored : List (String × String)}
    (room : stored.length ≤ rules.maxCount) (fields : List (String × String)) :
    Fill rules stored (fields.filter fun p => !p.1.isEmpty)
      (process rules stored (fields.map .ok)) := by
  induction fields generalizing stored with
  | nil =>
    have all : Fill rules stored [] { stored := stored ++ [], stop := none } := .all room
    rwa [List.append_nil] at all
  | cons field fields ih =>
    simp only [List.map_cons, process]
    by_cases nameless : field.1.isEmpty = true
    · rw [if_pos nameless, List.filter_cons_of_neg (by simp [nameless])]
      exact ih room
    · rw [if_neg nameless, List.filter_cons_of_pos (by simp [nameless])]
      by_cases reached : rules.maxCount ≤ stored.length
      · have full : Fill rules stored (field :: fields.filter fun p => !p.1.isEmpty)
            { stored := stored ++ [], stop := some (.tooManyParameters rules.maxCount) } :=
          .full (List.nil_append _).symm (Nat.le_antisymm room reached)
        rw [if_pos reached]
        rwa [List.append_nil] at full
      · have room' : (stored ++ [field]).length ≤ rules.maxCount := by
          rw [List.length_append, List.length_singleton]
          omega
        rw [if_neg reached]
        have rest := ih room'
        generalize process rules (stored ++ [field]) (fields.map .ok) = p at rest
        generalize fields.filter (fun p => !p.1.isEmpty) = named at rest
        cases rest with
        | all room =>
          rw [List.append_assoc]
          refine .all ?_
          simp only [List.length_append, List.length_cons, List.length_nil] at room ⊢
          omega
        | @full fits more last split limit =>
          rw [List.append_assoc]
          refine .full (congrArg (field :: ·) split) ?_
          simp only [List.length_append, List.length_cons, List.length_nil] at limit ⊢
          omega

/-! ## Limits -/

namespace MultipartLimits

variable {l : MultipartLimits} {parts : List Part}

/-- Not too many parts. -/
def AllowsCount (l : MultipartLimits) (parts : List Part) : Prop :=
  ∀ limit, l.maxPartCount = some limit → parts.length ≤ limit

/-- No file that is too large. -/
def AllowsFiles (l : MultipartLimits) (parts : List Part) : Prop :=
  ∀ limit file, l.maxFileSize = some limit → .file file ∈ parts → file.size ≤ limit

/-- Why parts are refused: there are too many, or else a file is too large, and no file before it
is. -/
inductive Refuses (l : MultipartLimits) (parts : List Part) : ParameterFault → Prop
  | count {limit : Nat} (set : l.maxPartCount = some limit) (many : limit < parts.length) :
      Refuses l parts (.tooManyParts limit)
  | file {limit : Nat} {before after : List Part} {file : FilePart}
      (few : l.AllowsCount parts) (set : l.maxFileSize = some limit)
      (split : parts = before ++ .file file :: after) (first : l.AllowsFiles before)
      (large : limit < file.size) :
      Refuses l parts (.fileTooLarge file.name file.size limit)

theorem Refuses.not_allows {fault : ParameterFault} (refused : l.Refuses parts fault) :
    ¬ (l.AllowsCount parts ∧ l.AllowsFiles parts) := by
  rintro ⟨count, files⟩
  cases refused with
  | count set many => exact absurd (count _ set) (Nat.not_le.2 many)
  | file _ set split _ large =>
    refine absurd (files _ _ set ?_) (Nat.not_le.2 large)
    rw [split]
    exact List.mem_append_right _ List.mem_cons_self

theorem fileFault?_eq_none_iff {f : FilePart} :
    l.fileFault? f = none ↔ ∀ limit, l.maxFileSize = some limit → f.size ≤ limit := by
  unfold fileFault?
  cases l.maxFileSize with
  | none => simp
  | some limit => simp

theorem of_fileFault? {f : FilePart} {fault : ParameterFault} (h : l.fileFault? f = some fault) :
    ∃ limit, l.maxFileSize = some limit ∧ limit < f.size ∧
      fault = .fileTooLarge f.name f.size limit := by
  unfold fileFault? at h
  split at h
  · cases h
  · rename_i limit set
    split at h
    · rename_i large
      cases h
      exact ⟨limit, set, large, rfl⟩
    · cases h

theorem allowsFiles_of_largeFile (h : fault?.largeFile l parts = none) : l.AllowsFiles parts := by
  intro limit file set hmem
  exact fileFault?_eq_none_iff.1 (List.findSome?_eq_none_iff.1 h _ hmem) limit set

theorem refuses_of_largeFile {fault : ParameterFault} (few : l.AllowsCount parts)
    (h : fault?.largeFile l parts = some fault) : l.Refuses parts fault := by
  obtain ⟨before, part, after, split, hpart, first⟩ := List.findSome?_eq_some_iff.1 h
  cases part with
  | field name value => cases hpart
  | file f =>
    obtain ⟨limit, set, large, rfl⟩ := of_fileFault? hpart
    exact .file few set split (allowsFiles_of_largeFile (List.findSome?_eq_none_iff.2 first)) large

theorem fault?_of_many {limit : Nat} (set : l.maxPartCount = some limit)
    (many : limit < parts.length) : l.fault? parts = some (.tooManyParts limit) := by
  simp only [fault?, set, if_pos many]

theorem fault?_of_few (few : l.AllowsCount parts) :
    l.fault? parts = fault?.largeFile l parts := by
  unfold fault?
  split
  · rename_i limit set
    exact if_neg (Nat.not_lt.2 (few limit set))
  · rfl

theorem refuses_or_allows (l : MultipartLimits) (parts : List Part) :
    (∃ fault, l.fault? parts = some fault ∧ l.Refuses parts fault) ∨
      l.fault? parts = none ∧ l.AllowsCount parts ∧ l.AllowsFiles parts := by
  by_cases few : l.AllowsCount parts
  · rw [fault?_of_few few]
    cases h : fault?.largeFile l parts with
    | some fault => exact .inl ⟨fault, rfl, refuses_of_largeFile few h⟩
    | none => exact .inr ⟨rfl, few, allowsFiles_of_largeFile h⟩
  · simp only [AllowsCount, not_forall, Nat.not_le] at few
    obtain ⟨limit, set, many⟩ := few
    exact .inl ⟨_, fault?_of_many set many, .count set many⟩

end MultipartLimits

/-! ## What is brought -/

/-- What the building of parameters and files brings: the calls of the splitter, the pairs that are
stored, the files that are kept, and the answer. -/
structure Harvest where
  calls : List (String × Bytes × Charset) := []
  stored : List (String × String)
  files : List FilePart := []
  answer : Except RequestFault Unit

/-- What the parts of a body bring behind the pairs of the query. -/
inductive FromParts (rules : Rules) (l : MultipartLimits) (query : List (String × String))
    (parts : List Part) :
    List (String × String) → List FilePart → Except ParameterFault Unit → Prop
  | refused {fault : ParameterFault} (refused : l.Refuses parts fault) :
      FromParts rules l query parts query [] (.error fault)
  | crowded {fits more : List (String × String)} {field : String × String}
      (count : l.AllowsCount parts) (files : l.AllowsFiles parts)
      (split : namedFields parts = fits ++ field :: more)
      (limit : query.length + fits.length = rules.maxCount) :
      FromParts rules l query parts (query ++ fits) []
        (.error (.tooManyParameters rules.maxCount))
  | accepted (count : l.AllowsCount parts) (files : l.AllowsFiles parts)
      (room : query.length + (namedFields parts).length ≤ rules.maxCount) :
      FromParts rules l query parts (query ++ namedFields parts) (filesOf parts) (.ok ())

namespace FromParts

variable {rules : Rules} {l : MultipartLimits} {query stored : List (String × String)}
  {parts : List Part} {files : List FilePart} {result : Except ParameterFault Unit}

/-- Parts that keep all limits are taken as a whole. -/
theorem whole (brings : FromParts rules l query parts stored files result)
    (count : l.AllowsCount parts) (few : l.AllowsFiles parts)
    (room : query.length + (namedFields parts).length ≤ rules.maxCount) :
    result = .ok () ∧ stored = query ++ namedFields parts ∧ files = filesOf parts := by
  cases brings with
  | accepted => exact ⟨rfl, rfl, rfl⟩
  | crowded _ _ named limit =>
    rw [named, List.length_append, List.length_cons] at room
    omega
  | refused refused => exact absurd ⟨count, few⟩ refused.not_allows

/-- If there is no room for all fields of parts that are not refused, this is what is wrong. -/
theorem crowd (brings : FromParts rules l query parts stored files result)
    (count : l.AllowsCount parts) (few : l.AllowsFiles parts)
    (many : rules.maxCount < query.length + (namedFields parts).length) :
    result = .error (.tooManyParameters rules.maxCount) := by
  cases brings with
  | accepted _ _ room => exact absurd room (Nat.not_le.2 many)
  | crowded => rfl
  | refused refused => exact absurd ⟨count, few⟩ refused.not_allows

end FromParts

/-- What a multipart body brings that nobody has touched, behind an accepted query. -/
inductive FromMultipart (rules : Rules) (m : MultipartSupport) (query : List (String × String))
    (boundary : Option String) (charset : Except RequestFault Charset) (frames : List Frame) :
    Harvest → Prop
  | noBoundary (lacking : boundary = none) :
      FromMultipart rules m query boundary charset frames
        { stored := query, answer := .error (.invalidParameters .missingBoundary) }
  | noCharset {b : String} {fault : RequestFault} (given : boundary = some b)
      (unresolved : charset = .error fault) :
      FromMultipart rules m query boundary charset frames
        { stored := query, answer := .error fault }
  | undrained {b : String} {c : Charset} {fault : RequestFault} (given : boundary = some b)
      (resolved : charset = .ok c) (drain : wholeOf m.limits.maxRequestSize frames = .error fault) :
      FromMultipart rules m query boundary charset frames
        { stored := query, answer := .error fault.whileDraining }
  | unsplit {b : String} {c : Charset} {fault : ParameterFault} (given : boundary = some b)
      (resolved : charset = .ok c)
      (drain : wholeOf m.limits.maxRequestSize frames = .ok (dataOf frames))
      (split : m.splitter b (dataOf frames) c = .error fault) :
      FromMultipart rules m query boundary charset frames
        { calls := [(b, dataOf frames, c)], stored := query,
          answer := .error (.invalidParameters fault) }
  | split {b : String} {c : Charset} {parts : List Part} {stored : List (String × String)}
      {files : List FilePart} {result : Except ParameterFault Unit} (given : boundary = some b)
      (resolved : charset = .ok c)
      (drain : wholeOf m.limits.maxRequestSize frames = .ok (dataOf frames))
      (split : m.splitter b (dataOf frames) c = .ok parts)
      (brings : FromParts rules m.limits query parts stored files result) :
      FromMultipart rules m query boundary charset frames
        { calls := [(b, dataOf frames, c)], stored, files,
          answer := result.mapError .invalidParameters }

/-! ## Stages of the building -/

/-- A stage has come to a harvest. -/
structure Brings (o : Waiting Building Unit) (h : Harvest) : Prop where
  answer : o.answer = .ready h.answer
  table : o.state.table.Holds h.stored
  files : o.state.files = h.files
  calls : splits o.effects = h.calls

/-- What is written to the log before does not count. -/
theorem Brings.after {o : Waiting Building Unit} {h : Harvest} (brings : Brings o h)
    {effects : List Effect} (silent : splits effects = []) : Brings (o.after effects) h := by
  refine ⟨brings.answer, brings.table, brings.files, ?_⟩
  rw [Outcome.after, splits_append, silent, List.nil_append]
  exact brings.calls

theorem brings_fail (f : RequestFault) {b : Building} {stored : List (String × String)}
    (table : b.table.Holds stored) (none_ : b.files = []) :
    Brings (Stage.fail f b) { stored, answer := .error f } := ⟨rfl, table, none_, rfl⟩

theorem brings_storingParts (rules : Rules) {b : Building} {query : List (String × String)}
    (table : b.table.Holds query) (none_ : b.files = []) {l : MultipartLimits} {parts : List Part}
    (count : l.AllowsCount parts) (files : l.AllowsFiles parts)
    (room : query.length ≤ rules.maxCount) :
    ∃ stored kept result, FromParts rules l query parts stored kept result ∧
      Brings (storingParts rules parts b)
        { stored, files := kept, answer := result.mapError .invalidParameters } := by
  have stored := comes_storing rules table (recoverable_fields (fieldsOf parts))
  have silent := (kept_storing rules ((fieldsOf parts).map .ok) b).silent
  have fill : Fill rules query (namedFields parts) _ := fill_process rules room (fieldsOf parts)
  have same : (storing rules ((fieldsOf parts).map .ok) b).state.files = b.files := rfl
  unfold storingParts Stage.andThen
  generalize storing rules ((fieldsOf parts).map .ok) b = o at stored silent same ⊢
  generalize process rules query ((fieldsOf parts).map .ok) = p at stored fill
  obtain ⟨answer, holds⟩ := stored
  cases fill with
  | all room' =>
    refine ⟨_, _, _, .accepted count files room', ?_⟩
    rw [Processed.answer_of_accepted rfl] at answer
    simp only [answer]
    refine ⟨rfl, holds, ?_, ?_⟩
    · simp [Outcome.after, same, none_]
    · simp [Outcome.after, silent]
  | full split limit =>
    refine ⟨_, _, _, .crowded count files split limit, ?_⟩
    rw [Processed.answer_of_stop rfl] at answer
    simp only [answer]
    exact ⟨answer, holds, same.trans none_, silent⟩

theorem brings_splitting {rules : Rules} {m : MultipartSupport} {frames : List Frame} {c : Charset}
    (boundary : String) {b : Building} {query : List (String × String)}
    (table : b.table.Holds query) (none_ : b.files = [])
    (room : query.length ≤ rules.maxCount)
    (drain : wholeOf m.limits.maxRequestSize frames = .ok (dataOf frames)) :
    ∃ h, FromMultipart rules m query (some boundary) (.ok c) frames h ∧
      Brings (splitting rules m boundary c (dataOf frames) b) h := by
  have called {o : Waiting Building Unit} {h : Harvest} (brings : Brings o h)
      (silent : h.calls = []) :
      Brings (o.after [.split boundary (dataOf frames) c])
        { h with calls := [(boundary, dataOf frames, c)] } := by
    refine ⟨brings.answer, brings.table, brings.files, ?_⟩
    rw [Outcome.after, splits_append, brings.calls, silent]
    rfl
  unfold splitting
  cases hs : m.splitter boundary (dataOf frames) c with
  | error fault =>
    exact ⟨_, .unsplit rfl rfl drain hs, called (brings_fail _ table none_) rfl⟩
  | ok parts =>
    rcases m.limits.refuses_or_allows parts with ⟨fault, hf, refused⟩ | ⟨hf, count, files⟩
    · simp only [hf]
      exact ⟨_, .split rfl rfl drain hs (.refused refused),
        called (brings_fail (.invalidParameters fault) table none_) rfl⟩
    · obtain ⟨stored, kept, result, brings, built⟩ :=
        brings_storingParts rules table none_ count files room
      simp only [hf]
      exact ⟨_, .split rfl rfl drain hs brings, called built rfl⟩

theorem eq_dataOf_of_wholeOf {limit : Option Nat} {frames : List Frame} {bytes : Bytes}
    (h : wholeOf limit frames = .ok bytes) : bytes = dataOf frames := by
  unfold wholeOf at h
  split at h
  · cases h
  · split at h
    · cases h
    · exact (Except.ok.inj h).symm

theorem brings_fromMultipart {i : Input} {m : MultipartSupport} {t : Transport}
    (support : i.endpoint.multipart = some m) (boundary : Option String) {b : Building}
    {query : List (String × String)} (table : b.table.Holds query) (none_ : b.files = [])
    (room : query.length ≤ i.rules.maxCount) (untouched : b.access = .untouched t) :
    ∃ h, FromMultipart i.rules m query boundary b.encoding.resolve t.frames h ∧
      Brings (fromMultipart i none boundary b) h := by
  unfold fromMultipart
  rw [support]
  cases boundary with
  | none => exact ⟨_, .noBoundary rfl, brings_fail _ table none_⟩
  | some boundary =>
    simp only [decoding]
    cases hr : b.encoding.resolve with
    | error fault => exact ⟨_, .noCharset rfl rfl, brings_fail _ table none_⟩
    | ok c =>
      have unopened : b.access.mode = .unopened := by rw [untouched]; rfl
      have consumed := consume_of_unopened unopened m.limits.maxRequestSize none
      have drain : (b.access.consume m.limits.maxRequestSize none).answer =
          .ready (wholeOf m.limits.maxRequestSize t.frames) := by
        rw [consumed, untouched]
        exact Cursor.readToEnd_start m.limits.maxRequestSize t
      have silent : splits (b.access.consume m.limits.maxRequestSize none).effects = [] := by
        rw [consumed]
        exact splits_readToEnd m.limits.maxRequestSize none _
      simp only [draining, drain]
      cases hw : wholeOf m.limits.maxRequestSize t.frames with
      | error fault => exact ⟨_, .undrained rfl rfl hw, ⟨rfl, table, none_, silent⟩⟩
      | ok bytes =>
        have all := eq_dataOf_of_wholeOf hw
        subst all
        obtain ⟨h, brings, built⟩ := brings_splitting (c := c) boundary
          (b := { b with access := (b.access.consume m.limits.maxRequestSize none).state })
          table none_ room hw
        exact ⟨h, brings, built.after silent⟩

theorem files_fromQuery (i : Input) (b : Building) : (fromQuery i b).state.files = b.files := by
  unfold fromQuery
  cases i.query <;> rfl

/-- What a request with a multipart body brings: nothing of the body if the query is stopped. -/
inductive FromRequest (i : Input) (m : MultipartSupport) (boundary : Option String)
    (charset : Except RequestFault Charset) (frames : List Frame) : Harvest → Prop
  | stopped {fault : ParameterFault} (stop : i.processed.stop = some fault) :
      FromRequest i m boundary charset frames
        { stored := i.processed.stored, answer := .error (.invalidParameters fault) }
  | accepted {h : Harvest} (accepted : i.processed.stop = none)
      (brings : FromMultipart i.rules m i.processed.stored boundary charset frames h) :
      FromRequest i m boundary charset frames h

theorem brings_building {i : Input} {m : MultipartSupport} {boundary : Option String}
    {t : Transport} (kind : i.kind = .multipart boundary)
    (support : i.endpoint.multipart = some m) {b : Building} (table : b.table.Holds [])
    (none_ : b.files = []) (untouched : b.access = .untouched t) :
    ∃ h, FromRequest i m boundary b.encoding.resolve t.frames h ∧
      Brings (building i none b) h := by
  obtain ⟨query, access, encoding⟩ := comes_fromQuery i table
  have silent := (kept_fromQuery i b).silent
  have files : (fromQuery i b).state.files = [] := (files_fromQuery i b).trans none_
  unfold building Stage.andThen
  simp only [query.answer]
  cases hstop : (process i.rules [] (queryResults i.query)).stop with
  | some fault =>
    have answer := Processed.answer_of_stop hstop
    rw [answer]
    exact ⟨_, .stopped hstop, ⟨query.answer.trans (congrArg Awaited.ready answer), query.table,
      files, silent⟩⟩
  | none =>
    rw [Processed.answer_of_accepted hstop]
    have unopened : (fromQuery i b).state.access = .untouched t := access.trans untouched
    have room := length_process_le i.rules [] (queryResults i.query) (Nat.zero_le _)
    obtain ⟨h, brings, built⟩ :=
      brings_fromMultipart support boundary query.table files room unopened
    rw [encoding] at brings
    have body : fromBody i none (fromQuery i b).state =
        fromMultipart i none boundary (fromQuery i b).state := by
      simp only [fromBody, kind, unopened, Access.untouched]
    refine ⟨h, .accepted hstop brings, ?_⟩
    simp only [body]
    exact built.after silent

/-! ## The request -/

section

variable {i : Input} {m : MultipartSupport} {boundary : Option String}
  {charset : Except RequestFault Charset} {frames : List Frame} {h : Harvest}

theorem FromRequest.calls (from_ : FromRequest i m boundary charset frames h) :
    h.calls = [] ∨ ∃ b c, boundary = some b ∧ charset = .ok c ∧
      wholeOf m.limits.maxRequestSize frames = .ok (dataOf frames) ∧
      h.calls = [(b, dataOf frames, c)] := by
  cases from_ with
  | stopped _ => exact .inl rfl
  | accepted _ brings =>
    cases brings with
    | noBoundary | noCharset | undrained => exact .inl rfl
    | unsplit given resolved drain _ => exact .inr ⟨_, _, given, resolved, drain, rfl⟩
    | split given resolved drain _ _ => exact .inr ⟨_, _, given, resolved, drain, rfl⟩

/-- Where nothing stands in the way, the splitter is called. -/
theorem FromRequest.calls_splitter (from_ : FromRequest i m boundary charset frames h)
    (accepted : i.processed.stop = none) {b : String} {c : Charset} (given : boundary = some b)
    (resolved : charset = .ok c)
    (drain : wholeOf m.limits.maxRequestSize frames = .ok (dataOf frames)) :
    h.calls = [(b, dataOf frames, c)] := by
  subst given resolved
  cases from_ with
  | stopped stop => cases accepted.symm.trans stop
  | accepted _ brings =>
    cases brings with
    | noBoundary lacking => cases lacking
    | noCharset _ unresolved => cases unresolved
    | undrained _ _ failed => cases drain.symm.trans failed
    | unsplit given resolved | split given resolved =>
      cases given
      cases resolved
      rfl

/-- The parts that the splitter returns decide what becomes of them. -/
theorem FromRequest.of_parts (from_ : FromRequest i m boundary charset frames h)
    {b : String} {bytes : Bytes} {c : Charset} {parts : List Part}
    (called : (b, bytes, c) ∈ h.calls) (split : m.splitter b bytes c = .ok parts) :
    ∃ result, FromParts i.rules m.limits i.processed.stored parts h.stored h.files result ∧
      h.answer = result.mapError .invalidParameters := by
  cases from_ with
  | stopped _ => cases called
  | accepted _ brings =>
    cases brings with
    | noBoundary | noCharset | undrained => cases called
    | unsplit _ _ _ failed =>
      cases List.mem_singleton.1 called
      cases split.symm.trans failed
    | split _ _ _ split' brings =>
      cases List.mem_singleton.1 called
      cases split.symm.trans split'
      exact ⟨_, brings, rfl⟩

/-- A failure leaves no file. -/
theorem FromRequest.files_of_error (from_ : FromRequest i m boundary charset frames h)
    {f : RequestFault} (failed : h.answer = .error f) : h.files = [] := by
  cases from_ with
  | stopped _ => rfl
  | accepted _ brings =>
    cases brings with
    | noBoundary | noCharset | undrained | unsplit => rfl
    | split _ _ _ _ brings =>
      cases brings with
      | refused | crowded => rfl
      | accepted => cases failed

end

/-- When the parameters of a request with an untouched multipart body are first asked for, it brings
what `FromRequest` says. The splitter is called once at most, with the boundary, the whole body and
the charset in force. If it returns parts that keep all limits, all their named fields stand in the
table behind the query, and all their files are kept; and in every other case no file is. -/
theorem multipart_parsing_is_whole_or_leaves_no_file (r : Request) (t : Transport)
    (m : MultipartSupport) (boundary : Option String)
    (unparsed : r.parser.progress = .notStarted) (untouched : r.body = .untouched t)
    (kind : BodyKind.of r.head.contentType = .multipart boundary)
    (support : r.endpoint.multipart = some m) :
    let query := r.parserInput.processed.stored
    let o := r.ensureParsed none
    let table := o.state.parser.table
    let files := o.state.parser.files
    let calls := splits o.effects
    (∃ h, FromRequest r.parserInput m boundary r.encoding.resolve t.frames h ∧
      o.answer = .ready h.answer ∧ o.state.parser.progress = .done ∧ calls = h.calls ∧
      table.Holds h.stored ∧ files = h.files) ∧
    (calls = [] ∨ ∃ b c, boundary = some b ∧ r.encoding.resolve = .ok c ∧
      wholeOf m.limits.maxRequestSize t.frames = .ok (dataOf t.frames) ∧
      calls = [(b, dataOf t.frames, c)]) ∧
    (∀ b bytes c parts, (b, bytes, c) ∈ calls → m.splitter b bytes c = .ok parts →
      m.limits.AllowsCount parts → m.limits.AllowsFiles parts →
      query.length + (namedFields parts).length ≤ r.settings.maxParameterCount →
      o.answer = .ready (.ok ()) ∧ table.Holds (query ++ namedFields parts) ∧
        files = filesOf parts) ∧
    ∀ f, o.answer = .ready (.error f) → files = [] := by
  intro query o table files calls
  obtain ⟨h, from_, brings⟩ := brings_building (i := r.parserInput)
    (b := { access := r.body, encoding := r.encoding.freeze }) kind support Table.holds_empty rfl
    untouched
  rw [BodyEncoding.resolve_freeze] at from_
  obtain ⟨answer, done, sameCalls, holds, sameFiles⟩ : o.answer = .ready h.answer ∧
      o.state.parser.progress = .done ∧ calls = h.calls ∧ table.Holds h.stored ∧
      files = h.files := by
    simp only [o, table, files, calls, Request.ensureParsed, Workplace.ensureParsed, unparsed,
      Workplace.build, brings.answer, Outcome.within, Request.withWorkplace]
    refine ⟨trivial, trivial, ?_, brings.table, brings.files⟩
    rw [splits_append, brings.calls]
    exact List.append_nil _
  refine ⟨⟨h, from_, answer, done, sameCalls, holds, sameFiles⟩, ?_, ?_, ?_⟩
  · rw [sameCalls]
    exact from_.calls
  · intro b bytes c parts called split count few room
    rw [sameCalls] at called
    obtain ⟨result, parted, brought⟩ := from_.of_parts called split
    obtain ⟨ok, stored, kept⟩ := parted.whole count few room
    rw [answer, brought, ok, sameFiles, kept, ← stored]
    exact ⟨rfl, holds, rfl⟩
  · intro f failed
    rw [answer, Awaited.ready.injEq] at failed
    rw [sameFiles]
    exact from_.files_of_error failed

/-- A picture of three bytes. -/
def picture : FilePart := { name := "p", data := Bytes.ofText "png" }

/-- The parts of an upload: two fields and a picture, and a field without a name between them. -/
def uploadedParts : List Part :=
  [.field "a" "1", .file picture, .field "" "x", .field "b" "2"]

/-- An endpoint that takes these parts from everything. -/
def uploads : MultipartSupport := { splitter := fun _ _ _ => .ok uploadedParts }

/-- The frames of an upload that arrives in pieces. -/
def pieces : Body.Transport :=
  { frames := [.data (Bytes.ofText "--"), .waiting, .data [], .data (Bytes.ofText "b")] }

/-- A request with an upload, and room for so many values. -/
def upload (maxCount : Nat) : Request :=
  Request.receive
    { head :=
        { method := "POST", uri := { path := "/", query := some "a=0" }, version := .v11,
          fields := ⟨[("content-type", Bytes.ofText "multipart/form-data; boundary=b")]⟩ },
      transport := pieces,
      endpoint := { multipart := some uploads } }
    { maxParameterCount := maxCount } 1

theorem an_upload_is_taken_or_leaves_no_file :
    let taken := (upload 3).ensureParsed none
    let crowded := (upload 2).ensureParsed none
    (taken.answer = .ready (.ok ()) ∧
      taken.state.parser.table.getAll? "a" = some ["0", "1"] ∧
      taken.state.parser.table.names = ["a", "b"] ∧ taken.state.parser.files = [picture]) ∧
    crowded.answer = .ready (.error (.invalidParameters (.tooManyParameters 2))) ∧
      crowded.state.parser.files = [] := by
  have kind (n : Nat) : BodyKind.of (upload n).head.contentType = .multipart (some "b") := by
    have contentType : (upload n).head.contentType = (upload 0).head.contentType := rfl
    rw [contentType]
    decide +kernel
  have count : uploads.limits.AllowsCount uploadedParts := by
    intro limit set
    cases set
  have few : uploads.limits.AllowsFiles uploadedParts := by
    intro limit file set
    cases set
  have split : uploads.splitter "b" (Body.dataOf pieces.frames) .utf8 = .ok uploadedParts := rfl
  have stored3 : (upload 3).parserInput.processed.stored = [("a", "0")] := by decide +kernel
  have stored2 : (upload 2).parserInput.processed.stored = [("a", "0")] := by decide +kernel
  obtain ⟨⟨h, from3, -, -, calls, -⟩, -, whole, -⟩ := multipart_parsing_is_whole_or_leaves_no_file
    (upload 3) pieces uploads (some "b") rfl rfl (kind 3) rfl
  have called : h.calls = [("b", Body.dataOf pieces.frames, .utf8)] :=
    from3.calls_splitter (by decide +kernel) rfl (by decide +kernel) (by decide +kernel)
  obtain ⟨ok, holds, files⟩ := whole "b" (Body.dataOf pieces.frames) .utf8 uploadedParts
    (by rw [calls, called]; exact List.mem_cons_self) split count few (by rw [stored3]; decide)
  rw [stored3] at holds
  obtain ⟨⟨h', from2, answer, -⟩, -, -, noFile⟩ := multipart_parsing_is_whole_or_leaves_no_file
    (upload 2) pieces uploads (some "b") rfl rfl (kind 2) rfl
  have called' : h'.calls = [("b", Body.dataOf pieces.frames, .utf8)] :=
    from2.calls_splitter (by decide +kernel) rfl (by decide +kernel) (by decide +kernel)
  obtain ⟨result, brings, failed⟩ := from2.of_parts (called' ▸ List.mem_cons_self) split
  rw [failed, brings.crowd count few (by rw [stored2]; decide)] at answer
  refine ⟨⟨ok, (holds.getAll?_eq "a").trans ?_, holds.names_eq.trans ?_, files⟩, answer,
    noFile _ answer⟩
  · decide
  · decide

end WebRequest.Parameters
