-- A form without the segments that cannot be decoded. To skip these is to fail at nothing that is
-- left when they are deleted: both store the same pairs in the same order and come to the same
-- answer, and a form in which nothing has to be skipped is stored alike whatever the policy is.
import WebRequest.Proofs.Charset.Utf8
import WebRequest.Proofs.Parameters.Draining
import WebRequest.Proofs.Parameters.Skipping
import WebRequest.Proofs.Text

namespace WebRequest.Parameters

open Body Bytes

/-! ## What can be decoded -/

namespace Form

/-- An escaped text can be decoded, and what it stands for is text in the charset. -/
def decodes (charset : Charset) (text : Bytes) : Bool :=
  match percentDecode text with
  | .ok bytes => (charset.decode bytes).isSome
  | .error _ => false

/-- The name and the value of a segment can be decoded. -/
def isClean (charset : Charset) (segment : Bytes) : Bool :=
  decodes charset (splitSegment segment).1 && decodes charset (splitSegment segment).2

theorem toBool_decodeText (r : Reading) (text : Bytes) :
    (decodeText r text).toBool = decodes r.charset text := by
  unfold decodeText decodes
  rcases percentDecode text with offset | bytes
  · rfl
  · simp only
    rcases r.charset.decode bytes with _ | decoded <;> rfl

theorem toBool_pairOf (r : Reading) (segment : Bytes) :
    (pairOf r segment).toBool = isClean r.charset segment := by
  unfold pairOf isClean
  rw [← toBool_decodeText, ← toBool_decodeText]
  simp only
  rcases decodeText r (splitSegment segment).1 with f | name
  · rfl
  · simp only [Except.toBool, Bool.true_and]
    rcases decodeText r (splitSegment segment).2 with f | value <;> rfl

/-- A form without the segments of which the name or the value cannot be decoded. -/
def cleaned (charset : Charset) (form : Bytes) : Bytes :=
  Text.keeping (byteOf '&') (isClean charset) form

theorem length_cleaned_le (charset : Charset) (form : Bytes) :
    (cleaned charset form).length ≤ form.length :=
  (Text.keeping_sublist (byteOf '&') (isClean charset) form).length_le

theorem segments_eq (form : Bytes) :
    segments form = (form.splitOn (byteOf '&')).filter fun s => !s.isEmpty := by
  rw [List.splitOn_eq_splitOnP]
  rfl

theorem segments_cleaned (charset : Charset) (form : Bytes) :
    segments (cleaned charset form) = (segments form).filter (isClean charset) := by
  rw [segments_eq, segments_eq, List.filter_comm]
  by_cases some_ : (form.splitOn (byteOf '&')).filter (isClean charset) = []
  · have nothing : cleaned charset form = [] := by
      rw [cleaned, Text.keeping, some_, List.intercalate_nil]
    rw [some_, nothing]
    rfl
  · rw [cleaned, Text.splitOn_keeping some_]

/-- The pairs of the cleaned form are the pairs of the form that could be decoded. -/
theorem pairs_cleaned (r : Reading) (form : Bytes) :
    pairs r (cleaned r.charset form) = (pairs r form).filter Except.toBool := by
  unfold pairs
  rw [segments_cleaned, List.filter_map]
  congr 1
  apply List.filter_congr
  intro segment _
  exact (toBool_pairOf r segment).symm

/-- In the UTF-8 form of a text, the byte of an ampersand stands for an ampersand. -/
theorem writes_ampersand : Text.Writes String.utf8EncodeChar '&' (byteOf '&') := by
  refine ⟨by decide, fun c written => ?_⟩
  have same : c.toNat = (byteOf '&').toNat := Charset.toNat_of_mem_encodeChar written (by decide)
  rw [← Char.ofNat_toNat c, same]
  rfl

/-- A query without the segments of which the name or the value cannot be decoded. -/
def cleanedText (query : String) : String :=
  .ofList (Text.keeping '&' (fun piece => isClean .utf8 (ofText (.ofList piece))) query.toList)

theorem ofText_cleanedText (query : String) :
    ofText (cleanedText query) = cleaned .utf8 (ofText query) := by
  have pieces : (fun piece => isClean .utf8 (ofText (.ofList piece))) =
      fun piece : List Char => isClean .utf8 (piece.flatMap String.utf8EncodeChar) := by
    funext piece
    rw [Charset.ofText_eq, String.toList_ofList]
  rw [Charset.ofText_eq, Charset.ofText_eq, cleanedText, String.toList_ofList, pieces, cleaned]
  exact writes_ampersand.flatMap_keeping (isClean .utf8) query.toList

end Form

theorem queryResults_cleaned (query : Option String) :
    queryResults (query.map Form.cleanedText) = (queryResults query).filter Except.toBool := by
  cases query with
  | none => rfl
  | some query =>
    have pairs := Form.pairs_cleaned ⟨.utf8, .query⟩ (ofText query)
    rw [← Form.ofText_cleanedText] at pairs
    exact pairs

/-! ## Both policies -/

/-- Skipping what cannot be decoded is failing at nothing but the rest. -/
theorem storeFrom_skip (maxCount : Nat) (t : Table) (done done' : List Effect)
    {results : List Form.PairResult} (recoverable : Recoverable results) :
    let skipped := storeFrom ⟨maxCount, .skip⟩ t done results
    let failed := storeFrom ⟨maxCount, .fail⟩ t done' (results.filter Except.toBool)
    skipped.answer = failed.answer ∧ skipped.state = failed.state := by
  induction results generalizing t done done' with
  | nil => exact ⟨rfl, rfl⟩
  | cons p rest ih =>
    cases p with
    | error fault =>
      have recovers := recoverable fault List.mem_cons_self
      simp only [storeFrom, store, recovers]
      exact ih t _ done' recoverable.tail
    | ok pair =>
      have same : store ⟨maxCount, .skip⟩ t (.ok pair) = store ⟨maxCount, .fail⟩ t (.ok pair) := rfl
      rw [List.filter_cons_of_pos (by rfl)]
      simp only [storeFrom, same]
      split
      · exact ⟨rfl, rfl⟩
      · exact ih _ _ _ recoverable.tail

/-- If nothing has failed, nothing had to be skipped. -/
theorem toBool_of_storeFrom {maxCount : Nat} {t : Table} {done : List Effect}
    {results : List Form.PairResult}
    (accepted : (storeFrom ⟨maxCount, .fail⟩ t done results).answer = .ok ()) :
    ∀ p ∈ results, p.toBool = true := by
  induction results generalizing t done with
  | nil => exact List.forall_mem_nil _
  | cons p rest ih =>
    cases p with
    | error fault =>
      simp [storeFrom, store] at accepted
    | ok pair =>
      refine List.forall_mem_cons.2 ⟨rfl, ?_⟩
      simp only [storeFrom] at accepted
      split at accepted
      · cases accepted
      · exact ih accepted

/-- Two buildings have come to the same answer, the same table and the same files. -/
structure Alike (o o' : Waiting Building Unit) : Prop where
  answer : o.answer = o'.answer
  table : o.state.table = o'.state.table
  files : o.state.files = o'.state.files

theorem alike_storing (maxCount : Nat) {results : List Form.PairResult}
    (recoverable : Recoverable results) {b b' : Building} (table : b.table = b'.table)
    (files : b.files = b'.files) :
    Alike (storing ⟨maxCount, .skip⟩ results b)
      (storing ⟨maxCount, .fail⟩ (results.filter Except.toBool) b') := by
  obtain ⟨answer, state⟩ := storeFrom_skip maxCount b.table [] [] recoverable
  rw [table] at answer state
  refine ⟨?_, ?_, files⟩
  · simp only [storing, storeAll, Outcome.map, table, answer]
  · simp only [storing, storeAll, Outcome.map, table, state]

theorem Alike.after {o o' : Waiting Building Unit} (h : Alike o o')
    (effects effects' : List Effect) : Alike (o.after effects) (o'.after effects') :=
  ⟨h.answer, h.table, h.files⟩

/-- A building is about to meet a form in a charset that is known: nobody has touched it, and it
arrives as a whole and within the limit. -/
structure MeetsForm (i : Input) (b : Building) (charset : Charset) (form : Bytes) : Prop where
  kind : i.kind = .urlEncoded
  arrives : ∃ t : Transport, b.access = .untouched t ∧ failure? t.frames = none ∧
    dataOf t.frames = form
  resolved : b.encoding.resolve = .ok charset
  within : form.length ≤ i.settings.maxPostSize

/-- A form that arrives is read as a whole. -/
theorem MeetsForm.whole {i : Input} {b : Building} {charset : Charset} {form : Bytes}
    (h : MeetsForm i b charset form) :
    ∃ t, b.access = .untouched t ∧
      wholeOf (some i.settings.maxPostSize) t.frames = .ok form := by
  obtain ⟨t, untouched, arrives, rfl⟩ := h.arrives
  have within : Within (some i.settings.maxPostSize) (dataOf t.frames).length := by
    rintro l ⟨⟩
    exact h.within
  refine ⟨t, untouched, ?_⟩
  rw [wholeOf, if_neg (within_iff.1 within), arrives]

/-- A form that arrives is stored. -/
theorem MeetsForm.fromBody {i : Input} {b : Building} {charset : Charset} {form : Bytes}
    (h : MeetsForm i b charset form) :
    ∃ access effects, fromBody i none b =
      (storing i.rules (Form.pairs ⟨charset, .body⟩ form) { b with access }).after effects := by
  obtain ⟨t, untouched, whole⟩ := h.whole
  have unopened : b.access.mode = .unopened := by rw [untouched]; rfl
  have body := ofBody_fromBody i none b
  generalize Parameters.fromBody i none b = o at body
  cases body with
  | left leaves _ => exact absurd leaves (not_leaves (.form h.kind) unopened h.resolved)
  | taken takes _ resolved =>
    obtain rfl := takes.unique (.form h.kind)
    cases h.resolved.symm.trans resolved
    have drained : (drain i.form.limit none b.access).answer = .ready (.ok form) := by
      rw [untouched, answer_drain, Input.form, whole]
      rfl
    rw [draining_eq]
    simp only [drained]
    exact ⟨_, _, rfl⟩

theorem Alike.andThen {first first' second second' : Stage} {b b' : Building}
    (h : Alike (first b) (first' b'))
    (next : Alike (second (first b).state) (second' (first' b').state)) :
    Alike (first.andThen second b) (first'.andThen second' b') := by
  unfold Stage.andThen
  simp only [← h.answer]
  split
  · exact next.after _ _
  · exact h

/-- The stage of the query leaves a form to be met. -/
theorem MeetsForm.behindQuery {i : Input} {b : Building} {charset : Charset} {form : Bytes}
    (h : MeetsForm i b charset form) : MeetsForm i (fromQuery i b).state charset form := by
  have kept := kept_fromQuery i b
  refine ⟨h.kind, ?_, ?_, h.within⟩
  · rw [kept.access]
    exact h.arrives
  · rw [kept.encoding]
    exact h.resolved

/-- What can be decoded of a query and of a form decides what is built when the rest is skipped. -/
theorem alike_building {i i' : Input} {b b' : Building} {charset : Charset} {form form' : Bytes}
    {maxCount : Nat} (skips : i.rules = ⟨maxCount, .skip⟩) (fails : i'.rules = ⟨maxCount, .fail⟩)
    (meets : MeetsForm i b charset form) (meets' : MeetsForm i' b' charset form')
    (query : queryResults i'.query = (queryResults i.query).filter Except.toBool)
    (body : Form.pairs ⟨charset, .body⟩ form' =
      (Form.pairs ⟨charset, .body⟩ form).filter Except.toBool)
    (table : b.table = b'.table) (files : b.files = b'.files) :
    Alike (building i none b) (building i' none b') := by
  have first : Alike (fromQuery i b) (fromQuery i' b') := by
    rw [fromQuery_eq, fromQuery_eq, query, skips, fails]
    exact alike_storing maxCount (recoverable_queryResults i.query) table files
  refine first.andThen ?_
  obtain ⟨access, effects, read⟩ := meets.behindQuery.fromBody
  obtain ⟨access', effects', read'⟩ := meets'.behindQuery.fromBody
  rw [read, read', body, skips, fails]
  refine Alike.after ?_ effects effects'
  exact alike_storing maxCount (recoverable_pairs _ _) first.table first.files

theorem ok_of_andThen {first second : Stage} {b : Building}
    (h : (first.andThen second b).answer = .ready (.ok ())) :
    (first b).answer = .ready (.ok ()) ∧ (second (first b).state).answer = .ready (.ok ()) := by
  unfold Stage.andThen at h
  simp only at h
  split at h
  · exact ⟨by assumption, h⟩
  · exact absurd h (by assumption)

/-- If nothing has failed, everything could be decoded. -/
theorem toBool_of_building {i : Input} {b : Building} {charset : Charset} {form : Bytes}
    {maxCount : Nat} (fails : i.rules = ⟨maxCount, .fail⟩) (meets : MeetsForm i b charset form)
    (accepted : (building i none b).answer = .ready (.ok ())) :
    (∀ p ∈ queryResults i.query, p.toBool = true) ∧
      ∀ p ∈ Form.pairs ⟨charset, .body⟩ form, p.toBool = true := by
  have decoded {results : List Form.PairResult} {b : Building}
      (h : (storing i.rules results b).answer = .ready (.ok ())) :
      ∀ p ∈ results, p.toBool = true := by
    rw [fails] at h
    simp only [storing, storeAll, Outcome.map, Awaited.ready.injEq] at h
    rcases hs : (storeFrom ⟨maxCount, .fail⟩ b.table [] results).answer with fault | _
    · rw [hs] at h
      cases h
    · exact toBool_of_storeFrom hs
  obtain ⟨access, effects, read⟩ := meets.behindQuery.fromBody
  obtain ⟨query, body⟩ := ok_of_andThen accepted
  rw [fromQuery_eq] at query
  rw [read] at body
  exact ⟨decoded query, decoded body⟩

/-- Under the policy to skip, nothing but the limit on their number fails the parameters of a
form that arrives. -/
theorem answer_of_skip {i : Input} {b : Building} {charset : Charset} {form : Bytes}
    (skips : i.rules.policy = .skip) (meets : MeetsForm i b charset form) (h : b.table.Holds []) :
    (building i none b).answer = .ready (.ok ()) ∨
      (building i none b).answer =
        .ready (.error (.invalidParameters (.tooManyParameters i.rules.maxCount))) := by
  obtain ⟨t, untouched, whole⟩ := meets.whole
  have results : bodyResults b.encoding i.settings.maxPostSize t =
      .ok (Form.pairs ⟨charset, .body⟩ form) := by
    simp only [bodyResults, meets.resolved, whole]
  have comes := comes_building i h meets.kind untouched
  rw [results] at comes
  rw [comes.answer, meaningOf]
  rcases hs : (process i.rules [] (queryResults i.query ++
      Form.pairs ⟨charset, .body⟩ form)).stop with _ | fault
  · exact .inl (congrArg _ (Processed.answer_of_accepted hs))
  · obtain rfl := stop_of_skip skips [] _ hs
    exact .inr (congrArg _ (Processed.answer_of_stop hs))

end WebRequest.Parameters
