-- What building the parameters does with the body. It leaves the body alone, or drains it once,
-- and only if nobody has opened it. The splitter is called once at most, and no failure is
-- anything but a failure of the parameters or of their charset.
import WebRequest.Proofs.Body.Drain
import WebRequest.Parameters.Parser

namespace WebRequest.Parameters

open Body

/-! ## Calls of the splitter -/

/-- The calls of a splitter among the effects. -/
def splits (effects : List Effect) : List (String × Bytes × Charset) :=
  effects.filterMap fun
    | .split boundary body charset => some (boundary, body, charset)
    | _ => none

@[simp] theorem splits_nil : splits [] = [] := rfl

@[simp] theorem splits_append (a b : List Effect) : splits (a ++ b) = splits a ++ splits b :=
  List.filterMap_append

@[simp] theorem splits_log (level : Level) (message : String) (fields : List (String × String))
    (rest : List Effect) : splits (.log level message fields :: rest) = splits rest := rfl

@[simp] theorem splits_split (boundary : String) (body : Bytes) (charset : Charset)
    (rest : List Effect) :
    splits (.split boundary body charset :: rest) = (boundary, body, charset) :: splits rest := rfl

theorem splits_feed {σ : Type} (take : σ → Bytes → σ × Bool) (p : Patience) (s : σ) (c : Cursor) :
    splits (c.feed take p s).effects = [] := by
  unfold Cursor.feed
  cases c.transport with
  | none => rfl
  | some t =>
    simp only
    split <;> rfl

theorem splits_readToEnd (limit : Option Nat) (p : Patience) (c : Cursor) :
    splits (c.readToEnd limit p).effects = [] := by
  have fed := splits_feed (Cursor.Collected.add limit) p {} c
  unfold Cursor.readToEnd
  simp only
  split <;> simp [fed]

theorem splits_store (rules : Rules) (t : Table) (result : Form.PairResult) :
    splits (store rules t result).effects = [] := by
  unfold store
  split
  · split
    · rfl
    · split <;> rfl
  · split <;> rfl

theorem splits_storeFrom (rules : Rules) (results : List Form.PairResult) (t : Table)
    (done : List Effect) (h : splits done.reverse = []) :
    splits (storeFrom rules t done results).effects = [] := by
  induction results generalizing t done with
  | nil => exact h
  | cons result rest ih =>
    have more : splits ((store rules t result).effects.reverse ++ done).reverse = [] := by
      simp [h, splits_store]
    simp only [storeFrom]
    split
    · exact more
    · exact ih _ _ more

/-! ## Failures -/

/-- A failure to build the parameters. -/
def ParsingFault (f : RequestFault) : Prop :=
  (∃ g, f = .invalidParameters g) ∨ ∃ label, f = .unsupportedEncoding label

theorem unsupported_of_resolve {e : BodyEncoding} {f : RequestFault}
    (h : e.resolve = .error f) : ∃ label, f = .unsupportedEncoding label := by
  unfold BodyEncoding.resolve Charset.require at h
  split at h
  · cases h
  · split at h
    · split at h
      · cases h
      · cases h
        exact ⟨_, rfl⟩
    · cases h

/-- A fault of the parameters that cannot be recovered from. -/
def Lasting (f : RequestFault) : Prop := ∃ g, f = .invalidParameters g ∧ g.isRecoverable = false

/-- A body that cannot be drained is beyond the limit, or its transport has failed. -/
theorem lasting_of_drain {limit : Option Nat} {p : Patience} {c : Cursor} {f : RequestFault}
    (h : (c.readToEnd limit p).answer = .ready (.error f)) : Lasting f.whileDraining := by
  unfold Cursor.readToEnd at h
  simp only at h
  split at h
  · rename_i fault _
    cases h
    cases fault <;> exact ⟨_, rfl, rfl⟩
  · cases h
  · cases h
  · cases h
    exact ⟨_, rfl, rfl⟩

theorem Lasting.parsingFault {f : RequestFault} (h : Lasting f) : ParsingFault f := by
  obtain ⟨g, rfl, -⟩ := h
  exact .inl ⟨g, rfl⟩

/-! ## Stages that leave the body alone -/

/-- A stage has run to its end without touching the body, and has called the splitter so often at
most. -/
structure Kept (calls : Nat) (b : Building) (o : Waiting Building Unit) : Prop where
  access : o.state.access = b.access
  encoding : o.state.encoding = b.encoding
  ran : o.answer ≠ .abandoned
  fault : ∀ f, o.answer = .ready (.error f) → ParsingFault f
  calls : (splits o.effects).length ≤ calls

theorem Kept.silent {b : Building} {o : Waiting Building Unit} (h : Kept 0 b o) :
    splits o.effects = [] := List.length_eq_zero_iff.1 (Nat.le_zero.1 h.calls)

theorem kept_fail {f : RequestFault} (h : ParsingFault f) (b : Building) :
    Kept 0 b (Stage.fail f b) := by
  refine ⟨rfl, rfl, ?_, ?_, Nat.le_refl 0⟩
  · intro habandoned
    cases habandoned
  · intro g hg
    cases hg
    exact h

theorem kept_skip (b : Building) : Kept 0 b (Stage.skip b) := by
  refine ⟨rfl, rfl, ?_, ?_, Nat.le_refl 0⟩
  · intro habandoned
    cases habandoned
  · intro f hf
    cases hf

theorem kept_note (message : String) (fields : List (String × String)) (b : Building) :
    Kept 0 b (Stage.note message fields b) := by
  refine ⟨rfl, rfl, ?_, ?_, Nat.le_refl 0⟩
  · intro habandoned
    cases habandoned
  · intro f hf
    cases hf

theorem kept_storing (rules : Rules) (results : List Form.PairResult) (b : Building) :
    Kept 0 b (storing rules results b) := by
  refine ⟨rfl, rfl, ?_, ?_, ?_⟩
  · intro habandoned
    cases habandoned
  · intro f hf
    simp only [storing, storeAll, Outcome.map, Awaited.ready.injEq] at hf
    rcases hs : (storeFrom rules b.table [] results).answer with fault | _
    · rw [hs] at hf
      cases hf
      exact .inl ⟨_, rfl⟩
    · rw [hs] at hf
      cases hf
  · have none_ := splits_storeFrom rules results b.table [] rfl
    simp [storing, storeAll, Outcome.map, none_]

theorem Kept.andThen {first second : Stage} {b : Building} (h : Kept 0 b (first b))
    (next : ∀ b', Kept 0 b' (second b')) : Kept 0 b (first.andThen second b) := by
  have follows := next (first b).state
  unfold Stage.andThen
  simp only
  split
  · refine ⟨follows.access.trans h.access, follows.encoding.trans h.encoding, follows.ran,
      follows.fault, ?_⟩
    simp [Outcome.after, h.silent, follows.silent]
  · exact h

theorem kept_storingParts (rules : Rules) (parts : List Part) (b : Building) :
    Kept 0 b (storingParts rules parts b) := by
  apply (kept_storing rules _ b).andThen
  intro b'
  refine ⟨rfl, rfl, ?_, ?_, Nat.le_refl 0⟩
  · intro habandoned
    cases habandoned
  · intro f hf
    cases hf

theorem kept_splitting (rules : Rules) (m : MultipartSupport) (boundary : String)
    (charset : Charset) (bytes : Bytes) (b : Building) :
    Kept 1 b (splitting rules m boundary charset bytes b) := by
  have called {o : Waiting Building Unit} (h : Kept 0 b o) :
      Kept 1 b (o.after [.split boundary bytes charset]) := by
    refine ⟨h.access, h.encoding, h.ran, h.fault, ?_⟩
    have hcalls := h.calls
    simp only [Outcome.after, List.singleton_append, splits_split, List.length_cons]
    omega
  unfold splitting
  apply called
  rcases m.splitter boundary bytes charset with f | parts
  · exact kept_fail (.inl ⟨_, rfl⟩) b
  · simp only
    rcases m.limits.fault? parts with _ | f
    · exact kept_storingParts rules parts b
    · exact kept_fail (.inl ⟨_, rfl⟩) b

theorem kept_fromQuery (i : Input) (b : Building) : Kept 0 b (fromQuery i b) := by
  unfold fromQuery
  cases i.query with
  | none => exact kept_skip b
  | some query => exact kept_storing i.rules _ b

/-! ## Draining -/

theorem consume_of_unopened {a : Access} (h : a.mode = .unopened) (limit : Option Nat)
    (p : Patience) :
    a.consume limit p =
      (a.cursor.readToEnd limit p).within fun cursor => { mode := .consumed, cursor } := by
  simp only [Access.consume, h]

theorem mode_consume {a : Access} (h : a.mode = .unopened) (limit : Option Nat) (p : Patience) :
    (a.consume limit p).state.mode = .consumed := by
  rw [consume_of_unopened h]
  rfl

/-- How the draining of a body goes: it is given up, it fails, or all bytes have been read and are
gone on with. -/
inductive Drains (limit : Option Nat) (p : Patience) (next : Bytes → Stage) (b : Building)
    (o : Waiting Building Unit) : Prop
  | givenUp (drain : (b.access.consume limit p).answer = .abandoned)
      (answer : o.answer = .abandoned) (encoding : o.state.encoding = b.encoding)
      (access : o.state.access = (b.access.consume limit p).state) (silent : splits o.effects = [])
  | failed {f : RequestFault} (drain : (b.access.consume limit p).answer = .ready (.error f))
      (lasting : Lasting f.whileDraining) (answer : o.answer = .ready (.error f.whileDraining))
      (encoding : o.state.encoding = b.encoding)
      (access : o.state.access = (b.access.consume limit p).state) (silent : splits o.effects = [])
  | read {bytes : Bytes} {effects : List Effect}
      (drain : (b.access.consume limit p).answer = .ready (.ok bytes))
      (silent : splits effects = [])
      (eq : o = (next bytes { b with access := (b.access.consume limit p).state }).after effects)

theorem drains_draining {b : Building} (unopened : b.access.mode = .unopened)
    (limit : Option Nat) (p : Patience) (next : Bytes → Stage) :
    Drains limit p next b (draining limit p next b) := by
  have consumed := consume_of_unopened unopened limit p
  have silent : splits (b.access.consume limit p).effects = [] := by
    rw [consumed]
    exact splits_readToEnd limit p _
  unfold draining
  simp only
  rcases ha : (b.access.consume limit p).answer with (f | bytes) | _
  · have failed : (b.access.cursor.readToEnd limit p).answer = .ready (.error f) := by
      rw [consumed] at ha
      exact ha
    exact .failed ha (lasting_of_drain failed) rfl rfl rfl silent
  · exact .read ha silent rfl
  · exact .givenUp ha rfl rfl rfl silent

/-! ## What becomes of the body -/

/-- What building does with the body: it leaves it alone, or drains it under a limit. -/
inductive BodyUse (p : Patience) (b : Building) (o : Waiting Building Unit) : Prop
  | left (kept : Kept 0 b o)
  | drained (limit : Option Nat) (unopened : b.access.mode = .unopened)
      (access : o.state.access = (b.access.consume limit p).state)
      (encoding : o.state.encoding = b.encoding)
      (abandoned : o.answer = .abandoned ↔ (b.access.consume limit p).answer = .abandoned)
      (fault : ∀ f, o.answer = .ready (.error f) → ParsingFault f)
      (calls : (splits o.effects).length ≤ 1)

theorem bodyUse_draining {limit : Option Nat} {p : Patience} {next : Bytes → Stage} {b : Building}
    (unopened : b.access.mode = .unopened) (kept : ∀ bytes b', Kept 1 b' (next bytes b')) :
    BodyUse p b (draining limit p next b) := by
  have drains := drains_draining unopened limit p next
  generalize draining limit p next b = o at drains
  cases drains with
  | givenUp drain answer encoding access silent =>
    refine .drained limit unopened access encoding (iff_of_true answer drain) ?_ ?_
    · intro f hf
      rw [answer] at hf
      cases hf
    · simp [silent]
  | failed drain lasting answer encoding access silent =>
    refine .drained limit unopened access encoding ?_ ?_ ?_
    · simp [drain, answer]
    · intro f hf
      rw [answer] at hf
      cases hf
      exact lasting.parsingFault
    · simp [silent]
  | @read bytes effects drain silent eq =>
    have h := kept bytes { b with access := (b.access.consume limit p).state }
    subst eq
    refine .drained limit unopened h.access h.encoding ?_ h.fault ?_
    · have ran := h.ran
      simp [drain, Outcome.after, ran]
    · have hcalls := h.calls
      simpa [Outcome.after, silent] using hcalls

theorem bodyUse_decoding {p : Patience} {next : Charset → Stage} {b : Building}
    (h : ∀ charset, BodyUse p b (next charset b)) : BodyUse p b (decoding next b) := by
  unfold decoding
  split
  · rename_i f hf
    exact .left (kept_fail (.inr (unsupported_of_resolve hf)) b)
  · exact h _

theorem bodyUse_fromForm (i : Input) (p : Patience) {b : Building}
    (unopened : b.access.mode = .unopened) : BodyUse p b (fromForm i p b) := by
  apply bodyUse_decoding
  intro charset
  apply bodyUse_draining unopened
  intro bytes b'
  have h := kept_storing i.rules (Form.pairs ⟨charset, .body⟩ bytes) b'
  exact { h with calls := Nat.le_succ_of_le h.calls }

theorem bodyUse_fromMultipart (i : Input) (p : Patience) (boundary : Option String) {b : Building}
    (unopened : b.access.mode = .unopened) : BodyUse p b (fromMultipart i p boundary b) := by
  unfold fromMultipart
  rcases i.endpoint.multipart with _ | m
  · exact .left (kept_note _ _ b)
  rcases boundary with _ | boundary
  · exact .left (kept_fail (.inl ⟨_, rfl⟩) b)
  · apply bodyUse_decoding
    intro charset
    apply bodyUse_draining unopened
    intro bytes b'
    exact kept_splitting i.rules _ _ charset bytes b'

theorem bodyUse_fromBody (i : Input) (p : Patience) (b : Building) :
    BodyUse p b (fromBody i p b) := by
  unfold fromBody
  split
  · exact .left (kept_skip b)
  · split
    · rename_i unopened
      split
      · exact bodyUse_fromMultipart i p _ unopened
      · exact bodyUse_fromForm i p unopened
    · exact .left (kept_note _ _ b)

/-- What follows a stage that leaves the body alone decides what becomes of it. -/
theorem Kept.bodyUse_andThen {p : Patience} {first second : Stage} {b : Building}
    (h : Kept 0 b (first b)) (next : ∀ b', BodyUse p b' (second b')) :
    BodyUse p b (first.andThen second b) := by
  have follows := next (first b).state
  have silent := h.silent
  unfold Stage.andThen
  simp only
  split
  · cases follows with
    | left kept =>
      refine .left ⟨kept.access.trans h.access, kept.encoding.trans h.encoding, kept.ran,
        kept.fault, ?_⟩
      have hcalls := kept.calls
      simpa [Outcome.after, silent] using hcalls
    | drained limit unopened access encoding abandoned fault calls =>
      rw [h.access] at unopened access abandoned
      refine .drained limit unopened access (encoding.trans h.encoding) abandoned fault ?_
      simpa [Outcome.after, silent] using calls
  · exact .left h

theorem bodyUse_building (i : Input) (p : Patience) (b : Building) :
    BodyUse p b (building i p b) :=
  (kept_fromQuery i b).bodyUse_andThen (bodyUse_fromBody i p)

end WebRequest.Parameters
