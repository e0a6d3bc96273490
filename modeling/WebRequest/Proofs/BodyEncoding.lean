-- The encoding of a body over any changes to it. The name that it reports is the label of the
-- charset that it resolves to, because an override keeps the name it was accepted under; and both
-- come from the first source that there is, by the last word of each.
import Mathlib.Data.List.TakeWhile
import WebRequest.BodyEncoding
import WebRequest.Proofs.Runs
import WebRequest.Proofs.Text

namespace WebRequest

theorem Charset.forLabel?_trim (label : String) :
    forLabel? (Text.trim label) = forLabel? label := by
  have same : Text.trim (Text.trim label) = Text.trim label := by
    rw [Text.trim, Text.toList_trim, Text.strip_strip, ← Text.trim]
  rw [forLabel?, same, forLabel?]

-- Here and for `setName`, the definition is opened as it stands: its equation would be proved by
-- going through all the labels there are.
theorem Charset.require_of_some {label : String} {c : Charset} (h : forLabel? label = some c) :
    require label = .ok c := by
  delta require
  rw [h]

theorem Charset.require_of_none {label : String} (h : forLabel? label = none) :
    require label = .error (.unsupportedEncoding label) := by
  delta require
  rw [h]

theorem Charset.mem_all (c : Charset) : c ∈ all := by
  cases c with
  | single table => cases table <;> simp [all]
  | utf16 order => cases order <;> simp [all]
  | _ => simp [all]

theorem Charset.forLabel?_name (c : Charset) : forLabel? c.name = some c := by
  have named : ∀ c ∈ all, forLabel? c.name = some c := by decide +kernel
  exact named c (mem_all c)

namespace BodyEncoding

/-- Something that is done to an encoding. -/
inductive Change where
  /-- Records what the media type declares. -/
  | declare (name : Option String)
  | override (label : String)
  | choose (charset : Charset)
  | freeze

def Change.isFreeze : Change → Bool
  | .freeze => true
  | _ => false

def perform (e : BodyEncoding) : Change → Attempt BodyEncoding Unit
  | .declare name => .succeed (e.withDeclared name) ()
  | .override label => e.setName label
  | .choose charset => e.setCharset charset
  | .freeze => .succeed e.freeze ()

/-- The encoding after some changes, in order. -/
abbrev after (e : BodyEncoding) (changes : List Change) : BodyEncoding :=
  Runs.after perform e changes

/-- An encoding of which only the defaults are known. -/
def ofDefaults (context container : Option String) : BodyEncoding := { context, container }

/-! ## What counts of the changes -/

/-- The override that a change asks for, if it is accepted: its name without the blanks around it,
and its charset. -/
def Change.accepted? : Change → Option (String × Charset)
  | .override label => (Charset.forLabel? label).map fun charset => (Text.trim label, charset)
  | .choose charset => some (charset.name, charset)
  | _ => none

/-- The name that a change declares, if it says anything about that. -/
def Change.declared? : Change → Option (Option String)
  | .declare name => some name
  | _ => none

/-- The last override that is accepted before the encoding is frozen. -/
def lastOverride (changes : List Change) : Option (String × Charset) :=
  ((changes.takeWhile (!·.isFreeze)).filterMap Change.accepted?).getLast?

/-- The name that is declared last, if there is one. -/
def lastDeclared (changes : List Change) : Option String :=
  (changes.filterMap Change.declared?).getLast?.join

theorem takeWhile_snoc {α : Type} (p : α → Bool) (xs : List α) (x : α) :
    (xs ++ [x]).takeWhile p =
      if xs.all p then xs ++ [x].takeWhile p else xs.takeWhile p := by
  induction xs with
  | nil => rfl
  | cons y xs ih =>
    by_cases hy : p y = true
    · simp only [List.cons_append, List.takeWhile_cons_of_pos hy, ih, List.all_cons, hy,
        Bool.true_and]
      split <;> rfl
    · simp [hy]

/-- Once the encoding is frozen, an override does not count; until then the last one does. -/
theorem lastOverride_snoc (changes : List Change) (change : Change) :
    lastOverride (changes ++ [change]) =
      if changes.any Change.isFreeze then lastOverride changes
      else change.accepted?.or (lastOverride changes) := by
  unfold lastOverride
  rw [takeWhile_snoc]
  cases frozen : changes.any Change.isFreeze with
  | true =>
    have stops : ¬ (changes.all (!·.isFreeze)) = true := by
      rw [← List.not_any_eq_all_not, frozen]
      decide
    rw [if_neg stops, if_pos rfl]
  | false =>
    have all : (changes.all (!·.isFreeze)) = true := by
      rw [← List.not_any_eq_all_not, frozen]
      rfl
    have whole : changes.takeWhile (!·.isFreeze) = changes :=
      List.takeWhile_eq_self_iff.2 (List.all_eq_true.1 all)
    have last : (([change].takeWhile (!·.isFreeze)).filterMap Change.accepted?).getLast? =
        change.accepted? := by
      cases change with
      | override label => cases h : Change.accepted? (.override label) <;> simp [h, Change.isFreeze]
      | choose charset => simp [Change.accepted?, Change.isFreeze]
      | declare name => simp [Change.accepted?, Change.isFreeze]
      | freeze => simp [Change.accepted?, Change.isFreeze]
    rw [if_pos all, if_neg Bool.false_ne_true, whole, List.filterMap_append, List.getLast?_append,
      last]

theorem lastDeclared_snoc (changes : List Change) (change : Change) :
    lastDeclared (changes ++ [change]) = change.declared?.getD (lastDeclared changes) := by
  unfold lastDeclared
  rw [List.filterMap_append, List.getLast?_append]
  cases change <;> simp [Change.declared?]

/-! ## The encoding after changes -/

theorem setName_of_ok {name : String} {charset : Charset} (h : Charset.require name = .ok charset)
    (e : BodyEncoding) : e.setName name = e.apply (Text.trim name) charset := by
  delta setName
  rw [h]

theorem setName_of_error {name : String} {fault : RequestFault}
    (h : Charset.require name = .error fault) (e : BodyEncoding) :
    e.setName name = .fail e fault := by
  delta setName
  rw [h]

theorem answer_apply (e : BodyEncoding) (name : String) (charset : Charset) :
    (e.apply name charset).answer = .ok () := by
  unfold apply
  split <;> rfl

theorem state_apply (e : BodyEncoding) (name : String) (charset : Charset) :
    (e.apply name charset).state =
      { e with override := if e.frozen then e.override else some (name, charset) } := by
  cases frozen : e.frozen with
  | true =>
    rw [apply_of_frozen frozen, if_pos rfl, ← frozen]
  | false => simp [apply, frozen]

theorem state_perform (e : BodyEncoding) (change : Change) :
    (perform e change).state =
      { e with
        override := if e.frozen then e.override else change.accepted?.or e.override,
        declared := change.declared?.getD e.declared,
        frozen := e.frozen || change.isFreeze } := by
  cases change with
  | declare name =>
    simp [perform, Attempt.succeed, withDeclared, Change.accepted?, Change.declared?,
      Change.isFreeze]
  | freeze =>
    simp [perform, Attempt.succeed, freeze, Change.accepted?, Change.declared?, Change.isFreeze]
  | choose charset =>
    rw [perform, setCharset, state_apply]
    simp [Change.accepted?, Change.declared?, Change.isFreeze]
  | override label =>
    rw [perform]
    cases known : Charset.forLabel? label with
    | none =>
      rw [setName_of_error (Charset.require_of_none known)]
      simp [Attempt.fail, Change.accepted?, known, Change.declared?, Change.isFreeze]
    | some charset =>
      rw [setName_of_ok (Charset.require_of_some known), state_apply]
      simp [Change.accepted?, known, Change.declared?, Change.isFreeze]

/-- What each source has last said is all that is left of the changes. -/
theorem after_eq (context container : Option String) (changes : List Change) :
    after (ofDefaults context container) changes =
      { override := lastOverride changes, declared := lastDeclared changes, context, container,
        frozen := changes.any Change.isFreeze } := by
  induction changes using List.reverseRecOn with
  | nil => rfl
  | append_singleton changes change ih =>
    rw [after, Runs.after_snoc, ← after, ih, state_perform, lastOverride_snoc, lastDeclared_snoc,
      List.any_append, List.any_cons, List.any_nil, Bool.or_false]

/-- An override was accepted under the name that it keeps. -/
theorem require_of_accepted {change : Change} {name : String} {charset : Charset}
    (h : change.accepted? = some (name, charset)) : Charset.require name = .ok charset := by
  apply Charset.require_of_some
  cases change with
  | override label =>
    simp only [Change.accepted?, Option.map_eq_some_iff, Prod.mk.injEq] at h
    obtain ⟨known, lookup, rfl, rfl⟩ := h
    rw [Charset.forLabel?_trim, lookup]
  | choose chosen =>
    simp only [Change.accepted?, Option.some.injEq, Prod.mk.injEq] at h
    obtain ⟨rfl, rfl⟩ := h
    exact Charset.forLabel?_name chosen
  | declare name => cases h
  | freeze => cases h

theorem require_of_lastOverride {changes : List Change} {name : String} {charset : Charset}
    (h : lastOverride changes = some (name, charset)) : Charset.require name = .ok charset := by
  obtain ⟨change, -, accepted⟩ := List.mem_filterMap.1 (List.mem_of_getLast? h)
  exact require_of_accepted accepted

/-- An encoding whose override was accepted under its name resolves to what it is named. -/
theorem resolve_eq_of_override {e : BodyEncoding}
    (named : ∀ name charset, e.override = some (name, charset) →
      Charset.require name = .ok charset) :
    e.resolve = e.name.elim (.ok .utf8) Charset.require := by
  unfold resolve
  rcases h : e.override with _ | ⟨name, charset⟩
  · cases e.name with
    | none => rw [Option.elim_none]
    | some label => rw [Option.elim_some]
  · simp only [BodyEncoding.name, h, Option.map_some, Option.some_or, Option.elim_some]
    exact (named name charset h).symm

/-- Only an override by a label that selects no charset is refused, and it is refused as a whole. -/
theorem perform_of_refused {e : BodyEncoding} {change : Change} {fault : RequestFault}
    (h : (perform e change).answer = .error fault) : perform e change = .fail e fault := by
  cases change with
  | declare name => cases h
  | freeze => cases h
  | choose charset =>
    rw [perform, setCharset, answer_apply] at h
    cases h
  | override label =>
    cases known : Charset.require label with
    | ok charset =>
      rw [perform, setName_of_ok known, answer_apply] at h
      cases h
    | error other =>
      rw [perform, setName_of_error known] at h ⊢
      rw [Except.error.inj h]

/-- The encoding that is reported is the one that decodes: a body is decoded by the charset of the
reported name, or is refused by that name, and by UTF-8 if there is none. Both the name and the
charset come from the last override accepted before the encoding was frozen, or else from what was
declared last, the default of the context or that of the container, in this order. What is refused
changes nothing. -/
theorem the_reported_encoding_decodes (context container : Option String)
    (changes : List Change) :
    let e := after (ofDefaults context container) changes
    let default := (lastDeclared changes).or (context.or container)
    (∀ name, e.name = some name → e.resolve = Charset.require name) ∧
      (e.name = none → e.resolve = .ok .utf8) ∧
      (∀ name charset, lastOverride changes = some (name, charset) →
        e.name = some name ∧ e.resolve = .ok charset) ∧
      (lastOverride changes = none →
        e.name = default ∧ e.resolve = default.elim (.ok .utf8) Charset.require) ∧
      ∀ change fault, (perform e change).answer = .error fault →
        perform e change = .fail e fault := by
  intro e default
  have last : e.override = lastOverride changes := by rw [show e = _ from after_eq ..]
  have named : e.name = ((lastOverride changes).map (·.1)).or default := by
    rw [show e = _ from after_eq ..]
    rfl
  have decodes : e.resolve = e.name.elim (.ok .utf8) Charset.require :=
    resolve_eq_of_override fun _ _ h => require_of_lastOverride (last ▸ h)
  refine ⟨?_, ?_, ?_, ?_, fun _ _ => perform_of_refused⟩
  · intro name h
    rw [decodes, h, Option.elim_some]
  · intro h
    rw [decodes, h, Option.elim_none]
  · intro name charset h
    have name_eq : e.name = some name := by rw [named, h, Option.map_some, Option.some_or]
    rw [decodes, name_eq, Option.elim_some, require_of_lastOverride h]
    exact ⟨rfl, rfl⟩
  · intro h
    have name_eq : e.name = default := by rw [named, h, Option.map_none, Option.none_or]
    rw [decodes, name_eq]
    exact ⟨rfl, rfl⟩

/-- An override outlives the freeze and what comes after it, and is reported without the blanks
that it was given with. -/
theorem an_early_override_decodes :
    let e := after (ofDefaults (some "windows-1251") none)
      [.declare (some "Shift_JIS"), .override "\tUTF-16le ", .freeze, .choose .gbk]
    e.name = some "UTF-16le" ∧ e.resolve = .ok (.utf16 .little) ∧
      e.resolve = Charset.require "UTF-16le" ∧
      perform e (.override "none") = .fail e (.unsupportedEncoding "none") := by
  intro e
  obtain ⟨decodes, -, overridden, -, refused⟩ := the_reported_encoding_decodes
    (some "windows-1251") none
    [.declare (some "Shift_JIS"), .override "\tUTF-16le ", .freeze, .choose .gbk]
  obtain ⟨named, charset⟩ := overridden "UTF-16le" (.utf16 .little) (by decide +kernel)
  exact ⟨named, charset, decodes _ named, refused _ _ (by decide +kernel)⟩

end BodyEncoding

end WebRequest
