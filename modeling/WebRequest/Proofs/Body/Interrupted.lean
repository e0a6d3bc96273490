-- A text that failures interrupt, read by lines or to its end. A failure takes nothing away: what
-- has not been read before it can be read behind it. All that the reads show of such a text is the
-- text itself, and how many lines end before each failure.
import Mathlib.Algebra.GroupWithZero.Nat
import WebRequest.Body.TextReader

namespace WebRequest.Body

/-- A text with failures in it. -/
@[ext] structure Interrupted where
  text : List Char
  /-- How many lines end before the first failure, or before the end. -/
  first : Nat
  /-- For each failure, how many lines end between it and the next one, or the end. -/
  later : List Nat := []
  deriving DecidableEq, Repr

/-- A read of a text that does not show the pieces it came in. -/
inductive Portion where
  | line
  | rest
  deriving DecidableEq, Repr

namespace Interrupted

def plain (text : List Char) : Interrupted := { text, first := text.count '\n' }

/-- A text with more text before it. -/
def behind (before : List Char) (t : Interrupted) : Interrupted :=
  { t with text := before ++ t.text, first := before.count '\n' + t.first }

/-- A text with a failure before it. -/
def broken (t : Interrupted) : Interrupted :=
  { text := t.text, first := 0, later := t.first :: t.later }

/-- No more lines end than there are line feeds. -/
def Proper (t : Interrupted) : Prop := t.first + t.later.sum ≤ t.text.count '\n'

theorem behind_behind (a b : List Char) (t : Interrupted) :
    (t.behind b).behind a = t.behind (a ++ b) := by
  simp [behind, List.count_append, Nat.add_assoc]

theorem behind_nil (t : Interrupted) : t.behind [] = t := by simp [behind]

theorem behind_plain (a b : List Char) : (plain b).behind a = plain (a ++ b) := by
  simp [behind, plain, List.count_append]

theorem proper_plain (text : List Char) : (plain text).Proper := by simp [Proper, plain]

theorem Proper.behind {t : Interrupted} (h : t.Proper) (before : List Char) :
    (t.behind before).Proper := by
  simp only [Proper, Interrupted.behind, List.count_append] at h ⊢
  omega

theorem Proper.broken {t : Interrupted} (h : t.Proper) : t.broken.Proper := by
  simpa [Proper, Interrupted.broken] using h

theorem Proper.fail {t : Interrupted} {next : Nat} {later : List Nat} (h : t.Proper)
    (failure : t.later = next :: later) :
    Proper { t with first := t.first + next, later } := by
  unfold Proper at h ⊢
  rw [failure, List.sum_cons] at h
  show t.first + next + later.sum ≤ t.text.count '\n'
  omega

theorem Proper.line {t : Interrupted} {n : Nat} {left : List Char} (h : t.Proper)
    (first : t.first = n + 1) (count : left.count '\n' = t.text.count '\n' - 1) :
    Proper { text := left, first := n, later := t.later } := by
  unfold Proper at h ⊢
  show n + t.later.sum ≤ left.count '\n'
  omega

/-! ## Reading -/

/-- One read, and what it leaves. A line is read if one ends before the next failure; the rest is
read if no failure is left. Otherwise the read fails, or comes to the end. -/
def read (fault : RequestFault) (portion : Portion) (t : Interrupted) :
    Except RequestFault (Option String) × Interrupted :=
  match portion, t.first, t.later with
  | .line, n + 1, later =>
    let line := t.text.takeWhile (· ≠ '\n')
    (.ok (some (String.ofList (TextReader.chomp line))),
      { text := (t.text.dropWhile (· ≠ '\n')).tail, first := n, later })
  | _, n, next :: later => (.error fault, { t with first := n + next, later })
  | .line, 0, [] => (.ok (if t.text = [] then none else some (String.ofList t.text)), plain [])
  | .rest, _, [] => (.ok (some (String.ofList t.text)), plain [])

/-- The answers of reads that follow one another. -/
def serve (fault : RequestFault) :
    List Portion → Interrupted → List (Except RequestFault (Option String))
  | [], _ => []
  | p :: ps, t => (t.read fault p).1 :: serve fault ps (t.read fault p).2

variable {fault : RequestFault} {t t₁ t₂ : Interrupted}

theorem read_line {n : Nat} {line left : List Char} (first : t.first = n + 1)
    (one : '\n' ∉ line) (text : t.text = line ++ '\n' :: left) :
    t.read fault .line =
      (.ok (some (String.ofList (TextReader.chomp line))),
        { text := left, first := n, later := t.later }) := by
  have plain : ∀ c ∈ line, (decide (c ≠ '\n')) = true := by
    intro c hc
    exact decide_eq_true fun same => one (same ▸ hc)
  obtain ⟨text', first', later⟩ := t
  subst text first
  simp only [read, List.takeWhile_append_of_pos plain, List.dropWhile_append_of_pos plain]
  simp

theorem read_of_failure {portion : Portion} {next : Nat} {later : List Nat}
    (unread : portion = .line → t.first = 0) (failure : t.later = next :: later) :
    t.read fault portion = (.error fault, { t with first := t.first + next, later }) := by
  obtain ⟨text, first, later'⟩ := t
  subst failure
  cases portion with
  | line =>
    obtain rfl : first = 0 := unread rfl
    rfl
  | rest => rfl

theorem read_last_line (first : t.first = 0) (later : t.later = []) :
    t.read fault .line =
      (.ok (if t.text = [] then none else some (String.ofList t.text)), plain []) := by
  obtain ⟨text, first', later'⟩ := t
  subst first later
  rfl

theorem read_rest (later : t.later = []) :
    t.read fault .rest = (.ok (some (String.ofList t.text)), plain []) := by
  obtain ⟨text, first, later'⟩ := t
  subst later
  rfl

/-! ## What the reads show -/

theorem exists_line {n : Nat} {text : List Char} (h : n + 1 ≤ text.count '\n') :
    ∃ line left, text = line ++ '\n' :: left ∧ '\n' ∉ line ∧
      left.count '\n' = text.count '\n' - 1 := by
  have feed : '\n' ∈ text := List.count_pos_iff.1 (by omega)
  obtain ⟨line, left, rfl, one⟩ := List.eq_append_cons_of_mem feed
  refine ⟨line, left, rfl, one, ?_⟩
  simp [List.count_append, List.count_eq_zero_of_not_mem one]

/-- The reads that follow one read show the same, too. -/
theorem step_of_serve_eq (same : ∀ ps, serve fault ps t₁ = serve fault ps t₂) (p : Portion) :
    (t₁.read fault p).1 = (t₂.read fault p).1 ∧
      ∀ ps, serve fault ps (t₁.read fault p).2 = serve fault ps (t₂.read fault p).2 :=
  ⟨(List.cons.inj (same [p])).1, fun ps => (List.cons.inj (same (p :: ps))).2⟩

/-- Reading the rest, once more after each failure, shows the text. -/
theorem text_eq_of_serve_eq (same : ∀ ps, serve fault ps t₁ = serve fault ps t₂) :
    t₁.text = t₂.text := by
  obtain ⟨answer, onward⟩ := step_of_serve_eq same .rest
  induction h₁ : t₁.later generalizing t₁ t₂ with
  | nil =>
    rw [read_rest h₁] at answer
    cases h₂ : t₂.later with
    | nil =>
      rw [read_rest h₂] at answer
      simpa [← String.toList_inj] using answer
    | cons next later =>
      rw [read_of_failure (by rintro ⟨⟩) h₂] at answer
      cases answer
  | cons next later ih =>
    rw [read_of_failure (by rintro ⟨⟩) h₁] at answer onward
    cases h₂ : t₂.later with
    | nil =>
      rw [read_rest h₂] at answer
      cases answer
    | cons next' later' =>
      rw [read_of_failure (by rintro ⟨⟩) h₂] at onward
      obtain ⟨answer', onward'⟩ := step_of_serve_eq onward .rest
      have text := ih onward answer' onward' rfl
      exact text

/-- A line of a text and the end of it answer differently. -/
theorem first_eq_zero_of_read_eq (proper : t₂.Proper) (text : t₁.text = t₂.text)
    (first : t₁.first = 0) (answer : (t₁.read fault .line).1 = (t₂.read fault .line).1) :
    t₂.first = 0 := by
  cases h₂ : t₂.first with
  | zero => rfl
  | succ n =>
    have feeds : n + 1 ≤ t₂.text.count '\n' := by
      unfold Proper at proper
      omega
    obtain ⟨line, left, split, one, -⟩ := exists_line feeds
    rw [read_line h₂ one split] at answer
    cases h₁ : t₁.later with
    | nil =>
      -- a line is shorter than the text that it is read from
      have shorter : (TextReader.chomp line).length ≤ line.length := by
        unfold TextReader.chomp
        split
        · simp
        · exact Nat.le_refl _
      have longer := congrArg List.length split
      rw [read_last_line first h₁, if_neg (by rw [text, split]; simp)] at answer
      have whole : t₁.text = TextReader.chomp line := by
        simpa [← String.toList_inj] using answer
      rw [← text, whole, List.length_append, List.length_cons] at longer
      omega
    | cons next later =>
      rw [read_of_failure (fun _ => first) h₁] at answer
      cases answer

/-- Texts that all reads show to be the same are the same. -/
theorem eq_of_serve_eq (proper₁ : t₁.Proper) (proper₂ : t₂.Proper)
    (same : ∀ ps, serve fault ps t₁ = serve fault ps t₂) : t₁ = t₂ := by
  -- each read of a line comes to the end, or takes a line or a failure away
  induction size : t₁.first + t₁.later.sum + t₁.later.length using Nat.strongRecOn
    generalizing t₁ t₂ with
  | ind n ih =>
    have text := text_eq_of_serve_eq same
    obtain ⟨answer, onward⟩ := step_of_serve_eq same .line
    cases first₁ : t₁.first with
    | zero =>
      have first₂ := first_eq_zero_of_read_eq proper₂ text first₁ answer
      cases later₁ : t₁.later with
      | nil =>
        cases later₂ : t₂.later with
        | nil => exact Interrupted.ext text (first₁.trans first₂.symm) (later₁.trans later₂.symm)
        | cons next' later' =>
          rw [read_last_line first₁ later₁, read_of_failure (fun _ => first₂) later₂] at answer
          cases answer
      | cons next later =>
        rw [read_of_failure (fun _ => first₁) later₁] at answer onward
        cases later₂ : t₂.later with
        | nil =>
          rw [read_last_line first₂ later₂] at answer
          cases answer
        | cons next' later' =>
          rw [read_of_failure (fun _ => first₂) later₂] at onward
          have smaller : t₁.first + next + later.sum + later.length < n := by
            rw [later₁, List.sum_cons, List.length_cons] at size
            omega
          have rest := ih _ smaller (proper₁.fail later₁) (proper₂.fail later₂) onward rfl
          simp only [Interrupted.mk.injEq, first₁, first₂, Nat.zero_add] at rest
          obtain ⟨-, rfl, rfl⟩ := rest
          exact Interrupted.ext text (first₁.trans first₂.symm) (later₁.trans later₂.symm)
    | succ k₁ =>
      cases first₂ : t₂.first with
      | zero =>
        have first := first_eq_zero_of_read_eq proper₁ text.symm first₂ answer.symm
        rw [first₁] at first
        cases first
      | succ k₂ =>
        have feeds : k₁ + 1 ≤ t₁.text.count '\n' := by
          unfold Proper at proper₁
          omega
        obtain ⟨line, left, split, one, count⟩ := exists_line feeds
        rw [read_line first₁ one split, read_line first₂ one (text ▸ split)] at onward
        have smaller : k₁ + t₁.later.sum + t₁.later.length < n := by omega
        have rest := ih _ smaller (proper₁.line first₁ count)
          (proper₂.line first₂ (text ▸ count)) onward rfl
        simp only [Interrupted.mk.injEq, true_and] at rest
        obtain ⟨rfl, later⟩ := rest
        exact Interrupted.ext text (first₁.trans first₂.symm) later

/-- The text, with a failure after so many of its lines. -/
structure FailsIn (text : List Char) (t : Interrupted) : Prop where
  starts : text <+: t.text
  fails : t.later ≠ []
  within : t.first ≤ text.count '\n'

theorem FailsIn.behind {text : List Char} (h : FailsIn text t) (before : List Char) :
    FailsIn (before ++ text) (t.behind before) := by
  refine ⟨List.prefix_append_right_inj before |>.2 h.starts, h.fails, ?_⟩
  rw [List.count_append]
  exact Nat.add_le_add_left h.within _

/-- A read that does not fail is that of a line. -/
theorem FailsIn.of_ok {text : List Char} (h : FailsIn text t) {p : Portion}
    (fine : ∃ piece, (t.read fault p).1 = .ok piece) : p = .line ∧ ∃ n, t.first = n + 1 := by
  obtain ⟨next, later, failure⟩ := List.exists_cons_of_ne_nil h.fails
  obtain ⟨piece, ok⟩ := fine
  by_cases unread : p = .line → t.first = 0
  · rw [read_of_failure unread failure] at ok
    cases ok
  · rw [Classical.not_imp] at unread
    exact ⟨unread.1, Nat.exists_eq_succ_of_ne_zero unread.2⟩

theorem FailsIn.read_line {n : Nat} {line left : List Char}
    (h : FailsIn (line ++ '\n' :: left) t) (first : t.first = n + 1) (one : '\n' ∉ line) :
    (t.read fault .line).1 = .ok (some (String.ofList (TextReader.chomp line))) ∧
      FailsIn left (t.read fault .line).2 := by
  obtain ⟨more, text⟩ := h.starts
  have split : t.text = line ++ '\n' :: (left ++ more) := by
    rw [← text, List.append_assoc]
    rfl
  have within := h.within
  rw [List.count_append, List.count_eq_zero_of_not_mem one, List.count_cons_self] at within
  rw [Interrupted.read_line first one split]
  refine ⟨rfl, ⟨more, rfl⟩, h.fails, ?_⟩
  show n ≤ left.count '\n'
  omega

/-- As long as no read fails, only the text before the failures shows. -/
theorem serve_eq_of_failsIn {text : List Char} (h₁ : FailsIn text t₁) (h₂ : FailsIn text t₂)
    (ps : List Portion) (fine₁ : ∀ a ∈ serve fault ps t₁, ∃ piece, a = .ok piece)
    (fine₂ : ∀ a ∈ serve fault ps t₂, ∃ piece, a = .ok piece) :
    serve fault ps t₁ = serve fault ps t₂ := by
  induction ps generalizing text t₁ t₂ with
  | nil => rfl
  | cons p ps ih =>
    obtain ⟨rfl, n₁, first₁⟩ := h₁.of_ok (fine₁ _ List.mem_cons_self)
    obtain ⟨-, n₂, first₂⟩ := h₂.of_ok (fine₂ _ List.mem_cons_self)
    have feeds : n₁ + 1 ≤ text.count '\n' := first₁ ▸ h₁.within
    obtain ⟨line, left, rfl, one, -⟩ := exists_line feeds
    obtain ⟨answer₁, left₁⟩ := h₁.read_line first₁ one
    obtain ⟨answer₂, left₂⟩ := h₂.read_line first₂ one
    have rest := ih left₁ left₂ (fun a ha => fine₁ a (List.mem_cons_of_mem _ ha))
      fun a ha => fine₂ a (List.mem_cons_of_mem _ ha)
    rw [serve, serve, answer₁, answer₂, rest]

end Interrupted

end WebRequest.Body
