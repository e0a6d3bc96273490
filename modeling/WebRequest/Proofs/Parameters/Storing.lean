-- Storing the results of pairs, from left to right, until a fault or the limit on the number
-- of values stops it. What has been stored up to then is what the table holds.
import WebRequest.Parameters.Parser
import WebRequest.Proofs.Parameters.Table

namespace WebRequest.Parameters

/-- The pairs that have been stored, and the fault that stopped the storing. -/
structure Processed where
  stored : List (String × String)
  stop : Option ParameterFault

/-- Processes results of decoding, behind pairs that have been stored. A pair without a name is
dropped. A pair that finds the limit reached stops the processing, as does one that cannot be
decoded, unless the policy is to skip it. Any other pair is stored. -/
def process (rules : Rules) (stored : List (String × String)) :
    List Form.PairResult → Processed
  | [] => { stored, stop := none }
  | .ok pair :: rest =>
    if pair.1.isEmpty then process rules stored rest
    else if rules.maxCount ≤ stored.length then
      { stored, stop := some (.tooManyParameters rules.maxCount) }
    else process rules (stored ++ [pair]) rest
  | .error fault :: rest =>
    match rules.policy with
    | .skip => process rules stored rest
    | .fail => { stored, stop := some fault }

/-- What the processing answers. -/
def Processed.result (p : Processed) : Except ParameterFault Unit :=
  match p.stop with
  | some fault => .error fault
  | none => .ok ()

/-- Results that follow others are processed unless those have stopped the processing. -/
theorem process_append (rules : Rules) (stored : List (String × String))
    (first second : List Form.PairResult) :
    process rules stored (first ++ second) =
      if (process rules stored first).stop.isSome then process rules stored first
      else process rules (process rules stored first).stored second := by
  induction first generalizing stored with
  | nil => rfl
  | cons p rest ih =>
    cases p with
    | ok pair =>
      simp only [List.cons_append, process]
      split
      · exact ih stored
      · split
        · rfl
        · exact ih (stored ++ [pair])
    | error fault =>
      obtain ⟨maxCount, policy⟩ := rules
      cases policy with
      | skip => exact ih stored
      | fail => rfl

/-- The limit is never exceeded. -/
theorem length_process_le (rules : Rules) (stored : List (String × String))
    (results : List Form.PairResult) (h : stored.length ≤ rules.maxCount) :
    (process rules stored results).stored.length ≤ rules.maxCount := by
  induction results generalizing stored with
  | nil => exact h
  | cons p rest ih =>
    cases p with
    | ok pair =>
      simp only [process]
      split
      · exact ih stored h
      · split
        · exact h
        · apply ih
          rw [List.length_append, List.length_singleton]
          omega
    | error fault =>
      simp only [process]
      cases rules.policy with
      | skip => exact ih stored h
      | fail => exact h

/-- Whatever keeps a text of a form from being decoded, it can be recovered from. -/
theorem isRecoverable_of_decodeText {r : Form.Reading} {bytes : Bytes} {fault : ParameterFault}
    (h : Form.decodeText r bytes = .error fault) : fault.isRecoverable = true := by
  unfold Form.decodeText at h
  split at h
  · cases h
    rfl
  · split at h
    · cases h
    · cases h
      rfl

theorem isRecoverable_of_pairOf {r : Form.Reading} {segment : Bytes} {fault : ParameterFault}
    (h : Form.pairOf r segment = .error fault) : fault.isRecoverable = true := by
  unfold Form.pairOf at h
  cases hname : Form.decodeText r (Form.splitSegment segment).1 with
  | error f =>
    simp only [hname, Except.error.injEq] at h
    subst h
    exact isRecoverable_of_decodeText hname
  | ok name =>
    cases hvalue : Form.decodeText r (Form.splitSegment segment).2 with
    | error f =>
      simp only [hname, hvalue, Except.map, Except.error.injEq] at h
      subst h
      exact isRecoverable_of_decodeText hvalue
    | ok value => simp [hname, hvalue, Except.map] at h

/-- Results of which every fault can be recovered from. -/
def Recoverable (results : List Form.PairResult) : Prop :=
  ∀ fault, .error fault ∈ results → fault.isRecoverable = true

theorem recoverable_pairs (r : Form.Reading) (bytes : Bytes) :
    Recoverable (Form.pairs r bytes) := by
  intro fault h
  obtain ⟨segment, -, hpair⟩ := List.mem_map.1 h
  exact isRecoverable_of_pairOf hpair

theorem recoverable_fields (fields : List (String × String)) :
    Recoverable (fields.map .ok) := by
  intro fault h
  obtain ⟨pair, -, hpair⟩ := List.mem_map.1 h
  cases hpair

theorem Recoverable.tail {p : Form.PairResult} {rest : List Form.PairResult}
    (h : Recoverable (p :: rest)) : Recoverable rest :=
  fun fault hf => h fault (List.mem_cons_of_mem p hf)

/-- Storing results in a table is processing them. -/
theorem storeFrom_holds (rules : Rules) {t : Table} {stored : List (String × String)}
    (done : List Effect) (results : List Form.PairResult) (h : t.Holds stored)
    (recoverable : Recoverable results) :
    (storeFrom rules t done results).state.Holds (process rules stored results).stored ∧
      (storeFrom rules t done results).answer = (process rules stored results).result := by
  induction results generalizing t stored done with
  | nil => exact ⟨h, rfl⟩
  | cons p rest ih =>
    cases p with
    | ok pair =>
      simp only [storeFrom, store, process]
      by_cases empty : pair.1.isEmpty = true
      · simp only [empty, if_true]
        exact ih _ h recoverable.tail
      · simp only [empty]
        by_cases full : rules.maxCount ≤ stored.length
        · simp only [h.valueCount_eq, full, if_true]
          exact ⟨h, rfl⟩
        · simp only [h.valueCount_eq, full, if_false]
          exact ih _ (h.append pair) recoverable.tail
    | error fault =>
      have recovers := recoverable fault List.mem_cons_self
      simp only [storeFrom, store, process, recovers]
      cases rules.policy with
      | skip => exact ih _ h recoverable.tail
      | fail => exact ⟨h, rfl⟩

end WebRequest.Parameters
