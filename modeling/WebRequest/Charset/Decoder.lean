-- Decoding text that arrives in chunks, and decoding a whole text at once. The two
-- agree on well-formed input: a chunk boundary inside a character changes nothing.
-- Malformed input ends the decoding of its chunk; the text before it is kept.
import WebRequest.Charset.Scan

namespace WebRequest.Charset

/-- What reading some bytes comes to. -/
structure Run where
  /-- The characters completed, up to the end or to malformed input. -/
  text : List Char
  /-- Where the decoder stands. -/
  next : Scan
  /-- Text owed to the next run after malformed input. -/
  owed : List Char := []
  /-- No malformed input was met. -/
  wellFormed : Bool := true
  deriving DecidableEq, Repr

/-- Reads bytes from a state, behind `taken` bytes of the same chunk and the characters `done`,
which stand in reverse. -/
def runFrom (c : Charset) (s : Scan) (taken : Nat) (done : List Char) : Bytes → Run
  | [] => { text := done.reverse, next := s }
  | b :: bs =>
    match step c s b with
    | .more text next => runFrom c next (taken + 1) (text.reverse ++ done) bs
    | .malformed next owed within =>
      if within.any (· ≤ taken + 1) then
        { text := done.reverse, next := {}, wellFormed := false }
      else { text := done.reverse, next, owed, wellFormed := false }

def run (c : Charset) (s : Scan) (chunk : Bytes) : Run := runFrom c s 0 [] chunk

/-! ## Chunks -/

/-- A decoder between two chunks. -/
structure Decoder where
  charset : Charset
  scan : Scan := {}
  owed : List Char := []
  deriving DecidableEq, Repr

/-- What a decoder makes of a chunk. -/
structure Decoded where
  text : List Char
  decoder : Decoder
  wellFormed : Bool

/-- Decodes the next chunk, after the text owed from before. -/
def Decoder.feed (d : Decoder) (chunk : Bytes) : Decoded :=
  let r := run d.charset d.scan chunk
  { text := d.owed ++ r.text,
    decoder := { d with scan := r.next, owed := r.owed },
    wellFormed := r.wellFormed }

/-- Ends the decoding: the text owed, and no character may be incomplete. -/
def Decoder.finish (d : Decoder) : Decoded :=
  { text := d.owed,
    decoder := { charset := d.charset },
    wellFormed := d.scan.pending.isEmpty }

/-- The text of the bytes, if all of them are well-formed. -/
def decodeChars (c : Charset) (bytes : Bytes) : Option (List Char) :=
  let r := run c {} bytes
  if r.wellFormed && r.next.pending.isEmpty then some r.text else none

def decode (c : Charset) (bytes : Bytes) : Option String :=
  (decodeChars c bytes).map String.ofList

/-! ## Chunk boundaries -/

/-- The characters done before only stand in front. -/
theorem runFrom_done (c : Charset) (s : Scan) (taken : Nat) (done : List Char) (bs : Bytes) :
    runFrom c s taken done bs =
      { runFrom c s taken [] bs with text := done.reverse ++ (runFrom c s taken [] bs).text } := by
  induction bs generalizing s taken done with
  | nil => simp [runFrom]
  | cons b bs ih =>
    simp only [runFrom]
    cases step c s b with
    | more text next =>
      simp only
      rw [ih _ _ (text.reverse ++ done), ih _ _ (text.reverse ++ [])]
      simp
    | malformed next owed within =>
      simp only
      split <;> simp

/-- How much of the chunk came before decides only where decoding goes on after malformed
input. -/
theorem runFrom_taken (c : Charset) (s : Scan) (taken taken' : Nat) (done : List Char)
    (bs : Bytes) :
    (runFrom c s taken done bs).text = (runFrom c s taken' done bs).text ∧
      (runFrom c s taken done bs).wellFormed = (runFrom c s taken' done bs).wellFormed := by
  induction bs generalizing s taken taken' done with
  | nil => exact ⟨rfl, rfl⟩
  | cons b bs ih =>
    simp only [runFrom]
    cases step c s b with
    | more text next => exact ih _ _ _ _
    | malformed next owed within =>
      simp only
      constructor <;> (split <;> split <;> rfl)

/-- A run over two pieces is a run over the second from where the first ends. -/
theorem runFrom_append {c : Charset} {s : Scan} {taken : Nat} {done : List Char} {a : Bytes}
    (b : Bytes) (h : (runFrom c s taken done a).wellFormed = true) :
    runFrom c s taken done (a ++ b) =
      runFrom c (runFrom c s taken done a).next (taken + a.length)
        (runFrom c s taken done a).text.reverse b := by
  induction a generalizing s taken done with
  | nil => simp [runFrom]
  | cons x xs ih =>
    simp only [List.cons_append, runFrom] at h ⊢
    cases hs : step c s x with
    | more text next =>
      simp only [hs] at h ⊢
      rw [ih h, List.length_cons, Nat.add_right_comm, Nat.add_assoc]
    | malformed next owed within =>
      simp only [hs] at h
      split at h <;> simp at h

/-- Two chunks in a row decode like the one chunk that they make up, while the input is
well-formed. -/
theorem run_append {c : Charset} {s : Scan} {a : Bytes} (b : Bytes)
    (h : (run c s a).wellFormed = true) :
    (run c s (a ++ b)).text = (run c s a).text ++ (run c (run c s a).next b).text ∧
      (run c s (a ++ b)).wellFormed = (run c (run c s a).next b).wellFormed := by
  have e := runFrom_append b h
  rw [runFrom_done c (runFrom c s 0 [] a).next, List.reverse_reverse] at e
  have k := runFrom_taken c (run c s a).next (0 + a.length) 0 [] b
  constructor
  · calc (run c s (a ++ b)).text
        = (run c s a).text ++ (runFrom c (run c s a).next (0 + a.length) [] b).text := by
          rw [run, e]; rfl
      _ = (run c s a).text ++ (run c (run c s a).next b).text := by rw [k.1]; rfl
  · calc (run c s (a ++ b)).wellFormed
        = (runFrom c (run c s a).next (0 + a.length) [] b).wellFormed := by rw [run, e]; rfl
      _ = (run c (run c s a).next b).wellFormed := by rw [k.2]; rfl

end WebRequest.Charset
