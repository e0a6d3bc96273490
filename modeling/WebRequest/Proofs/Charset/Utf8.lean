-- UTF-8 as a way to write texts. Every character is written as one to four bytes, and reading them
-- gives the character and nothing else; so the UTF-8 form of a text decodes to the text.
import Mathlib.Logic.Basic
import WebRequest.Charset.Decoder

namespace WebRequest.Charset

theorem between_iff {low high b : UInt8} :
    between low high b = true ↔ low.toNat ≤ b.toNat ∧ b.toNat ≤ high.toNat := by
  simp [between, UInt8.le_iff_toNat_le]

theorem toNat_ofNat {n : Nat} (h : n < 256) : (UInt8.ofNat n).toNat = n := by
  rw [UInt8.toNat_ofNat', Nat.mod_eq_of_lt h]

/-- The byte behind the first one, by the numbers of both. -/
theorem between_utf8Second {first second : UInt8} (low : 0x80 ≤ second.toNat)
    (high : second.toNat ≤ 0xBF) (long3 : first.toNat = 0xE0 → 0xA0 ≤ second.toNat)
    (surrogate : first.toNat = 0xED → second.toNat ≤ 0x9F)
    (long4 : first.toNat = 0xF0 → 0x90 ≤ second.toNat)
    (large : first.toNat = 0xF4 → second.toNat ≤ 0x8F) :
    between (utf8Second first).1 (utf8Second first).2 second = true := by
  rw [between_iff]
  unfold utf8Second
  split
  · rename_i h
    subst h
    exact ⟨long3 rfl, high⟩
  · split
    · rename_i h
      subst h
      exact ⟨low, surrogate rfl⟩
    · split
      · rename_i h
        subst h
        exact ⟨long4 rfl, high⟩
      · split
        · rename_i h
          subst h
          exact ⟨low, large rfl⟩
        · exact ⟨low, high⟩

/-! ## Steps -/

theorem lt_iff {b : UInt8} {n : Nat} (h : n < 256) : b < UInt8.ofNat n ↔ b.toNat < n := by
  rw [UInt8.lt_iff_toNat_lt, toNat_ofNat h]

theorem stepUtf8_ascii {b : UInt8} (h : b.toNat < 0x80) :
    stepUtf8 [] b = .emit (Bytes.charOf b) :=
  if_pos ((lt_iff (by decide)).2 h)

theorem stepUtf8_first {b : UInt8} (low : 0xC2 ≤ b.toNat) (high : b.toNat ≤ 0xF4) :
    stepUtf8 [] b = .wait [b] := by
  have large : ¬ b < 0x80 := by
    intro small
    have small' : b.toNat < 0x80 := (lt_iff (by decide)).1 small
    omega
  have leads : between 0xC2 0xF4 b = true := between_iff.2 ⟨low, high⟩
  simp only [stepUtf8, if_neg large, leads, if_true]

theorem stepUtf8_second {first b : UInt8}
    (follows : between (utf8Second first).1 (utf8Second first).2 b = true) :
    stepUtf8 [first] b =
      if first.toNat < 0xE0 then .emit (Char.ofNat (first.toNat % 32 * 64 + tailBits b))
      else .wait [first, b] := by
  simp only [stepUtf8, follows, Bool.not_true, Bool.false_eq_true, if_false]
  exact if_congr (lt_iff (by decide)) rfl rfl

theorem stepUtf8_third {first second b : UInt8} (low : 0x80 ≤ b.toNat) (high : b.toNat ≤ 0xBF) :
    stepUtf8 [first, second] b =
      if first.toNat < 0xF0 then
        .emit (Char.ofNat ((first.toNat % 16 * 64 + tailBits second) * 64 + tailBits b))
      else .wait [first, second, b] := by
  have follows : between 0x80 0xBF b = true := between_iff.2 ⟨low, high⟩
  simp only [stepUtf8, follows, Bool.not_true, Bool.false_eq_true, if_false]
  exact if_congr (lt_iff (by decide)) rfl rfl

theorem stepUtf8_fourth {first second third b : UInt8} (low : 0x80 ≤ b.toNat)
    (high : b.toNat ≤ 0xBF) :
    stepUtf8 [first, second, third] b =
      .emit (Char.ofNat (((first.toNat % 8 * 64 + tailBits second) * 64 + tailBits third) * 64 +
        tailBits b)) := by
  have follows : between 0x80 0xBF b = true := between_iff.2 ⟨low, high⟩
  simp only [stepUtf8, follows, Bool.not_true, Bool.false_eq_true, if_false]

/-! ## Characters -/

variable {first second third fourth : UInt8}

theorem runFrom_more {s next : Scan} {b : UInt8} {text : List Char}
    (h : stepUtf8 s.pending b = .more text next) (taken : Nat) (done : List Char) (rest : Bytes) :
    runFrom .utf8 s taken done (b :: rest) =
      runFrom .utf8 next (taken + 1) (text.reverse ++ done) rest := by
  have hs : step .utf8 s b = .more text next := h
  simp only [runFrom, hs]

/-- The character is read from the bytes, whatever comes before and behind it. -/
def Reads (bytes : Bytes) (c : Char) : Prop :=
  ∀ (taken : Nat) (done : List Char) (rest : Bytes),
    ∃ taken', runFrom .utf8 {} taken done (bytes ++ rest) = runFrom .utf8 {} taken' (c :: done) rest

theorem reads_one (ascii : first.toNat < 0x80) : Reads [first] (Char.ofNat first.toNat) := by
  intro taken done rest
  rw [List.cons_append, runFrom_more (stepUtf8_ascii ascii)]
  exact ⟨_, rfl⟩

theorem reads_two (low : 0xC2 ≤ first.toNat) (high : first.toNat < 0xE0)
    (follows : between (utf8Second first).1 (utf8Second first).2 second = true) :
    Reads [first, second] (Char.ofNat (first.toNat % 32 * 64 + tailBits second)) := by
  intro taken done rest
  have read0 : stepUtf8 [] first = .wait [first] := stepUtf8_first low (by omega)
  have read1 := stepUtf8_second follows
  rw [if_pos high] at read1
  rw [List.cons_append, runFrom_more read0, List.cons_append, runFrom_more read1]
  exact ⟨_, rfl⟩

theorem reads_three (low : 0xE0 ≤ first.toNat) (high : first.toNat < 0xF0)
    (follows : between (utf8Second first).1 (utf8Second first).2 second = true)
    (tail : 0x80 ≤ third.toNat ∧ third.toNat ≤ 0xBF) :
    Reads [first, second, third]
      (Char.ofNat ((first.toNat % 16 * 64 + tailBits second) * 64 + tailBits third)) := by
  intro taken done rest
  have read0 : stepUtf8 [] first = .wait [first] := stepUtf8_first (by omega) (by omega)
  have read1 := stepUtf8_second follows
  have read2 : stepUtf8 [first, second] third = _ := stepUtf8_third tail.1 tail.2
  rw [if_neg (by omega)] at read1
  rw [if_pos high] at read2
  rw [List.cons_append, runFrom_more read0, List.cons_append, runFrom_more read1,
    List.cons_append, runFrom_more read2]
  exact ⟨_, rfl⟩

theorem reads_four (low : 0xF0 ≤ first.toNat) (high : first.toNat ≤ 0xF4)
    (follows : between (utf8Second first).1 (utf8Second first).2 second = true)
    (tail : 0x80 ≤ third.toNat ∧ third.toNat ≤ 0xBF)
    (tail' : 0x80 ≤ fourth.toNat ∧ fourth.toNat ≤ 0xBF) :
    Reads [first, second, third, fourth]
      (Char.ofNat (((first.toNat % 8 * 64 + tailBits second) * 64 + tailBits third) * 64 +
        tailBits fourth)) := by
  intro taken done rest
  have read0 : stepUtf8 [] first = .wait [first] := stepUtf8_first (by omega) high
  have read1 := stepUtf8_second follows
  have read2 : stepUtf8 [first, second] third = _ := stepUtf8_third tail.1 tail.2
  have read3 : stepUtf8 [first, second, third] fourth = _ := stepUtf8_fourth tail'.1 tail'.2
  rw [if_neg (by omega)] at read1
  rw [if_neg (by omega)] at read2
  rw [List.cons_append, runFrom_more read0, List.cons_append, runFrom_more read1,
    List.cons_append, runFrom_more read2, List.cons_append, runFrom_more read3]
  exact ⟨_, rfl⟩

/-- The number of a character is none of a surrogate, and not too large. -/
theorem valid_toNat (c : Char) : c.toNat < 0xD800 ∨ 0xDFFF < c.toNat ∧ c.toNat < 0x110000 :=
  c.valid

theorem reads_encoded_one {v : Nat} (high : v ≤ 127) : Reads [UInt8.ofNat v] (Char.ofNat v) := by
  have b0 : (UInt8.ofNat v).toNat = v := toNat_ofNat (by omega)
  have reads : Reads [UInt8.ofNat v] _ := reads_one (by omega)
  rwa [b0] at reads

theorem reads_encoded_two {v : Nat} (low : 127 < v) (high : v ≤ 2047) :
    Reads [UInt8.ofNat (v / 64 % 32 + 192), UInt8.ofNat (v % 64 + 128)] (Char.ofNat v) := by
  have b0 := toNat_ofNat (n := v / 64 % 32 + 192) (by omega)
  have b1 := toNat_ofNat (n := v % 64 + 128) (by omega)
  generalize UInt8.ofNat (v / 64 % 32 + 192) = first at b0
  generalize UInt8.ofNat (v % 64 + 128) = second at b1
  have follows : between (utf8Second first).1 (utf8Second first).2 second = true := by
    apply between_utf8Second <;> omega
  have reads := reads_two (by omega) (by omega) follows
  have value : first.toNat % 32 * 64 + tailBits second = v := by
    unfold tailBits
    omega
  rwa [value] at reads

theorem reads_encoded_three {v : Nat} (low : 2047 < v) (high : v ≤ 65535)
    (valid : v < 0xD800 ∨ 0xDFFF < v) :
    Reads [UInt8.ofNat (v / 4096 % 16 + 224), UInt8.ofNat (v / 64 % 64 + 128),
      UInt8.ofNat (v % 64 + 128)] (Char.ofNat v) := by
  have b0 := toNat_ofNat (n := v / 4096 % 16 + 224) (by omega)
  have b1 := toNat_ofNat (n := v / 64 % 64 + 128) (by omega)
  have b2 := toNat_ofNat (n := v % 64 + 128) (by omega)
  generalize UInt8.ofNat (v / 4096 % 16 + 224) = first at b0
  generalize UInt8.ofNat (v / 64 % 64 + 128) = second at b1
  generalize UInt8.ofNat (v % 64 + 128) = third at b2
  have follows : between (utf8Second first).1 (utf8Second first).2 second = true := by
    apply between_utf8Second <;> omega
  have reads : Reads [first, second, third] _ :=
    reads_three (by omega) (by omega) follows (by omega)
  have value : (first.toNat % 16 * 64 + tailBits second) * 64 + tailBits third = v := by
    unfold tailBits
    omega
  rwa [value] at reads

theorem reads_encoded_four {v : Nat} (low : 65535 < v) (high : v < 0x110000) :
    Reads [UInt8.ofNat (v / 262144 % 8 + 240), UInt8.ofNat (v / 4096 % 64 + 128),
      UInt8.ofNat (v / 64 % 64 + 128), UInt8.ofNat (v % 64 + 128)] (Char.ofNat v) := by
  have b0 := toNat_ofNat (n := v / 262144 % 8 + 240) (by omega)
  have b1 := toNat_ofNat (n := v / 4096 % 64 + 128) (by omega)
  have b2 := toNat_ofNat (n := v / 64 % 64 + 128) (by omega)
  have b3 := toNat_ofNat (n := v % 64 + 128) (by omega)
  generalize UInt8.ofNat (v / 262144 % 8 + 240) = first at b0
  generalize UInt8.ofNat (v / 4096 % 64 + 128) = second at b1
  generalize UInt8.ofNat (v / 64 % 64 + 128) = third at b2
  generalize UInt8.ofNat (v % 64 + 128) = fourth at b3
  have follows : between (utf8Second first).1 (utf8Second first).2 second = true := by
    apply between_utf8Second <;> omega
  have reads : Reads [first, second, third, fourth] _ :=
    reads_four (by omega) (by omega) follows (by omega) (by omega)
  have value : ((first.toNat % 8 * 64 + tailBits second) * 64 + tailBits third) * 64 +
      tailBits fourth = v := by
    unfold tailBits
    omega
  rwa [value] at reads

theorem reads_encodeChar (c : Char) : Reads (String.utf8EncodeChar c) c := by
  have valid := valid_toNat c
  have whole : Char.ofNat c.toNat = c := Char.ofNat_toNat c
  have number : c.val.toNat = c.toNat := rfl
  have encoded : Reads (String.utf8EncodeChar c) (Char.ofNat c.toNat) := by
    unfold String.utf8EncodeChar
    simp only [number]
    split
    · exact reads_encoded_one (by omega)
    · split
      · exact reads_encoded_two (by omega) (by omega)
      · split
        · exact reads_encoded_three (by omega) (by omega) (by omega)
        · exact reads_encoded_four (by omega) (by omega)
  rwa [whole] at encoded

/-- All bytes of a longer form have their highest bit. -/
theorem le_of_mem_encodeChar {c : Char} {b : UInt8} (written : b ∈ String.utf8EncodeChar c)
    (long : 0x7F < c.toNat) : 0x80 ≤ b.toNat := by
  have number : c.val.toNat = c.toNat := rfl
  simp only [String.utf8EncodeChar, number] at written
  rw [if_neg (by omega)] at written
  split at written
  · simp only [List.mem_cons, List.not_mem_nil, or_false] at written
    rcases written with rfl | rfl <;> rw [toNat_ofNat] <;> omega
  · split at written
    · simp only [List.mem_cons, List.not_mem_nil, or_false] at written
      rcases written with rfl | rfl | rfl <;> rw [toNat_ofNat] <;> omega
    · simp only [List.mem_cons, List.not_mem_nil, or_false] at written
      rcases written with rfl | rfl | rfl | rfl <;> rw [toNat_ofNat] <;> omega

/-- A byte below 0x80 is written for the character with its number, and for no other. -/
theorem toNat_of_mem_encodeChar {c : Char} {b : UInt8} (written : b ∈ String.utf8EncodeChar c)
    (ascii : b.toNat < 0x80) : c.toNat = b.toNat := by
  rcases Nat.lt_or_ge 0x7F c.toNat with long | short
  · have high := le_of_mem_encodeChar written long
    omega
  · have number : c.val.toNat = c.toNat := rfl
    simp only [String.utf8EncodeChar, number] at written
    rw [if_pos short, List.mem_singleton] at written
    rw [written, toNat_ofNat (by omega)]

theorem runFrom_encode (text : List Char) (taken : Nat) (done : List Char) :
    runFrom .utf8 {} taken done (text.flatMap String.utf8EncodeChar) =
      { text := done.reverse ++ text, next := {} } := by
  induction text generalizing taken done with
  | nil => simp [runFrom]
  | cons c text ih =>
    obtain ⟨taken', same⟩ :=
      reads_encodeChar c taken done (text.flatMap String.utf8EncodeChar)
    rw [List.flatMap_cons, same, ih]
    simp

theorem ofText_eq (s : String) : Bytes.ofText s = s.toList.flatMap String.utf8EncodeChar := by
  unfold Bytes.ofText String.toUTF8
  rw [← String.utf8Encode_toList, List.utf8Encode, List.toList_data_toByteArray]

/-- The UTF-8 form of a text decodes to the text. -/
theorem decode_ofText (s : String) : decode .utf8 (Bytes.ofText s) = some s := by
  have all : run .utf8 {} (Bytes.ofText s) = { text := s.toList, next := {} } := by
    rw [ofText_eq]
    exact runFrom_encode s.toList 0 []
  simp [decode, decodeChars, all]

end WebRequest.Charset
