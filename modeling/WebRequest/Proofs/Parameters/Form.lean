-- What a form can be written as. A byte stands for itself or is escaped, a space may be a plus
-- sign; the decoder reads exactly these ways to write bytes, and whatever else it is given it fails
-- at the first percent sign without its digits. The pairs of a form are found again however their
-- names and values are escaped and however many ampersands stand between them.
import Mathlib.Data.List.Basic
import WebRequest.Parameters.Form
import WebRequest.Proofs.Charset.Utf8

namespace WebRequest.Parameters.Form

open Bytes

/-! ## Digits and escapes -/

/-- The hexadecimal digits in the order of their values. -/
def smallDigits : Bytes := "0123456789abcdef".toList.map byteOf

/-- The same with capital letters. -/
def capitalDigits : Bytes := "0123456789ABCDEF".toList.map byteOf

/-- The byte is the hexadecimal digit of a value, in either case. -/
def IsDigit (digit : UInt8) (value : Nat) : Prop :=
  smallDigits[value]? = some digit ∨ capitalDigits[value]? = some digit

instance (digit : UInt8) (value : Nat) : Decidable (IsDigit digit value) :=
  inferInstanceAs (Decidable (_ ∨ _))

theorem lt_of_isDigit {digit : UInt8} {value : Nat} (h : IsDigit digit value) : value < 16 := by
  rcases h with h | h
  · exact (List.getElem?_eq_some_iff.1 h).1
  · exact (List.getElem?_eq_some_iff.1 h).1

theorem hexValue_of_isDigit {digit : UInt8} {value : Nat} (h : IsDigit digit value) :
    hexValue digit = some (UInt8.ofNat value) := by
  have all : ∀ n < 16, (smallDigits[n]?.bind hexValue = some (UInt8.ofNat n)) ∧
      capitalDigits[n]?.bind hexValue = some (UInt8.ofNat n) := by decide +kernel
  obtain ⟨small, capital⟩ := all value (lt_of_isDigit h)
  rcases h with h | h
  · rwa [h] at small
  · rwa [h] at capital

theorem isDigit_of_hexValue {digit value : UInt8} (h : hexValue digit = some value) :
    IsDigit digit value.toNat := by
  have all : ∀ n < 256, ∀ v ∈ hexValue (UInt8.ofNat n), IsDigit (UInt8.ofNat n) v.toNat := by
    decide +kernel
  have digit' : UInt8.ofNat digit.toNat = digit := UInt8.ofNat_toNat
  have known := all digit.toNat (UInt8.toNat_lt digit)
  rw [digit'] at known
  exact known value h

/-- The ways to write bytes: each one as itself, unless it is a percent or a plus sign, or as a
percent sign and its two digits; a space also as a plus sign. -/
inductive Encodes : Bytes → Bytes → Prop
  | nil : Encodes [] []
  | itself {b : UInt8} {bytes text : Bytes} (percent : b ≠ byteOf '%') (plus : b ≠ byteOf '+')
      (rest : Encodes bytes text) : Encodes (b :: bytes) (b :: text)
  | escaped {b high low : UInt8} {bytes text : Bytes} (first : IsDigit high (b.toNat / 16))
      (second : IsDigit low (b.toNat % 16)) (rest : Encodes bytes text) :
      Encodes (b :: bytes) (byteOf '%' :: high :: low :: text)
  | space {bytes text : Bytes} (rest : Encodes bytes text) :
      Encodes (byteOf ' ' :: bytes) (byteOf '+' :: text)

/-- Two digits stand in front. -/
inductive Digits : Bytes → Prop
  | mk {high low : UInt8} {m n : Nat} {rest : Bytes} (first : IsDigit high m)
      (second : IsDigit low n) : Digits (high :: low :: rest)

theorem value_of_digits {b : UInt8} :
    UInt8.ofNat (b.toNat / 16) * 16 + UInt8.ofNat (b.toNat % 16) = b := by
  have small := UInt8.toNat_lt b
  rw [← UInt8.toNat_inj, UInt8.toNat_add, UInt8.toNat_mul, UInt8.toNat_ofNat', UInt8.toNat_ofNat']
  simp
  omega

theorem exists_byte {m n : Nat} (hm : m < 16) (hn : n < 16) :
    ∃ b : UInt8, b.toNat / 16 = m ∧ b.toNat % 16 = n := by
  refine ⟨UInt8.ofNat (m * 16 + n), ?_⟩
  rw [UInt8.toNat_ofNat', Nat.mod_eq_of_lt (by omega)]
  omega

/-! ## Decoding -/

theorem decodeFrom_itself {b : UInt8} (percent : b ≠ byteOf '%') (plus : b ≠ byteOf '+')
    (offset : Nat) (done rest : Bytes) :
    decodeFrom offset done (b :: rest) = decodeFrom (offset + 1) (b :: done) rest := by
  rw [decodeFrom.eq_def]
  simp only
  rw [if_neg plus, if_neg percent]

theorem decodeFrom_plus (offset : Nat) (done rest : Bytes) :
    decodeFrom offset done (byteOf '+' :: rest) =
      decodeFrom (offset + 1) (byteOf ' ' :: done) rest := by
  rw [decodeFrom.eq_def]
  exact if_pos rfl

theorem decodeFrom_escaped {b high low : UInt8} (first : IsDigit high (b.toNat / 16))
    (second : IsDigit low (b.toNat % 16)) (offset : Nat) (done rest : Bytes) :
    decodeFrom offset done (byteOf '%' :: high :: low :: rest) =
      decodeFrom (offset + 3) (b :: done) rest := by
  rw [decodeFrom, if_neg (by decide), if_pos rfl]
  simp only [hexValue_of_isDigit first, hexValue_of_isDigit second, value_of_digits]

theorem decodeFrom_broken {rest : Bytes} (broken : ¬ Digits rest) (offset : Nat) (done : Bytes) :
    decodeFrom offset done (byteOf '%' :: rest) = .error offset := by
  rw [decodeFrom.eq_def]
  simp only [if_true]
  rw [if_neg (by decide)]
  split
  · split
    · rename_i first second
      exact absurd (.mk (isDigit_of_hexValue first) (isDigit_of_hexValue second)) broken
    · rfl
  · rfl

/-- What encodes bytes is decoded to them, whatever comes before and behind it. -/
theorem decodeFrom_of_encodes {bytes text : Bytes} (h : Encodes bytes text) (offset : Nat)
    (done rest : Bytes) :
    decodeFrom offset done (text ++ rest) =
      decodeFrom (offset + text.length) (bytes.reverse ++ done) rest := by
  -- the offset grows by what has been read, one byte or one escape at a time
  have further (a b : Nat) (done : Bytes) (h : a = b) :
      decodeFrom a done rest = decodeFrom b done rest := by rw [h]
  induction h generalizing offset done with
  | nil => rfl
  | itself percent plus _ ih =>
    rw [List.cons_append, decodeFrom_itself percent plus, ih, List.reverse_cons, List.append_assoc]
    exact further _ _ _ (by simp; omega)
  | escaped first second _ ih =>
    simp only [List.cons_append]
    rw [decodeFrom_escaped first second, ih, List.reverse_cons, List.append_assoc]
    exact further _ _ _ (by simp; omega)
  | space _ ih =>
    rw [List.cons_append, decodeFrom_plus, ih, List.reverse_cons, List.append_assoc]
    exact further _ _ _ (by simp; omega)

/-- Every text encodes bytes, or it does so up to a percent sign without its digits. -/
theorem encodes_or_breaks (text : Bytes) :
    (∃ bytes, Encodes bytes text) ∨
      ∃ bytes front rest, text = front ++ byteOf '%' :: rest ∧ Encodes bytes front ∧
        ¬ Digits rest := by
  induction hn : text.length using Nat.strongRecOn generalizing text with
  | ind n ih =>
    subst hn
    cases text with
    | nil => exact .inl ⟨[], .nil⟩
    | cons b rest =>
      -- a byte or an escape that can be read goes in front of what is said of the rest
      have goesOn {byte : UInt8} (read : Bytes) {behind : Bytes}
          (split : b :: rest = read ++ behind) (shorter : behind.length < (b :: rest).length)
          (reads : ∀ bytes text, Encodes bytes text → Encodes (byte :: bytes) (read ++ text)) :
          (∃ bytes, Encodes bytes (b :: rest)) ∨
            ∃ bytes front rest', b :: rest = front ++ byteOf '%' :: rest' ∧
              Encodes bytes front ∧ ¬ Digits rest' := by
        rw [split]
        rcases ih _ shorter behind rfl with
          ⟨bytes, encodes⟩ | ⟨bytes, front, rest', rfl, encodes, broken⟩
        · exact .inl ⟨_, reads _ _ encodes⟩
        · exact .inr ⟨_, read ++ front, rest', by simp, reads _ _ encodes, broken⟩
      by_cases plus : b = byteOf '+'
      · subst plus
        exact goesOn [byteOf '+'] rfl (by simp) fun _ _ h => .space h
      · by_cases percent : b = byteOf '%'
        · subst percent
          by_cases digits : Digits rest
          · obtain @⟨high, low, m, n, behind, first, second⟩ := digits
            obtain ⟨byte, rfl, rfl⟩ := exists_byte (lt_of_isDigit first) (lt_of_isDigit second)
            exact goesOn [byteOf '%', high, low] rfl (by simp; omega)
              fun _ _ h => .escaped first second h
          · exact .inr ⟨[], [], rest, rfl, .nil, digits⟩
        · exact goesOn [b] rfl (by simp) fun _ _ h => .itself percent plus h

theorem percentDecode_of_encodes {bytes text : Bytes} (h : Encodes bytes text) :
    percentDecode text = .ok bytes := by
  have all := decodeFrom_of_encodes h 0 [] []
  rw [List.append_nil, List.append_nil] at all
  rw [percentDecode, all, decodeFrom, List.reverse_reverse]

theorem percentDecode_of_breaks {bytes front rest : Bytes} (h : Encodes bytes front)
    (broken : ¬ Digits rest) :
    percentDecode (front ++ byteOf '%' :: rest) = .error front.length := by
  rw [percentDecode, decodeFrom_of_encodes h, decodeFrom_broken broken, Nat.zero_add]

/-- Decoding inverts every way to write bytes, and accepts nothing else. -/
theorem percentDecode_eq_ok_iff {text bytes : Bytes} :
    percentDecode text = .ok bytes ↔ Encodes bytes text := by
  constructor
  · intro h
    rcases encodes_or_breaks text with ⟨bytes', encodes⟩ | ⟨_, front, rest, rfl, encodes, broken⟩
    · have same := (percentDecode_of_encodes encodes).symm.trans h
      cases same
      exact encodes
    · cases (percentDecode_of_breaks encodes broken).symm.trans h
  · exact percentDecode_of_encodes

/-! ## Faults -/

/-- A percent sign stands at the offset, without two digits behind it. -/
def BrokenAt (text : Bytes) (offset : Nat) : Prop :=
  text[offset]? = some (byteOf '%') ∧ ¬ Digits (text.drop (offset + 1))

theorem not_isDigit_percent (value : Nat) : ¬ IsDigit (byteOf '%') value := by
  intro h
  have read := hexValue_of_isDigit h
  have unread : hexValue (byteOf '%') = none := by decide
  cases unread.symm.trans read

theorem not_brokenAt_of_encodes {bytes text : Bytes} (h : Encodes bytes text) (rest : Bytes)
    {offset : Nat} (inside : offset < text.length) : ¬ BrokenAt (text ++ rest) offset := by
  induction h generalizing offset with
  | nil => cases inside
  | itself percent _ _ ih =>
    cases offset with
    | zero => exact fun broken => percent (Option.some.inj broken.1)
    | succ offset => exact ih (Nat.lt_of_succ_lt_succ inside)
  | escaped first second _ ih =>
    match offset with
    | 0 => exact fun broken => broken.2 (.mk first second)
    | 1 => exact fun broken => not_isDigit_percent _ (Option.some.inj broken.1 ▸ first)
    | 2 => exact fun broken => not_isDigit_percent _ (Option.some.inj broken.1 ▸ second)
    | offset + 3 =>
      have inside' :=
        Nat.lt_of_succ_lt_succ (Nat.lt_of_succ_lt_succ (Nat.lt_of_succ_lt_succ inside))
      exact ih inside'
  | space _ ih =>
    cases offset with
    | zero => exact fun broken => absurd (Option.some.inj broken.1) (by decide)
    | succ offset => exact ih (Nat.lt_of_succ_lt_succ inside)

/-- Decoding fails at the first percent sign without its digits, and only there. -/
theorem percentDecode_eq_error_iff {text : Bytes} {offset : Nat} :
    percentDecode text = .error offset ↔
      BrokenAt text offset ∧ ∀ earlier < offset, ¬ BrokenAt text earlier := by
  rcases encodes_or_breaks text with ⟨bytes, encodes⟩ | ⟨bytes, front, rest, rfl, encodes, broken⟩
  · have decoded := percentDecode_of_encodes encodes
    constructor
    · intro h
      cases decoded.symm.trans h
    · rintro ⟨h, -⟩
      have inside : offset < text.length := (List.getElem?_eq_some_iff.1 h.1).1
      have intact := not_brokenAt_of_encodes encodes [] inside
      rw [List.append_nil] at intact
      exact absurd h intact
  · have failed := percentDecode_of_breaks encodes broken
    have here : BrokenAt (front ++ byteOf '%' :: rest) front.length := by
      have behind : (front ++ byteOf '%' :: rest).drop (front.length + 1) = rest := by simp
      refine ⟨by simp, ?_⟩
      rw [behind]
      exact broken
    constructor
    · intro h
      cases failed.symm.trans h
      exact ⟨here, fun earlier before => not_brokenAt_of_encodes encodes _ before⟩
    · rintro ⟨h, first⟩
      rcases Nat.lt_trichotomy offset front.length with before | same | behind
      · exact absurd h (not_brokenAt_of_encodes encodes _ before)
      · rw [failed, same]
      · exact absurd here (first _ behind)

/-! ## Segments and pairs -/

theorem segments_append (a b : Bytes) :
    segments (a ++ byteOf '&' :: b) = segments a ++ segments b := by
  unfold segments
  rw [List.splitOnP_append_cons a b (decide_eq_true rfl), List.filter_append]

theorem segments_of_no_ampersand {s : Bytes} (plain : byteOf '&' ∉ s) :
    segments s = if s = [] then [] else [s] := by
  have none_ : ∀ b ∈ s, decide (b = byteOf '&') = false := by
    intro b hb
    exact decide_eq_false fun same => plain (same ▸ hb)
  unfold segments
  rw [List.splitOnP_eq_singleton none_]
  by_cases empty : s = []
  · simp [empty]
  · simp [empty]

/-- Segments with ampersands between them, and any number of further ones before, between and behind
them. -/
inductive Separated : List Bytes → Bytes → Prop
  | nil : Separated [] []
  | further {parts : List Bytes} {input : Bytes} (rest : Separated parts input) :
      Separated parts (byteOf '&' :: input)
  | last (part : Bytes) : Separated [part] part
  | next {parts : List Bytes} {input : Bytes} (part : Bytes) (rest : Separated parts input) :
      Separated (part :: parts) (part ++ byteOf '&' :: input)

theorem segments_of_separated {parts : List Bytes} {input : Bytes} (h : Separated parts input)
    (proper : ∀ part ∈ parts, part ≠ [] ∧ byteOf '&' ∉ part) : segments input = parts := by
  have alone {part : Bytes} (hp : part ≠ [] ∧ byteOf '&' ∉ part) : segments part = [part] := by
    rw [segments_of_no_ampersand hp.2, if_neg hp.1]
  induction h with
  | nil => rfl
  | @further parts input _ ih => exact (segments_append [] input).trans (ih proper)
  | last part => exact alone (proper part List.mem_cons_self)
  | next part _ ih =>
    have rest := ih fun p hp => proper p (List.mem_cons_of_mem part hp)
    rw [segments_append, alone (proper part List.mem_cons_self), rest, List.singleton_append]

theorem decodeText_of_encodes {text : String} {bytes : Bytes} (h : Encodes (ofText text) bytes)
    (source : Source) : decodeText ⟨.utf8, source⟩ bytes = .ok text := by
  simp only [decodeText, percentDecode_of_encodes h, Charset.decode_ofText]

/-- A pair and a way to write it: its name and its value are escaped so that no ampersand is left in
them, and no equals sign in the name. -/
structure Spelling where
  pair : String × String
  name : Bytes
  value : Bytes
  nameEncoded : Encodes (ofText pair.1) name
  valueEncoded : Encodes (ofText pair.2) value
  nameEnds : byteOf '=' ∉ name
  nameWhole : byteOf '&' ∉ name
  valueWhole : byteOf '&' ∉ value

namespace Spelling

/-- The pair as a segment. -/
def segment (s : Spelling) : Bytes := s.name ++ byteOf '=' :: s.value

theorem segment_proper (s : Spelling) : s.segment ≠ [] ∧ byteOf '&' ∉ s.segment := by
  refine ⟨by simp [segment], ?_⟩
  intro hmem
  rcases List.mem_append.1 hmem with hname | hvalue
  · exact s.nameWhole hname
  · rcases List.mem_cons.1 hvalue with same | hvalue
    · exact absurd same (by decide)
    · exact s.valueWhole hvalue

theorem pairOf_segment (s : Spelling) (source : Source) :
    pairOf ⟨.utf8, source⟩ s.segment = .ok s.pair := by
  have none_ : ∀ b ∈ s.name, decide (b = byteOf '=') = false := by
    intro b hb
    exact decide_eq_false fun same => s.nameEnds (same ▸ hb)
  have split : splitSegment s.segment = (s.name, s.value) := by
    unfold splitSegment segment
    rw [Text.splitFirst_append_cons none_ (decide_eq_true rfl), Option.getD_some]
  unfold pairOf
  rw [split]
  simp only [decodeText_of_encodes s.nameEncoded, decodeText_of_encodes s.valueEncoded, Except.map]

/-- A form is read as the pairs that it was written from. -/
theorem pairs_of_separated {fields : List Spelling} {input : Bytes}
    (separated : Separated (fields.map segment) input) (source : Source) :
    pairs ⟨.utf8, source⟩ input = fields.map fun s => .ok s.pair := by
  have proper : ∀ part ∈ fields.map segment, part ≠ [] ∧ byteOf '&' ∉ part := by
    intro part hpart
    obtain ⟨s, -, rfl⟩ := List.mem_map.1 hpart
    exact s.segment_proper
  rw [pairs, segments_of_separated separated proper, List.map_map]
  exact List.map_congr_left fun s _ => s.pairOf_segment source

end Spelling

/-- The decoder accepts exactly the ways to write bytes, and otherwise names the first percent sign
without its digits. So pairs are found again however they are written in a form; and every segment
of a form that is not empty has one result, whatever stands beside it. -/
theorem the_decoder_accepts_exactly_its_grammar :
    (∀ text bytes, percentDecode text = .ok bytes ↔ Encodes bytes text) ∧
    (∀ text offset, percentDecode text = .error offset ↔
      BrokenAt text offset ∧ ∀ earlier < offset, ¬ BrokenAt text earlier) ∧
    (∀ (fields : List Spelling) input source, Separated (fields.map Spelling.segment) input →
      pairs ⟨.utf8, source⟩ input = fields.map fun s => .ok s.pair) ∧
    (∀ reading front behind, pairs reading (front ++ byteOf '&' :: behind) =
      pairs reading front ++ pairs reading behind) ∧
    ∀ reading segment, byteOf '&' ∉ segment →
      pairs reading segment = if segment = [] then [] else [pairOf reading segment] := by
  refine ⟨fun _ _ => percentDecode_eq_ok_iff, fun _ _ => percentDecode_eq_error_iff, ?_, ?_, ?_⟩
  · intro fields input source separated
    exact Spelling.pairs_of_separated separated source
  · intro reading front behind
    rw [pairs, segments_append, List.map_append, pairs, pairs]
  · intro reading segment plain
    rw [pairs, segments_of_no_ampersand plain]
    split <;> rfl

/-- A pair with a sign of its own in the name and one in the value. -/
def signed : Spelling where
  pair := ("a b", "=é")
  name := ofText "a+%62"
  value := ofText "=%c3%A9"
  nameEncoded := percentDecode_eq_ok_iff.1 (by decide +kernel)
  valueEncoded := percentDecode_eq_ok_iff.1 (by decide +kernel)
  nameEnds := by decide +kernel
  nameWhole := by decide +kernel
  valueWhole := by decide +kernel

theorem a_signed_pair_is_read_back :
    Separated [signed.segment] (ofText "&a+%62==%c3%A9&&") ∧
      pairs ⟨.utf8, .query⟩ (ofText "&a+%62==%c3%A9&&") = [.ok ("a b", "=é")] := by
  have written : ofText "&a+%62==%c3%A9&&" =
      byteOf '&' :: (signed.segment ++ byteOf '&' :: byteOf '&' :: []) := by decide +kernel
  have separated : Separated [signed.segment] (ofText "&a+%62==%c3%A9&&") := by
    rw [written]
    exact .further (.next _ (.further .nil))
  obtain ⟨-, -, all, -⟩ := the_decoder_accepts_exactly_its_grammar
  exact ⟨separated, all [signed] _ .query separated⟩

end WebRequest.Parameters.Form
