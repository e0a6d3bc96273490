-- Decoding one byte at a time. Between two bytes a decoder remembers the bytes of the
-- character it is in the middle of, and for ISO-2022-JP the alphabet in force. A byte
-- either leads on, perhaps completing characters, or shows the input to be malformed.
import WebRequest.Bytes
import WebRequest.Charset.Basic
import WebRequest.Charset.FourByte
import WebRequest.Charset.Repertoire.Big5
import WebRequest.Charset.Repertoire.Gb18030
import WebRequest.Charset.Repertoire.Hangul
import WebRequest.Charset.Repertoire.JisX0208
import WebRequest.Charset.Repertoire.JisX0212

namespace WebRequest.Charset

/-- The alphabets that ISO-2022-JP switches between. -/
inductive Alphabet where
  | ascii
  | roman
  | katakana
  | kanji
  deriving DecidableEq, Repr

/-- What a decoder remembers between two bytes. -/
structure Scan where
  /-- The bytes of a character that is not complete. -/
  pending : Bytes := []
  /-- The alphabet in force. -/
  alphabet : Alphabet := .ascii
  /-- Nothing but an escape sequence has been read since the last one. -/
  escaped : Bool := false
  deriving DecidableEq, Repr

/-- The outcome of one byte. -/
inductive Step where
  /-- The byte leads on, and completes these characters. -/
  | more (text : List Char) (next : Scan)
  /-- The input is malformed. Decoding can go on from `next`, and then owes the text `owed`.
  With `some n`, it starts afresh instead if the last `n` bytes came in one chunk. -/
  | malformed (next : Scan) (owed : List Char) (within : Option Nat)
  deriving DecidableEq, Repr

/-- The byte belongs to a character that is not complete. -/
def Step.wait (pending : Bytes) : Step := .more [] { pending }

/-- The byte completes a character. -/
def Step.emit (c : Char) : Step := .more [c] {}

/-- The byte completes the character, if there is one. -/
def Step.emit? : Option Char → Step
  | some c => .emit c
  | none => .malformed {} [] none

/-- The input is malformed, and nothing of it is kept. -/
def Step.reject : Step := .malformed {} [] none

/-! ## UTF-8 -/

def between (low high b : UInt8) : Bool := low ≤ b && b ≤ high

/-- The bounds of the byte behind the first one: longer forms and surrogates are excluded. -/
def utf8Second (first : UInt8) : UInt8 × UInt8 :=
  if first = 0xE0 then (0xA0, 0xBF)
  else if first = 0xED then (0x80, 0x9F)
  else if first = 0xF0 then (0x90, 0xBF)
  else if first = 0xF4 then (0x80, 0x8F)
  else (0x80, 0xBF)

def tailBits (b : UInt8) : Nat := b.toNat % 64

def stepUtf8 (pending : Bytes) (b : UInt8) : Step :=
  match pending with
  | [] =>
    if b < 0x80 then .emit (Bytes.charOf b)
    else if between 0xC2 0xF4 b then .wait [b]
    else .reject
  | [first] =>
    let (low, high) := utf8Second first
    if !between low high b then .reject
    else if first < 0xE0 then .emit (Char.ofNat (first.toNat % 32 * 64 + tailBits b))
    else .wait [first, b]
  | [first, second] =>
    if !between 0x80 0xBF b then .reject
    else if first < 0xF0 then
      .emit (Char.ofNat ((first.toNat % 16 * 64 + tailBits second) * 64 + tailBits b))
    else .wait [first, second, b]
  | first :: second :: third :: _ =>
    if !between 0x80 0xBF b then .reject
    else
      .emit (Char.ofNat
        (((first.toNat % 8 * 64 + tailBits second) * 64 + tailBits third) * 64 + tailBits b))

/-! ## UTF-16 -/

def ByteOrder.unit (order : ByteOrder) (first second : UInt8) : Nat :=
  match order with
  | .big => first.toNat * 256 + second.toNat
  | .little => second.toNat * 256 + first.toNat

def isHighSurrogate (unit : Nat) : Bool := 0xD800 ≤ unit && unit < 0xDC00

def isLowSurrogate (unit : Nat) : Bool := 0xDC00 ≤ unit && unit < 0xE000

/-- A high surrogate without its low one is malformed. The unit behind it is kept, unless both
came in one chunk. -/
def stepUtf16 (order : ByteOrder) (pending : Bytes) (b : UInt8) : Step :=
  match pending with
  | [] => .wait [b]
  | [first] =>
    let unit := order.unit first b
    if isHighSurrogate unit then .wait [first, b]
    else if isLowSurrogate unit then .reject
    else .emit (Char.ofNat unit)
  | [h1, h2] => .wait [h1, h2, b]
  | h1 :: h2 :: first :: _ =>
    let unit := order.unit first b
    if isLowSurrogate unit then
      .emit (Char.ofNat (0x10000 + (order.unit h1 h2 - 0xD800) * 0x400 + (unit - 0xDC00)))
    else if isHighSurrogate unit then .malformed { pending := [first, b] } [] (some 4)
    else .malformed {} [Char.ofNat unit] (some 4)

/-! ## One byte per character -/

def stepSingle (table : SingleByte) (b : UInt8) : Step := .emit? (table.charOf? b)

/-- The upper half is private. -/
def stepUserDefined (b : UInt8) : Step :=
  if b < 0x80 then .emit (Bytes.charOf b) else .emit (Char.ofNat (0xF780 + (b.toNat - 0x80)))

/-! ## Shift_JIS and EUC-JP -/

/-- The katakana of half width, by the code that starts at 0x21. -/
def halfWidth (code : Nat) : Char := Char.ofNat (0xFF61 + (code - 0x21))

def stepShiftJis (pending : Bytes) (b : UInt8) : Step :=
  match pending with
  | [] =>
    if b ≤ 0x80 then .emit (Bytes.charOf b)
    else if between 0xA1 0xDF b then .emit (halfWidth (b.toNat - 0x80))
    else if between 0x81 0x9F b || between 0xE0 0xFC b then .wait [b]
    else .reject
  | lead :: _ =>
    if between 0x40 0x7E b || between 0x80 0xFC b then
      let row := lead.toNat - (if lead < 0xA0 then 0x81 else 0xC1)
      let cell := row * 188 + (b.toNat - (if b < 0x7F then 0x40 else 0x41))
      if 8836 ≤ cell ∧ cell ≤ 10715 then .emit (Char.ofNat (0xE000 + (cell - 8836)))
      else .emit? (Repertoire.jisX0208.charAt? (cell / 94) (cell % 94))
    else .reject

def stepEucJp (pending : Bytes) (b : UInt8) : Step :=
  match pending with
  | [] =>
    if b < 0x80 then .emit (Bytes.charOf b)
    else if b = 0x8E ∨ b = 0x8F ∨ between 0xA1 0xFE b then .wait [b]
    else .reject
  | [lead] =>
    if lead = 0x8E then
      if between 0xA1 0xDF b then .emit (halfWidth (b.toNat - 0x80)) else .reject
    else if !between 0xA1 0xFE b then .reject
    else if lead = 0x8F then .wait [lead, b]
    else .emit? (Repertoire.jisX0208.charAt? (lead.toNat - 0xA1) (b.toNat - 0xA1))
  | _ :: lead :: _ =>
    if between 0xA1 0xFE b then
      .emit? (Repertoire.jisX0212.charAt? (lead.toNat - 0xA1) (b.toNat - 0xA1))
    else .reject

/-! ## ISO-2022-JP -/

def alphabetOf? (lead b : UInt8) : Option Alphabet :=
  if lead = 0x28 then
    if b = 0x42 then some .ascii
    else if b = 0x4A then some .roman
    else if b = 0x49 then some .katakana
    else none
  else if b = 0x40 ∨ b = 0x42 then some .kanji
  else none

/-- A byte at the start of a character. -/
def stepAlphabet (alphabet : Alphabet) (b : UInt8) : Step :=
  let next : Scan := { alphabet }
  let bad : Step := .malformed next [] none
  match alphabet with
  | .ascii =>
    if b = 0x0E ∨ b = 0x0F ∨ 0x80 ≤ b then bad else .more [Bytes.charOf b] next
  | .roman =>
    if b = 0x0E ∨ b = 0x0F ∨ 0x80 ≤ b then bad
    else if b = 0x5C then .more ['\u00a5'] next
    else if b = 0x7E then .more ['\u203e'] next
    else .more [Bytes.charOf b] next
  | .katakana => if between 0x21 0x5F b then .more [halfWidth b.toNat] next else bad
  | .kanji => if between 0x21 0x7E b then .more [] { next with pending := [b] } else bad

/-- After a broken escape sequence its second byte is read again in the alphabet in force. -/
def stepBrokenEscape (alphabet : Alphabet) (lead : UInt8) : Step :=
  match stepAlphabet alphabet lead with
  | .more text next => .malformed next text none
  | bad => bad

def stepIso2022Jp (s : Scan) (b : UInt8) : Step :=
  match s.pending with
  | [] => if b = 0x1B then .more [] { s with pending := [b] } else stepAlphabet s.alphabet b
  | [first] =>
    if first = 0x1B then
      if b = 0x24 ∨ b = 0x28 then .more [] { s with pending := [first, b] }
      else .malformed { alphabet := s.alphabet } [] none
    else if b = 0x1B then .malformed { s with pending := [b] } [] none
    else
      let next : Scan := { s with pending := [] }
      if between 0x21 0x7E b then
        match Repertoire.jisX0208.charAt? (first.toNat - 0x21) (b.toNat - 0x21) with
        | some c => .more [c] next
        | none => .malformed next [] none
      else .malformed next [] none
  | _ :: lead :: _ =>
    match alphabetOf? lead b with
    | some alphabet =>
      let next : Scan := { alphabet, escaped := true }
      if s.escaped then .malformed next [] none else .more [] next
    | none => stepBrokenEscape s.alphabet lead

/-! ## GBK and GB 18030 -/

/-- The private characters of the three user-defined areas. -/
def gbPrivate? (row cell : Nat) : Option Char :=
  if 0x29 ≤ row ∧ row ≤ 0x2E ∧ 96 ≤ cell then
    some (Char.ofNat (0xE000 + (row - 0x29) * 94 + (cell - 96)))
  else if 0x77 ≤ row ∧ row ≤ 0x7D ∧ 96 ≤ cell then
    some (Char.ofNat (0xE234 + (row - 0x77) * 94 + (cell - 96)))
  else if 0x20 ≤ row ∧ row ≤ 0x26 ∧ cell < 96 then
    some (Char.ofNat (0xE4C6 + (row - 0x20) * 96 + cell))
  else none

/-- The character of two bytes. The byte 0x7F is never the second one. -/
def gbPair? (lead b : UInt8) : Option Char :=
  if between 0x40 0x7E b || between 0x80 0xFE b then
    let row := lead.toNat - 0x81
    let cell := b.toNat - (if b < 0x7F then 0x40 else 0x41)
    (Repertoire.gb18030.charAt? row cell).or (gbPrivate? row cell)
  else none

/-- A sequence of four bytes that breaks off keeps the digit in its second place. -/
def stepGb (pending : Bytes) (b : UInt8) : Step :=
  match pending with
  | [] =>
    if b < 0x80 then .emit (Bytes.charOf b)
    else if b = 0x80 then .emit '\u20ac'
    else if b = 0xFF then .reject
    else .wait [b]
  | [first] => if between 0x30 0x39 b then .wait [first, b] else .emit? (gbPair? first b)
  | [first, second] =>
    if between 0x81 0xFE b then .wait [first, second, b]
    else .malformed {} [Bytes.charOf second] none
  | first :: second :: third :: _ =>
    if between 0x30 0x39 b then .emit? (fourByteChar? (fourByteIndex first second third b))
    else .malformed { pending := [third] } [Bytes.charOf second] none

/-! ## Big5 and EUC-KR -/

/-- A byte at the start of a character. -/
def stepLead (b : UInt8) : Step :=
  if b < 0x80 then .emit (Bytes.charOf b)
  else if between 0x81 0xFE b then .wait [b]
  else .reject

/-- The text of a cell of Big5. Four cells hold a letter with a mark, which has no character of
its own. -/
def big5Text? (row cell : Nat) : Option (List Char) :=
  if row = 7 ∧ cell = 34 then some ['\u00ca', '\u0304']
  else if row = 7 ∧ cell = 36 then some ['\u00ca', '\u030c']
  else if row = 7 ∧ cell = 65 then some ['\u00ea', '\u0304']
  else if row = 7 ∧ cell = 67 then some ['\u00ea', '\u030c']
  else (Repertoire.big5.charAt? row cell).map ([·])

def stepBig5 (pending : Bytes) (b : UInt8) : Step :=
  match pending with
  | [] => stepLead b
  | lead :: _ =>
    if between 0x40 0x7E b || between 0xA1 0xFE b then
      match big5Text? (lead.toNat - 0x81) (b.toNat - (if b < 0x7F then 0x40 else 0x62)) with
      | some text => .more text {}
      | none => .reject
    else .reject

def stepEucKr (pending : Bytes) (b : UInt8) : Step :=
  match pending with
  | [] => stepLead b
  | lead :: _ =>
    if between 0x41 0xFE b then
      .emit? (Repertoire.hangul.charAt? (lead.toNat - 0x81) (b.toNat - 0x41))
    else .reject

/-- One byte of a text in a charset. -/
def step (c : Charset) (s : Scan) (b : UInt8) : Step :=
  match c with
  | .utf8 => stepUtf8 s.pending b
  | .utf16 order => stepUtf16 order s.pending b
  | .userDefined => stepUserDefined b
  | .single table => stepSingle table b
  | .gbk | .gb18030 => stepGb s.pending b
  | .big5 => stepBig5 s.pending b
  | .eucKr => stepEucKr s.pending b
  | .eucJp => stepEucJp s.pending b
  | .iso2022Jp => stepIso2022Jp s b
  | .shiftJis => stepShiftJis s.pending b

end WebRequest.Charset
